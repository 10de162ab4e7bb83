import Bouquet.Proofs.MarkedSet
import Bouquet.Proofs.SharedForeground
import Bouquet.Proofs.Strides

/-!
# The Look of a Drag

A row looks marked while any entry is being dragged, not only that of the dragged entry. A view that
goes over its rows one by one shows each of them during a drag as if its entry were marked. A row
does not tell of the drag just where a mark shows neither on its ground nor in its foreground.

## Main definitions

- `Scene.HidesMark`: a row in which a mark does not show
- `ListView.withCursor`: a view with the cursor on an entry

## Main statements

- `Scene.backgroundPieces_withMark_iff`, `Scene.map_underMark_iff`: the ground and what stands on it
- `Scene.compose_withMark_iff`: the row of an entry that is marked or not
- `ListView.describe_of_visible`: the row of a visible entry
- `ListView.drag_unseen_iff`: a row during and without a drag
- `ListView.drag_seen_elsewhere`: a row that tells of the drag of another entry
-/

namespace Bouquet

namespace Scene

variable {s : Scene} {front : List Piece} {marked : Bool}

/-! ## Rows that hide a mark -/

/-- A mark of the entry does not show: the ground keeps its color or is not to be seen, and the
foreground keeps its color or nothing that stands on the ground is drawn in it. -/
structure HidesMark (s : Scene) (front : List Piece) : Prop where
  ground : s.groundRect.isEmpty = true ∨ (s.withMark true).groundColor = s.groundColor
    ∨ (s.withMark true).groundColor.isVisible = false ∧ s.groundColor.isVisible = false
  foreground : (s.withMark true).foreground = s.foreground
    ∨ ∀ p ∈ front, p.element.color?.isSome = true → (s.ownColor? p.part).isSome = true

/-- The ground changes with its color, unless it has no extent or neither color can be seen. -/
theorem backgroundPieces_withMark_iff (s : Scene) (marked : Bool) :
    (s.withMark marked).backgroundPieces.map Piece.element = s.backgroundPieces.map Piece.element
      ↔ s.groundRect.isEmpty = true ∨ (s.withMark marked).groundColor = s.groundColor
        ∨ (s.withMark marked).groundColor.isVisible = false
          ∧ s.groundColor.isVisible = false := by
  have hrect : (s.withMark marked).groundRect = s.groundRect := rfl
  have hstyle : (s.withMark marked).style = s.style := rfl
  have hselected : (s.withMark marked).selected = s.selected := rfl
  unfold backgroundPieces Piece.block
  -- the pixmap of the style stays
  rw [hrect, hstyle, hselected, List.map_append, List.map_append, List.append_cancel_left_eq]
  by_cases hempty : s.groundRect.isEmpty = true
  · simp [hempty]
  · have hne (h : (s.withMark marked).groundColor.isVisible ≠ s.groundColor.isVisible) :
        (s.withMark marked).groundColor ≠ s.groundColor := fun heq => h (by rw [heq])
    cases hnew : (s.withMark marked).groundColor.isVisible <;>
      cases hold : s.groundColor.isVisible <;> rw [hnew, hold] at hne
    · simp
    · simp [hempty, hne]
    · simp [hempty, hne]
    · simp [hempty]

/-- Another color of a piece shows in its element. -/
theorem underMark_element_iff {p : Piece} :
    (s.underMark marked p).element = p.element ↔ s.underMark marked p = p := by
  have hpart : (s.underMark marked p).part = p.part := by
    unfold underMark
    split <;> rfl
  cases p with
  | mk part element =>
    cases hother : s.underMark marked ⟨part, element⟩ with
    | mk otherPart other =>
      rw [hother] at hpart
      obtain rfl : otherPart = part := hpart
      simp

/-- What stands on the ground changes with the foreground, unless nothing shares it. -/
theorem map_underMark_iff (marked : Bool) (h : s.frontPieces = .ok front) :
    (front.map (s.underMark marked)).map Piece.element = front.map Piece.element
      ↔ (s.withMark marked).foreground = s.foreground
        ∨ ∀ p ∈ front, p.element.color?.isSome = true → (s.ownColor? p.part).isSome = true := by
  rw [List.map_map, List.map_inj_left]
  simp only [Function.comp_apply, underMark_element_iff, underMark_eq_self]
  constructor
  · intro hsame
    by_cases hshared : ∃ p ∈ front, p.element.color?.isSome = true ∧ s.ownColor? p.part = none
    · -- this piece has the one foreground and keeps it under the other
      obtain ⟨p, hp, hcolor, hown⟩ := hshared
      obtain ⟨color, hcolor⟩ := Option.isSome_iff_exists.mp hcolor
      exact .inl ((hsame p hp hown color hcolor).symm.trans (color_of_shared h hp hown hcolor))
    · refine .inr fun p hp hcolor => ?_
      by_contra hown
      exact hshared ⟨p, hp, hcolor, Option.not_isSome_iff_eq_none.mp hown⟩
  · rintro (hforeground | hown) p hp hshared color hcolor
    · rw [hforeground]
      exact color_of_shared h hp hshared hcolor
    · have hsome := hown p hp (by rw [hcolor]; rfl)
      rw [hshared] at hsome
      cases hsome

/-- **The row of a marked entry** is that of an unmarked one exactly if it hides the mark. A row
with a fault has it either way. -/
theorem compose_withMark_iff :
    (s.withMark true).compose = s.compose
      ↔ ∀ front, s.frontPieces = .ok front → s.HidesMark front := by
  unfold compose pieces
  rw [frontPieces_withMark]
  cases hfront : s.frontPieces with
  | error fault =>
    simp only [reduceCtorEq, false_implies, implies_true, iff_true]
    rfl
  | ok front =>
    have hground := backgroundPieces_withMark_iff s true
    have hforeground := map_underMark_iff true hfront
    have helements : ((s.withMark true).backgroundPieces
          ++ front.map (s.underMark true)).map Piece.element
        = (s.backgroundPieces ++ front).map Piece.element ↔ s.HidesMark front := by
      rw [List.map_append, List.map_append]
      constructor
      · intro h
        -- as many pieces stand on the ground with the mark as without it
        obtain ⟨hback, hfront⟩ := List.append_inj' h (by simp)
        exact ⟨hground.mp hback, hforeground.mp hfront⟩
      · intro h
        rw [hground.mpr h.ground, hforeground.mpr h.foreground]
    constructor
    · intro h other hother
      obtain rfl : front = other := Except.ok.inj hother
      exact helements.mp (Row.mk.inj (Except.ok.inj h)).2.2
    · intro h
      exact congrArg (fun elements => Except.ok (Row.mk s.look.itemSize s.selected elements))
        (helements.mpr (h front rfl))

end Scene

namespace ListView

variable {v : ListView} {sources : Sources} {style : Style} {selected : Bool} {r : Reference}

/-! ## Rows during a drag -/

/-- Of a drag and of the marked set a scene keeps whether its entry looks marked. -/
theorem scene_of_marks (dragging : Bool) (marks : Marks) :
    ({ v with listing := { v.listing with dragging := dragging, marks := marks } } :
        ListView).scene sources style selected r
      = (v.scene sources style selected r).withMark (dragging || marks.contains r) := rfl

/-- The view with the cursor on an entry. -/
def withCursor (v : ListView) (ordinal : Nat) : ListView :=
  { v with listing := { v.listing with cursor := ordinal } }

/-- The cursor goes to a visible entry with and without a drag. -/
theorem perform_set_of_visible {ordinal : Nat} (hr : v.listing.entries[ordinal]? = some r)
    (hvisible : r.isVisible = true) (dragging : Bool) (marks : Marks) :
    (perform sources (.list (.set ordinal))
        { v with listing := { v.listing with dragging := dragging, marks := marks } }).view
      = { v.withCursor ordinal with
          listing := { (v.withCursor ordinal).listing with
            dragging := dragging, marks := marks } } := by
  have hset := Listing.set_of_visibleAt
    (l := { v.listing with dragging := dragging, marks := marks }) ⟨r, hr, hvisible⟩
  exact congrArg (fun listing => { v with listing := listing }) hset

/-- The row of a visible entry is that of an entry with a mark, if it is in the marked set or there
is a drag. -/
theorem describe_of_visible {ordinal : Nat} (hr : v.listing.entries[ordinal]? = some r)
    (hvisible : r.isVisible = true) (dragging : Bool) (marks : Marks) :
    ((perform sources (.list (.set ordinal)) { v with
        listing := { v.listing with dragging := dragging, marks := marks } }).view.describe
          sources style selected).2
      = (((v.withCursor ordinal).scene sources style selected r).withMark
          (dragging || marks.contains r)).compose.map some := by
  rw [perform_set_of_visible hr hvisible, ← scene_of_marks]
  apply describe_of_some
  exact hr

/-- **Every row looks marked during a drag.** Whichever entry is dragged, the row of a visible entry
is described as if that entry were in the marked set. For an entry that is not in it, the row is
therefore the same as without the drag exactly if it hides the mark. -/
theorem drag_unseen_iff (v : ListView) (sources : Sources) (style : Style) (selected : Bool)
    {ordinal : Nat} {r : Reference} (hr : v.listing.entries[ordinal]? = some r)
    (hvisible : r.isVisible = true) (hunmarked : v.listing.marks.contains r = false) :
    let atEntry := fun listing : Listing =>
      (perform sources (.list (.set ordinal)) { v with listing := listing }).view
    let shown := fun listing : Listing =>
      ((atEntry listing).describe sources style selected).2
    let dragged := { v.listing with dragging := true }
    let still := { v.listing with dragging := false }
    let scene := (atEntry still).scene sources style selected r
    shown dragged = shown { still with marks := (still.marks.insert r).1 } ∧
      (shown dragged = shown still ↔
        ∀ front, scene.frontPieces = .ok front → scene.HidesMark front) := by
  intro atEntry shown dragged still scene
  have hshown (dragging : Bool) (marks : Marks) :
      shown { v.listing with dragging := dragging, marks := marks } = _ :=
    describe_of_visible hr hvisible dragging marks
  have hscene : scene
      = ((v.withCursor ordinal).scene sources style selected r).withMark false := by
    have hstill : atEntry still = _ := perform_set_of_visible hr hvisible false v.listing.marks
    show (atEntry still).scene sources style selected r = _
    rw [hstill, scene_of_marks, hunmarked]
    rfl
  have hdragged : shown dragged = (scene.withMark true).compose.map some := by
    rw [hscene]
    exact hshown true v.listing.marks
  have hstill : shown still = scene.compose.map some := by
    have h := hshown false v.listing.marks
    rw [hunmarked] at h
    rwa [hscene]
  constructor
  · -- without the drag the entry has a mark from the set
    rw [hdragged, hshown false (still.marks.insert r).1, Marks.contains_insert, hscene]
    rfl
  · -- rows, or their faults, are described as they are composed
    rw [hdragged, hstill, ← Scene.compose_withMark_iff]
    cases (scene.withMark true).compose <;> cases scene.compose <;> simp [Except.map]

/-- Two entries with the cursor on the first, and a color for the names of marked entries. -/
def painted : List (Sources × ViewAction) :=
  [.list (.append shownEntry), .list (.append (.plain .service "other" "other")), .list .home,
    .change (.size ⟨300, 20⟩),
    .change (.color .markedForeground (some .yellow))].map fun action => (.silent, action)

/-- Without colors for marked entries a drag is not seen in the row of the other entry. -/
theorem drag_unseen_uncolored :
    let v := run painted.dropLast empty
    let shown := fun listing : Listing =>
      ((perform .silent (.list (.set 1)) { v with listing := listing }).view.describe
        .silent .plain false).2
    (∃ r, v.listing.entries[1]? = some r ∧ r.isVisible = true
        ∧ v.listing.marks.contains r = false)
      ∧ shown { v.listing with dragging := true } = shown { v.listing with dragging := false } := by
  intro v shown
  have hr : v.listing.entries[1]? = some (.plain .service "other" "other") := rfl
  have hhides := drag_unseen_iff v .silent .plain false hr rfl rfl
  exact ⟨⟨_, hr, rfl, rfl⟩, hhides.2.mpr fun _ _ => ⟨.inr (.inl rfl), .inl rfl⟩⟩

/-- The row of the second entry tells that the first is dragged. -/
theorem drag_seen_elsewhere :
    let v := run painted empty
    let dragged := (perform .silent (.list (.setDragging true)) v).view
    let still : ListView := { dragged with listing := { dragged.listing with dragging := false } }
    let shown := fun v : ListView =>
      ((perform .silent (.list (.set 1)) v).view.describe .silent .plain false).2
    v.listing.cursor = 0 ∧ dragged.listing.dragging = true
      ∧ (∃ r, dragged.listing.entries[1]? = some r ∧ r.isVisible = true
        ∧ dragged.listing.marks.contains r = false)
      ∧ shown dragged ≠ shown still := by
  intro v dragged still shown
  refine ⟨by decide, by decide, ⟨.plain .service "other" "other", by decide⟩, fun hsame => ?_⟩
  -- the name of the dragged row has no blue in its color
  let blue (described : Except Fault (Option Row)) : Option (List (Option Bool)) :=
    described.toOption.join.map fun row => row.elements.map fun e => e.color?.map fun c => c.b > 0
  have hdragged : blue (shown dragged) = some [some true, some false] := by decide +kernel
  have hstill : blue (shown still) = some [some true, some true] := by decide +kernel
  rw [hsame, hstill] at hdragged
  simp at hdragged

end ListView

end Bouquet
