import Bouquet.Proofs.Bookmarks
import Bouquet.Proofs.Effects

/-!
# Where the Cursor Stands

The cursor belongs at the end of the list or on a visible entry. Every operation keeps it there
except in two places where a position is taken over without looking for a visible entry: an
invisible entry that is added to an empty list becomes current, and a bookmark whose entry is gone
leads to its old ordinal even when an invisible entry has moved up to it.

## Main definitions

- `Listing.CursorPlaced`: the cursor is where it belongs
- `Listing.Strays`: the steps that take it elsewhere

## Main statements

- `Listing.cursorPlaced_throughout_iff`: the cursor stays where it belongs throughout a run exactly
  if no step of the run strays
-/

namespace Bouquet.Listing

/-- The cursor is at the end of the list or on a visible entry. -/
def CursorPlaced (l : Listing) : Prop :=
  l.cursor = l.size ∨ VisibleAt l.entries l.cursor

instance (l : Listing) : Decidable l.CursorPlaced :=
  inferInstanceAs (Decidable (l.cursor = l.size ∨ VisibleAt l.entries l.cursor))

/-- The steps that leave the cursor on an invisible entry: one is added to an empty list, or the
entry of a bookmark is gone and one stands in its place. -/
def Strays (l : Listing) : ListingOp → Prop
  | .add entry _ => l.entries = [] ∧ entry.isInvisible = true
  | .goBack key => ∃ mark e x, l.bookmarks.get? key = some mark ∧ mark.entry = some e ∧
      (∀ r ∈ l.entries, e.same r = false) ∧ l.entries[mark.ordinal]? = some x ∧
      x.isInvisible = true
  | _ => False

/-- Every bookmark is of a visible entry or of the end of the list. -/
def MarksVisible (l : Listing) : Prop :=
  ∀ key mark e, l.bookmarks.get? key = some mark → mark.entry = some e → e.isVisible = true

/-- On an entry, a cursor in its place is on a visible one. -/
theorem CursorPlaced.visibleAt {l : Listing} (h : l.CursorPlaced)
    (hentry : l.cursor < l.entries.length) : VisibleAt l.entries l.cursor := by
  rcases h with hend | hvisible
  · exact absurd hend (Nat.ne_of_lt hentry)
  · exact hvisible

theorem CursorPlaced.cursor_le {l : Listing} (h : l.CursorPlaced) : l.cursor ≤ l.size := by
  rcases h with hend | hvisible
  · exact Nat.le_of_eq hend
  · exact Nat.le_of_lt hvisible.lt_length

/-! ## Going to a place -/

private theorem placed_firstVisibleFrom (entries : List Reference) (start : Nat) :
    firstVisibleFrom entries start = entries.length ∨
      VisibleAt entries (firstVisibleFrom entries start) := by
  rcases Nat.lt_or_eq_of_le (firstVisibleFrom_le_length entries start) with hlt | heq
  · exact Or.inr (visibleAt_firstVisibleFrom hlt)
  · exact Or.inl heq

theorem cursorPlaced_set (l : Listing) (ordinal : Nat) : (l.set ordinal).CursorPlaced :=
  placed_firstVisibleFrom l.entries ordinal

theorem cursorPlaced_select {l : Listing} (h : l.CursorPlaced) (r : Reference) :
    (l.select r).1.CursorPlaced := by
  simp only [select]
  split
  · exact cursorPlaced_set l _
  · exact h

/-! ## Strides -/

theorem cursorPlaced_of_stride {l l' : Listing} {notices : List Notice}
    (hstride : Stride l l' notices) (h : l.CursorPlaced) : l'.CursorPlaced := by
  cases hstride with
  | drag target _ hentry htarget _ _ =>
    -- the cursor goes along with the visible entry that it was on
    have hcurrent := h.visibleAt hentry
    refine Or.inr ((visibleAt_swapped hentry htarget.lt_length target).mpr ?_)
    rwa [Equiv.swap_apply_right]
  | walk target _ htarget =>
    exact htarget.symm

theorem cursorPlaced_move {l : Listing} (h : l.CursorPlaced) (count : Int) :
    (l.move count).1.CursorPlaced :=
  move_induction (fun _ _ _ hstride => cursorPlaced_of_stride hstride) count h

/-! ## Edits -/

/-- An insertion leaves the cursor on its visible entry, or at the end of the list. -/
theorem cursorPlaced_add {l : Listing} (h : l.CursorPlaced) (hne : l.entries ≠ [])
    (r : Reference) (before : Bool) : (l.add r before).1.CursorPlaced := by
  have hpoint := insertionPoint_le l before
  have hcursor := add_cursor hne r before
  rcases h with hend | ⟨e, he, hv⟩
  · refine Or.inl ?_
    have hlen : l.cursor = l.entries.length := hend
    rw [hcursor, if_pos (by omega), hlen]
    exact (List.length_insertIdx_of_le_length hpoint r).symm
  · refine Or.inr ⟨e, ?_, hv⟩
    rw [hcursor]
    -- the current entry moves on with the cursor, or neither does
    by_cases hat : l.insertionPoint before ≤ l.cursor
    · rw [if_pos hat]
      exact (List.getElem?_insertIdx_of_gt (by omega)).trans he
    · rw [if_neg hat]
      exact (List.getElem?_insertIdx_of_lt (by omega)).trans he

/-- In an empty list the inserted entry becomes current, visible or not. -/
theorem cursorPlaced_add_of_empty {l : Listing} (hempty : l.entries = []) (r : Reference)
    (before : Bool) : (l.add r before).1.CursorPlaced ↔ r.isVisible = true := by
  have hpoint : l.insertionPoint before = 0 := by
    have hle := insertionPoint_le l before
    rw [hempty] at hle
    exact Nat.le_zero.mp hle
  have hentries : (l.add r before).1.entries = [r] := by
    simp [add, hpoint, hempty]
  rw [CursorPlaced, size, hentries, add_cursor_of_empty hempty]
  simp

theorem cursorPlaced_append {l : Listing} (h : l.CursorPlaced) (r : Reference) :
    (l.append r).1.CursorPlaced := by
  -- a cursor at the end of the list follows the end
  by_cases hentry : l.isOnEntry = true
  · obtain ⟨e, he, hv⟩ := h.visibleAt ((isOnEntry_iff l).mp hentry)
    refine Or.inr ⟨e, ?_, hv⟩
    simp only [append, hentry, if_true]
    rw [List.getElem?_append_left ((isOnEntry_iff l).mp hentry), he]
  · refine Or.inl ?_
    simp [append, hentry, size]

theorem cursorPlaced_removeCurrent {l : Listing} (h : l.CursorPlaced) :
    l.removeCurrent.1.CursorPlaced := by
  simp only [removeCurrent]
  split
  · exact placed_firstVisibleFrom _ _
  · exact h

/-- Sorting takes the cursor to the new place of its entry. -/
theorem cursorPlaced_sort {l : Listing} (h : l.CursorPlaced)
    (order : Reference → Reference → Ordering) : (l.sort order).1.CursorPlaced := by
  rcases h with hend | hvisible
  · refine Or.inl ?_
    rw [sort_cursor, sortedOrdinal_of_length_le (Nat.le_of_eq hend.symm)]
    simp [sort, size]
  · refine Or.inr ?_
    have hlt := hvisible.lt_length
    obtain ⟨e, he, hv⟩ := hvisible
    exact ⟨e, (getElem?_sortedOrdinal hlt).trans he, hv⟩

/-! ## Bookmarks -/

/-- Going back leads to the end of the list or a visible entry, unless an invisible entry stands
in the place of one that is gone. -/
theorem cursorPlaced_goBack_iff {l : Listing} {key : BookmarkKey} {mark : Bookmark}
    (hmark : l.bookmarks.get? key = some mark) (hvisible : l.MarksVisible) :
    (l.goBack key).1.CursorPlaced ↔ ¬ Strays l (.goBack key) := by
  have hstrays : Strays l (.goBack key) ↔ ∃ e x, mark.entry = some e ∧
      (∀ r ∈ l.entries, e.same r = false) ∧ l.entries[mark.ordinal]? = some x ∧
      x.isInvisible = true := by
    simp [Strays, hmark]
  -- an entry of the same identity is just as visible as the one that was kept
  have hlisted : ∀ e x ordinal, mark.entry = some e → l.entries[ordinal]? = some x →
      e.same x = true → ((ordinal = l.entries.length ∨ VisibleAt l.entries ordinal)
        ↔ ¬ Strays l (.goBack key)) := by
    intro e x ordinal he hx hsame
    have hv : x.isVisible = true :=
      (Reference.isVisible_of_same hsame).trans (hvisible key mark e hmark he)
    refine iff_of_true (Or.inr ⟨x, hx, hv⟩) ?_
    rw [hstrays]
    rintro ⟨_, _, he', hgone, -, -⟩
    obtain rfl := Option.some.inj (he.symm.trans he')
    simp [hgone x (List.mem_of_getElem? hx)] at hsame
  have hleads := (Bookmark.resolve_eq_iff mark l.entries _).mp rfl
  rw [goBack_of_some hmark]
  show mark.resolve l.entries = l.entries.length ∨ VisibleAt l.entries (mark.resolve l.entries) ↔ _
  generalize mark.resolve l.entries = ordinal at hleads ⊢
  cases hleads with
  | toEnd hend =>
    rw [hstrays]
    exact iff_of_true (Or.inl rfl) (by simp [hend])
  | stays e x he hx hsame => exact hlisted e x _ he hx hsame
  | moved e x _ he _ hx hsame _ => exact hlisted e x _ he hx hsame
  | lost e he hlost =>
    rw [hstrays]
    by_cases hlt : mark.ordinal < l.entries.length
    · -- the old ordinal is taken over with whatever entry stands there now
      obtain ⟨x, hx⟩ : ∃ x, l.entries[mark.ordinal]? = some x :=
        ⟨_, List.getElem?_eq_getElem hlt⟩
      rw [Nat.min_eq_left (Nat.le_of_lt hlt), visibleAt_of_getElem? hx]
      constructor
      · rintro (hend | hv) ⟨_, y, -, -, hy, hinvisible⟩
        · exact absurd hend (Nat.ne_of_lt hlt)
        · obtain rfl := Option.some.inj (hx.symm.trans hy)
          simp [Reference.isVisible, hinvisible] at hv
      · intro hno
        refine Or.inr (Decidable.byContradiction fun hv => ?_)
        exact hno ⟨e, x, he, hlost, hx, by simpa [Reference.isVisible] using hv⟩
    · refine iff_of_true (Or.inl (by omega)) ?_
      rintro ⟨_, x, -, -, hx, -⟩
      exact hlt (List.getElem?_eq_some_iff.mp hx).1

/-- Bookmarks are kept of visible entries only, as long as the cursor is in its place. -/
theorem marksVisible_perform {l : Listing} (hplaced : l.CursorPlaced) (h : l.MarksVisible)
    (sources : Sources) (op : ListingOp) : (perform sources op l).listing.MarksVisible := by
  intro key mark e hget he
  rw [perform_bookmarks] at hget
  cases op with
  | load root rootOnly =>
    cases rootOnly with
    | true => exact h key mark e (by simpa using hget) he
    | false => simp at hget
  | keep kept =>
    simp only [Bookmarks.get?_put] at hget
    split at hget
    · -- what is kept is the cursor, which is in its place
      obtain rfl := Option.some.inj hget
      have hcurrent : l.entries[l.cursor]? = some e := he
      have hlt := (List.getElem?_eq_some_iff.mp hcurrent).1
      exact (visibleAt_of_getElem? hcurrent).mp (hplaced.visibleAt hlt)
    · exact h key mark e hget he
  | goBack used =>
    simp only [Bookmarks.get?_use] at hget
    split at hget
    · simp at hget
    · exact h key mark e hget he
  | _ => exact h key mark e hget he

/-! ## Steps and runs -/

/-- **One step**: a cursor in its place stays in its place exactly if the step does not stray. -/
theorem cursorPlaced_perform_iff {l : Listing} (hplaced : l.CursorPlaced)
    (hvisible : l.MarksVisible) (sources : Sources) (op : ListingOp) :
    (perform sources op l).listing.CursorPlaced ↔ ¬ Strays l op := by
  cases op with
  | load root rootOnly =>
    cases rootOnly with
    | true => exact iff_of_true hplaced id
    | false => exact iff_of_true (placed_firstVisibleFrom ((sources.children root).getD []) 0) id
  | add entry before =>
    by_cases hempty : l.entries = []
    · refine (cursorPlaced_add_of_empty hempty entry before).trans ?_
      simp [Strays, hempty, Reference.isVisible]
    · refine iff_of_true (cursorPlaced_add hplaced hempty entry before) ?_
      simp [Strays, hempty]
  | append entry => exact iff_of_true (cursorPlaced_append hplaced entry) id
  | finishFill => exact iff_of_true (cursorPlaced_set l 0) id
  | removeCurrent => exact iff_of_true (cursorPlaced_removeCurrent hplaced) id
  | sort => exact iff_of_true (cursorPlaced_sort hplaced sources.order) id
  | home => exact iff_of_true (cursorPlaced_set l 0) id
  | toEnd => exact iff_of_true (Or.inl rfl) id
  | move count => exact iff_of_true (cursorPlaced_move hplaced count) id
  | set ordinal => exact iff_of_true (cursorPlaced_set l ordinal) id
  | select entry => exact iff_of_true (cursorPlaced_select hplaced entry) id
  | goBack key =>
    cases hmark : l.bookmarks.get? key with
    | some mark => exact cursorPlaced_goBack_iff hmark hvisible
    | none =>
      have hback : (perform sources (.goBack key) l).listing = l := by
        simp [perform, goBack_of_none hmark]
      rw [hback]
      exact iff_of_true hplaced (by simp [Strays, hmark])
  | setDragging state =>
    have hback : (l.setDragging state).1.CursorPlaced := by
      simp only [setDragging]
      split <;> exact hplaced
    exact iff_of_true hback id
  | _ => exact iff_of_true hplaced id

/-- **Where the cursor stands**: throughout a run it is at the end of the list or on a visible
entry, exactly if no step of the run adds an invisible entry to an empty list, and none goes back
to a bookmark whose entry is gone while an invisible entry stands at its ordinal. -/
theorem cursorPlaced_throughout_iff (steps : List (Sources × ListingOp)) :
    EveryState CursorPlaced steps empty
      ↔ EveryStep (fun l _ op => ¬ Strays l op) steps empty := by
  have hempty : CursorPlaced empty := Or.inl rfl
  have hmarks : MarksVisible empty := fun key mark e hget _ => by
    simp [empty] at hget
  generalize (empty : Listing) = l at hempty hmarks ⊢
  -- bookmarks of visible entries are what the step lemma needs besides the cursor itself
  induction steps generalizing l with
  | nil => exact iff_of_true (everyState_nil.mpr hempty) everyStep_nil
  | cons step steps ih =>
    obtain ⟨sources, op⟩ := step
    rw [everyState_cons, everyStep_cons]
    have hstep := cursorPlaced_perform_iff hempty hmarks sources op
    have hmarks' := marksVisible_perform hempty hmarks sources op
    constructor
    · rintro ⟨-, hrest⟩
      have hplaced : (perform sources op l).listing.CursorPlaced := hrest [] List.nil_prefix
      exact ⟨hstep.mp hplaced, (ih _ hplaced hmarks').mp hrest⟩
    · rintro ⟨hno, hrest⟩
      have hplaced := hstep.mpr hno
      exact ⟨hempty, (ih _ hplaced hmarks').mpr hrest⟩

/-- Both steps that stray occur: the place of a removed entry is restored onto the invisible entry
behind it, and an invisible entry that is added to an empty list becomes current. -/
theorem cursor_strays_onto_invisible_entry :
    ¬ CursorPlaced (run { Sources.silent with children := fun _ => some [shownEntry, hiddenEntry] }
        [.load .blank false, .keep .single, .removeCurrent, .goBack .single] empty)
      ∧ ¬ CursorPlaced (run Sources.silent [.add hiddenEntry false] empty) := by
  decide

end Bouquet.Listing
