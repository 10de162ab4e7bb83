import Bouquet.Proofs.RowPieces

/-!
# Missing Live Data

The receiver may have no events and no picons, and it may get them later. What a row shows of them
comes and goes without moving anything else: the title of the running event stands last in the
column of the name, so that the icons and the name before it are set as if it were not there, and
colors depend on the state of the service alone.

## Main definitions

- `Row.without`: a row without the elements of some fields
- `Field.events`: the fields that show events
- `Scene.withoutEvents`, `Scene.withPicon`: a scene with other live data

## Main statements

- `Scene.pieces_withoutEvents`, `Scene.pieces_withPicon`: the two kinds of live data
- `Scene.pieces_simple`: simple rows have none
- `ListView.missing_live_data`: the row at the cursor
-/

namespace Bouquet

/-! ## Leaving out fields -/

/-- Whether an element belongs to one of the fields. -/
def Element.isOf (e : Element) (fields : List Field) : Bool :=
  e.field.any fields.contains

/-- A row without the elements of some fields. -/
def Row.without (row : Row) (fields : List Field) : Row :=
  { row with elements := row.elements.filter fun e => !e.isOf fields }

/-- The fields that show events. -/
def Field.events : List Field := [.progress, .time, .nowTitle, .nextTitle]

/-- Pieces without those of some fields. -/
def Piece.without (fields : List Field) (pieces : List Piece) : List Piece :=
  pieces.filter fun p => !p.element.isOf fields

namespace Piece

variable {fields : List Field} {pieces : List Piece}

theorem map_without :
    (without fields pieces).map Piece.element
      = (pieces.map Piece.element).filter fun e => !e.isOf fields := by
  rw [List.filter_map]
  rfl

@[simp]
theorem without_append (others : List Piece) :
    without fields (pieces ++ others) = without fields pieces ++ without fields others :=
  List.filter_append ..

theorem without_flatMap (columns : Field → List Piece) (all : List Field) :
    without fields (all.flatMap columns)
      = all.flatMap fun column => without fields (columns column) := by
  unfold without
  rw [List.filter_flatMap]

theorem without_eq_self (field : Option Field) (h : ∀ p ∈ pieces, p.element.field = field)
    (hkept : field.any fields.contains = false) : without fields pieces = pieces := by
  apply List.filter_eq_self.mpr
  intro p hp
  simp [Element.isOf, h p hp, hkept]

theorem without_eq_nil (field : Option Field) (h : ∀ p ∈ pieces, p.element.field = field)
    (hleft : field.any fields.contains = true) : without fields pieces = [] := by
  apply List.filter_eq_nil_iff.mpr
  intro p hp
  simp [Element.isOf, h p hp, hleft]

end Piece

namespace Scene

variable {s : Scene} {column : Field} {rect : Rect} {pieces : List Piece}

/-- The same scene when no event is known. -/
def withoutEvents (s : Scene) : Scene :=
  { s with subject := { s.subject with now := none, next := none } }

/-- The same scene with another picon or none. -/
def withPicon (s : Scene) (picon : Option Pixmap) : Scene :=
  { s with subject := { s.subject with picon := picon } }

/-- Outside of the column of the name all pieces belong to the field of their column. -/
theorem field_of_mem_placedPieces (h : s.placedPieces column = .ok pieces)
    (hcolumn : column ≠ .name) : ∀ p ∈ pieces, p.element.field = some column := by
  intro p hp
  obtain ⟨hparts, hshows⟩ := placedPieces_fills h
  have hroom := hparts.subset (List.mem_map_of_mem hp)
  rw [(hshows p hp).field]
  unfold placedParts at hroom
  split at hroom
  · rcases (offers_of_mem_partsOf hroom).fieldIn_eq with heq | ⟨hname, -⟩
    · rw [heq]
    · exact absurd hname hcolumn
  · cases hroom

/-! ## Events -/

/-- Icons are set side by side by their gap alone. -/
theorem placeIcons_congr {t : Scene} (h : s.gap = t.gap) (icons : List (Part × Pixmap))
    (area : Rect) : s.placeIcons icons area = t.placeIcons icons area := by
  induction icons generalizing area with
  | nil => rfl
  | cons icon icons ih => simp only [placeIcons, h, ih]

theorem inlineTitle_withoutEvents : s.withoutEvents.inlineTitle rect = none := by
  unfold inlineTitle
  split <;> rfl

/-- The column of the name without its guest. -/
theorem namePieces_withoutEvents (h : s.namePieces rect = .ok pieces) :
    s.withoutEvents.namePieces rect = .ok (Piece.without Field.events pieces) := by
  obtain ⟨before, area, nameRect, rest, after, free, hbefore, hname, hafter, rfl⟩ :=
    namePieces_eq_ok.mp h
  have hgap : s.withoutEvents.gap = s.gap := rfl
  apply namePieces_eq_ok.mpr
  refine ⟨before, area, nameRect, rest, after, free, ?_, hname, ?_, ?_⟩
  · exact (placeIcons_congr hgap _ _).trans hbefore
  · exact (placeIcons_congr hgap _ _).trans hafter
  · -- icons and name stay, the title is the guest
    have hicons {icons : List (Part × Pixmap)} {shown : List Piece} (h : Placed icons shown) :
        Piece.without Field.events shown = shown :=
      Piece.without_eq_self _ h.field_eq (by decide)
    have hname : Piece.without Field.events
        (s.caption .name .name nameRect s.subject.name s.foreground .left).toList
        = (s.caption .name .name nameRect s.subject.name s.foreground .left).toList := by
      refine Piece.without_eq_self (some .name) (fun p hp => ?_) (by decide)
      exact (shows_of_mem_caption (s := s) (Option.mem_toList.mp hp) rfl).2.field
    have htitle : Piece.without Field.events
        (s.inlineTitle ((s.nameLines rect).2.getD free)).toList = [] := by
      refine Piece.without_eq_nil (some .nowTitle) (fun p hp => ?_) (by decide)
      exact (shows_of_mem_inlineTitle (Option.mem_toList.mp hp)).2.1.field
    rw [inlineTitle_withoutEvents]
    simp only [Piece.without_append, hicons (placed_placeIcons hbefore), hname,
      hicons (placed_placeIcons hafter), htitle]
    rfl

theorem placedPieces_withoutEvents_of_event (hcolumn : column ∈ Field.events) :
    s.withoutEvents.placedPieces column = .ok [] := by
  have hnothing (rect : Rect) : s.withoutEvents.fieldPieces rect column = .ok [] := by
    cases column with
    | progress | time | nowTitle | nextTitle => rfl
    | _ => exact absurd hcolumn (by decide)
  unfold placedPieces
  split
  · exact hnothing _
  · rfl

theorem placedPieces_withoutEvents_of_other (hcolumn : column ∉ Field.events)
    (hname : column ≠ .name) : s.withoutEvents.placedPieces column = s.placedPieces column := by
  cases column with
  | progress | time | nowTitle | nextTitle => exact absurd (by decide) hcolumn
  | name => exact absurd rfl hname
  | _ => rfl

/-- Without events a column shows what is left of it without its events. -/
theorem placedPieces_withoutEvents (h : s.placedPieces column = .ok pieces) :
    s.withoutEvents.placedPieces column = .ok (Piece.without Field.events pieces) := by
  by_cases hname : column = .name
  · subst hname
    have hplaces : s.withoutEvents.look.places .name = s.look.places .name := rfl
    unfold placedPieces at h ⊢
    rw [hplaces]
    split at h
    · exact namePieces_withoutEvents h
    · exact Except.ok.inj h ▸ rfl
  · have hfield := field_of_mem_placedPieces h hname
    by_cases hcolumn : column ∈ Field.events
    · rw [placedPieces_withoutEvents_of_event hcolumn,
        Piece.without_eq_nil (some column) hfield (by simpa using hcolumn)]
    · rw [placedPieces_withoutEvents_of_other hcolumn hname, h,
        Piece.without_eq_self (some column) hfield (by simpa using hcolumn)]

theorem backgroundPieces_without (fields : List Field) :
    Piece.without fields s.backgroundPieces = s.backgroundPieces :=
  Piece.without_eq_self none (fun p hp => (backgroundPieces_shows.2 p hp).field) rfl

theorem simplePieces_without {fields : List Field} (hname : Field.name ∉ fields) :
    Piece.without fields s.simplePieces = s.simplePieces :=
  Piece.without_eq_self (some .name) (fun p hp => (simplePieces_shows.2 p hp).field)
    (by simpa using hname)

/-- **Without events** a row shows what is left of it without the fields of events. -/
theorem pieces_withoutEvents (h : s.pieces = .ok pieces) :
    s.withoutEvents.pieces = .ok (Piece.without Field.events pieces) := by
  have hbackground : s.withoutEvents.backgroundPieces = s.backgroundPieces := rfl
  rw [pieces_eq_ok, hbackground]
  rcases pieces_eq_ok.mp h with ⟨hmode, rfl⟩ | ⟨hmode, columns, hcolumns, rfl⟩
  · refine .inl ⟨hmode, ?_⟩
    rw [Piece.without_append, backgroundPieces_without, simplePieces_without (by decide)]
    rfl
  · -- column by column
    refine .inr ⟨hmode, fun column => Piece.without Field.events (columns column), ?_, ?_⟩
    · exact fun column => placedPieces_withoutEvents (hcolumns column)
    · rw [Piece.without_append, backgroundPieces_without, Piece.without_flatMap]

/-! ## Picons -/

theorem namePieces_withPicon (picon : Option Pixmap) :
    (s.withPicon picon).namePieces rect = s.namePieces rect := by
  have hicons : (s.withPicon picon).placeIcons = s.placeIcons :=
    funext₂ (placeIcons_congr rfl)
  unfold namePieces
  rw [hicons]
  rfl

theorem placedPieces_withPicon_of_ne (picon : Option Pixmap) (hcolumn : column ≠ .picon) :
    (s.withPicon picon).placedPieces column = s.placedPieces column := by
  cases column with
  | picon => exact absurd rfl hcolumn
  | name =>
    have hplaces : (s.withPicon picon).look.places .name = s.look.places .name := rfl
    unfold placedPieces
    rw [hplaces]
    split
    · exact namePieces_withPicon picon
    · rfl
  | _ => rfl

/-- Another picon changes the pieces of its own column at most. -/
theorem placedPieces_withPicon (picon : Option Pixmap) (h : s.placedPieces column = .ok pieces) :
    ∃ others, (s.withPicon picon).placedPieces column = .ok others
      ∧ Piece.without [.picon] others = Piece.without [.picon] pieces := by
  by_cases hcolumn : column = .picon
  · subst hcolumn
    obtain ⟨others, hothers⟩ : ∃ others, (s.withPicon picon).placedPieces .picon = .ok others := by
      unfold placedPieces
      split <;> exact ⟨_, rfl⟩
    have hgone {s : Scene} {pieces : List Piece} (h : s.placedPieces .picon = .ok pieces) :
        Piece.without [.picon] pieces = [] :=
      Piece.without_eq_nil (some .picon) (field_of_mem_placedPieces h (by decide)) (by decide)
    exact ⟨others, hothers, (hgone hothers).trans (hgone h).symm⟩
  · exact ⟨pieces, (placedPieces_withPicon_of_ne picon hcolumn).trans h, rfl⟩

/-- **With another picon** a row shows the same but for the field of the picon. -/
theorem pieces_withPicon (picon : Option Pixmap) (h : s.pieces = .ok pieces) :
    ∃ others, (s.withPicon picon).pieces = .ok others
      ∧ Piece.without [.picon] others = Piece.without [.picon] pieces := by
  rcases pieces_eq_ok.mp h with ⟨hmode, rfl⟩ | ⟨hmode, columns, hcolumns, rfl⟩
  · exact ⟨_, pieces_eq_ok.mpr (.inl ⟨hmode, rfl⟩), rfl⟩
  · -- column by column, of which only one asks for the picon
    choose others hothers hagree using fun column => placedPieces_withPicon picon (hcolumns column)
    refine ⟨_, pieces_eq_ok.mpr (.inr ⟨hmode, others, hothers, rfl⟩), ?_⟩
    simp only [Piece.without_append, Piece.without_flatMap, hagree]
    rfl

/-! ## Simple rows -/

/-- Simple rows have no live data at all. -/
theorem pieces_simple (hmode : s.look.mode = .simple) :
    s.pieces = .ok (s.backgroundPieces ++ s.simplePieces) :=
  pieces_eq_ok.mpr (.inl ⟨hmode, rfl⟩)

end Scene

namespace ListView

variable {v : ListView} {sources : Sources} {style : Style} {selected : Bool} {r : Reference}

/-! ## The row at the cursor -/

theorem scene_withoutEvents :
    v.scene { sources with event := fun _ _ => none } style selected r
      = (v.scene sources style selected r).withoutEvents := by
  have hnone (slot : EventSlot) :
      v.event? { sources with event := fun _ _ => none } r slot = none := by
    unfold event?
    split <;> rfl
  simp only [scene, Scene.withoutEvents, subject, hnone]
  rfl

/-- **Missing live data** takes its own elements away and changes nothing else. Without events the
row is what is left of it without the fields of events. Another picon, from other files or from
another cache, changes the field of the picon at most. A simple row stays the same for all events,
times, picons, places, fonts and icons. -/
theorem missing_live_data {described : Option Row}
    (h : (v.describe sources style selected).2 = .ok described) :
    ((v.describe { sources with event := fun _ _ => none } style selected).2
        = .ok (described.map fun row => row.without Field.events))
      ∧ (∀ picons picon image, ∃ other,
        (({ v with picons := picons } : ListView).describe
          { sources with picon := picon, image := image } style selected).2 = .ok other
          ∧ other.map (fun row => row.without [.picon])
            = described.map fun row => row.without [.picon])
      ∧ (v.look.mode = .simple → ∀ places fonts icons picons event now offset picon image,
        (({ v with
            look := { v.look with places := places, fonts := fonts, icons := icons }
            picons := picons } : ListView).describe
          { sources with
            event := event, now := now, offset := offset, picon := picon, image := image }
          style selected).2 = .ok described) := by
  cases hr : v.listing.current? with
  | none =>
    -- at the end of the list there is no row
    obtain rfl : none = described := Except.ok.inj ((describe_of_none hr).symm.trans h)
    refine ⟨describe_of_none hr, fun picons picon image => ?_, fun _ => ?_⟩
    · exact ⟨none, describe_of_none hr, rfl⟩
    · intros
      exact describe_of_none hr
  | some r =>
    obtain ⟨pieces, hpieces, rfl⟩ := (describe_eq_ok hr).mp h
    refine ⟨?_, fun picons picon image => ?_, fun hmode => ?_⟩
    · have hless := Scene.pieces_withoutEvents hpieces
      rw [← scene_withoutEvents] at hless
      apply (describe_eq_ok hr).mpr
      refine ⟨_, hless, ?_⟩
      rw [Piece.map_without]
      rfl
    · obtain ⟨others, hothers, hagree⟩ := Scene.pieces_withPicon
        (({ v with picons := picons } : ListView).loadPicon
          { sources with picon := picon, image := image } r).2 hpieces
      refine ⟨_, (describe_eq_ok (r := r) ?_).mpr ⟨others, hothers, rfl⟩, ?_⟩
      · exact hr
      · simp only [Option.map_some, Row.without, ← Piece.map_without, hagree]
    · intro places fonts icons picons event now offset picon image
      rw [Scene.pieces_simple hmode] at hpieces
      rw [← Except.ok.inj hpieces]
      refine (describe_eq_ok (r := r) ?_).mpr ⟨_, Scene.pieces_simple hmode, rfl⟩
      exact hr

/-- The furnished row in simple mode. -/
def unfurnished : List (Sources × ViewAction) :=
  furnished ++ [(.silent, .change (.mode .simple))]

theorem missing_live_data_furnished :
    (∃ row, ((run furnished empty).describe halfway .plain false).2 = .ok (some row)
      ∧ row.elements.map (fun e => e.field) = [none, some .picon, some .progress, some .progress,
        some .name, some .name, some .name, some .nowTitle]
      ∧ ((run furnished empty).describe { halfway with event := fun _ _ => none } .plain false).2
        = .ok (some (row.without Field.events))
      ∧ (row.without Field.events).elements.map (fun e => e.field)
        = [none, some .picon, some .name, some .name, some .name]
      ∧ ∃ other, ((run furnished empty).describe
          { halfway with picon := some fun _ => some (.ofText "logo.png") } .plain false).2
            = .ok (some other)
        ∧ other.without [.picon] = row.without [.picon])
      ∧ ∃ row, ((run unfurnished empty).describe halfway .plain false).2 = .ok (some row)
        ∧ ((run unfurnished empty).describe
          { halfway with event := fun _ _ => none, now := .ofParts 0 0 } .plain false).2
            = .ok (some row) := by
  constructor
  · obtain ⟨row, hrow, helements⟩ := furnished_row
    obtain ⟨hevents, hpicon, -⟩ := missing_live_data hrow
    obtain ⟨_, hother, hagree⟩ := hpicon (run furnished empty).picons
      (some fun _ => some (.ofText "logo.png")) halfway.image
    obtain ⟨other, rfl, hagree⟩ := Option.map_eq_some_iff.mp hagree
    have hfields : row.elements.map (fun e => e.field) = [none, some .picon, some .progress,
        some .progress, some .name, some .name, some .name, some .nowTitle] := by
      simpa [Function.comp_def] using congrArg (List.map Prod.fst) helements
    have hless : (row.without Field.events).elements.map (fun e => e.field)
        = (row.elements.map fun e => e.field).filter
          fun field => !field.any Field.events.contains := by
      rw [List.filter_map]
      rfl
    refine ⟨row, hrow, hfields, hevents, ?_, other, hother, Option.some.inj hagree⟩
    rw [hless, hfields]
    decide
  · have hr : (run unfurnished empty).listing.current? = some shownEntry := by decide
    have hmode : (run unfurnished empty).look.mode = .simple := by decide
    obtain ⟨row, hrow⟩ : ∃ row,
        ((run unfurnished empty).describe halfway .plain false).2 = .ok (some row) :=
      ⟨_, (describe_eq_ok hr).mpr ⟨_, Scene.pieces_simple hmode, rfl⟩⟩
    exact ⟨row, hrow, (missing_live_data hrow).2.2 hmode _ _ _ _ _ _ _ _ _⟩

end ListView

end Bouquet
