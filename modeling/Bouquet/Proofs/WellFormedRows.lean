import Bouquet.Proofs.RowPieces

/-!
# Well-Formed Rows

Whatever a host configures and whatever the sources answer, a row holds only elements that can be
seen, each on a layer that suits it, of fields that the look asks for, and of fields that an entry
of this kind has.

## Main definitions

- `Element.WellFormed`: an element that can be seen, on a layer that suits it
- `Look.Admits`: the fields that a look asks for
- `EntryKind.mayShow`: the fields that an entry of a kind has

## Main statements

- `Scene.wellFormed_of_mem_pieces`, `Scene.admits_of_mem_pieces`, `Scene.mayShow_of_mem_pieces`
- `ListView.row_wellFormed`: the row at the cursor
-/

namespace Bouquet

/-! ## What is required -/

/-- An element that can be seen, on a layer that suits its shape. The background is what belongs to
no field. -/
structure Element.WellFormed (e : Element) : Prop where
  visible : e.rect.isEmpty = false
  text : e.text? ≠ some ""
  layer : e.layer ∈ e.shape.layers
  background : e.field = none ↔ e.layer = .background

/-- A simple row asks for the name. A complex row asks for the fields that have a place, and in the
column of the name for the title of the running event when that has no place of its own. -/
def Look.Admits (k : Look) (field : Field) : Prop :=
  match k.mode with
  | .simple => field = .name
  | .complex => (k.places field).isSome = true
    ∨ field = .nowTitle ∧ (k.places .name).isSome = true ∧ k.places .nowTitle = none

/-- Whether a row may have a field when its entry is of a kind. Every row has a name. -/
def EntryKind.mayShow : EntryKind → Field → Bool
  | _, .name => true
  | .ignore, _ => false
  | .folder, field => field == .folderIcon
  | .marker, field => field == .markerIcon || field == .number
  | .group, field => field != .markerIcon
  | .service, field => field != .markerIcon && field != .folderIcon

namespace Scene

variable {s : Scene} {p : Piece} {part : Part} {column : Field}

/-! ## Layers -/

theorem Shows.wellFormed {field : Option Field} (h : s.Shows field p)
    (hbackground : field = none ↔ p.part.layer = .background) : p.element.WellFormed where
  visible := h.visible
  text := h.text
  layer := h.shape
  background := by rw [h.field, h.layer, hbackground]

/-- Every element of a row can be seen and stands on a layer that suits it. -/
theorem wellFormed_of_mem_pieces {pieces : List Piece} (h : s.pieces = .ok pieces)
    (hp : p ∈ pieces) : p.element.WellFormed := by
  rcases shows_of_mem_pieces h hp with
    ⟨hlayer, hshows⟩ | ⟨-, hpart, hshows⟩ | ⟨-, column, -, hoffers, hshows⟩
  · exact hshows.wellFormed (iff_of_true rfl hlayer)
  · exact hshows.wellFormed (iff_of_false (Option.some_ne_none _) (by simp [hpart, Part.layer]))
  · exact hshows.wellFormed (iff_of_false (Option.some_ne_none _) hoffers.layer_ne_background)

/-! ## Fields -/

/-- A row has no other fields than its look asks for. -/
theorem admits_of_mem_pieces {pieces : List Piece} (h : s.pieces = .ok pieces) (hp : p ∈ pieces)
    {field : Field} (hfield : p.element.field = some field) : s.look.Admits field := by
  unfold Look.Admits
  rcases shows_of_mem_pieces h hp with
    ⟨-, hshows⟩ | ⟨hmode, -, hshows⟩ | ⟨hmode, column, hplace, hoffers, hshows⟩
  · cases hshows.field.symm.trans hfield
  · rw [hmode]
    exact (Option.some.inj (hshows.field.symm.trans hfield)).symm
  · rw [hmode]
    obtain rfl : p.part.fieldIn column = field :=
      Option.some.inj (hshows.field.symm.trans hfield)
    rcases hoffers.fieldIn_eq with heq | ⟨rfl, heq, -, hown⟩
    · exact .inl (by rwa [heq])
    · exact .inr ⟨heq, hplace, hown⟩

/-! ## Kinds of entries -/

/-- Only services and groups have events. -/
def EventsPlayable (s : Scene) : Prop :=
  s.subject.now.isSome = true ∨ s.subject.next.isSome = true → s.isPlayable = true

theorem isPlayable_iff_kind : s.isPlayable = true ↔ s.kind = .service ∨ s.kind = .group := by
  simp [isPlayable, Reference.isPlayable, kind]

/-- Services and groups have every field but the icons of markers and folders. -/
theorem mayShow_of_isPlayable (h : s.isPlayable = true) {field : Field}
    (hmarker : field ≠ .markerIcon) (hfolder : field ≠ .folderIcon) :
    s.kind.mayShow field = true := by
  rcases isPlayable_iff_kind.mp h with hkind | hkind <;> rw [hkind] <;>
    cases field <;> simp_all [EntryKind.mayShow]

theorem isPlayable_of_deliverySlot {slot : Icon} (h : s.deliverySlot? = some slot) :
    s.isPlayable = true := by
  rw [isPlayable_iff_kind]
  unfold deliverySlot? at h
  split at h
  · next hgroup => exact .inr (beq_iff_eq.mp hgroup)
  · -- other entries than services have no delivery
    left
    by_contra hkind
    have hother : (s.subject.entry.kind != .service) = true := bne_iff_ne.mpr hkind
    have hnone : s.subject.entry.delivery? = none := by
      unfold Reference.delivery?
      rw [if_pos hother]
    simp [hnone] at h

theorem Offers.mayShow (h : s.Offers column part) (hs : s.EventsPlayable) :
    s.kind.mayShow column = true := by
  cases h with
  | number hshown =>
    unfold showsNumber at hshown
    -- only a numbered marker has a number besides what can be played
    cases hkind : s.kind <;> simp_all [EntryKind.mayShow]
  | marker hkind | folder hkind | group hkind => rw [hkind]; rfl
  | name => cases s.kind <;> rfl
  | picon hplayable | recording hplayable | inlineRecording hplayable | inlineDelivery hplayable
  | inlineCrypto hplayable | inlineTitle hplayable =>
    exact mayShow_of_isPlayable hplayable (by decide) (by decide)
  | delivery hslot =>
    exact mayShow_of_isPlayable (isPlayable_of_deliverySlot hslot) (by decide) (by decide)
  | progressText hnow | progressBar hnow | progressBorder hnow | time hnow | nowTitle hnow =>
    exact mayShow_of_isPlayable (hs (.inl hnow)) (by decide) (by decide)
  | nextTitle hnext => exact mayShow_of_isPlayable (hs (.inr hnext)) (by decide) (by decide)

/-- A row has no other fields than entries of its kind have. -/
theorem mayShow_of_mem_pieces {pieces : List Piece} (h : s.pieces = .ok pieces) (hp : p ∈ pieces)
    (hs : s.EventsPlayable) {field : Field} (hfield : p.element.field = some field) :
    s.kind.mayShow field = true := by
  rcases shows_of_mem_pieces h hp with
    ⟨-, hshows⟩ | ⟨-, -, hshows⟩ | ⟨-, column, -, hoffers, hshows⟩
  · cases hshows.field.symm.trans hfield
  · obtain rfl : Field.name = field := Option.some.inj (hshows.field.symm.trans hfield)
    cases s.kind <;> rfl
  · obtain rfl : p.part.fieldIn column = field :=
      Option.some.inj (hshows.field.symm.trans hfield)
    rcases hoffers.fieldIn_eq with heq | ⟨-, heq, hplayable, -⟩
    · rw [heq]
      exact hoffers.mayShow hs
    · rw [heq]
      exact mayShow_of_isPlayable hplayable (by decide) (by decide)

end Scene

namespace ListView

variable {v : ListView} {sources : Sources} {style : Style} {selected : Bool}

/-! ## The row at the cursor -/

theorem scene_eventsPlayable (r : Reference) :
    (v.scene sources style selected r).EventsPlayable := by
  intro h
  by_contra hplayable
  have hnone (slot : EventSlot) : v.event? sources r slot = none := by
    unfold event?
    rw [if_neg]
    intro hboth
    exact hplayable (Bool.and_eq_true_iff.mp hboth).1
  rcases h with h | h
  · simp [scene, subject, hnone] at h
  · simp [scene, subject, hnone] at h

/-- **Rows are well formed**: every element of the row at the cursor can be seen, stands on a layer
that suits it, and belongs to the background or to a field that the look asks for and that entries
of this kind have. -/
theorem row_wellFormed {row : Row} (h : (v.describe sources style selected).2 = .ok (some row)) :
    ∃ r, v.listing.current? = some r ∧ ∀ e ∈ row.elements, e.WellFormed
      ∧ ∀ field, e.field = some field → v.look.Admits field ∧ r.kind.mayShow field = true := by
  obtain ⟨r, pieces, hr, hpieces, rfl⟩ := row_eq_some h
  refine ⟨r, hr, fun e he => ?_⟩
  obtain ⟨p, hp, rfl⟩ := List.mem_map.mp he
  refine ⟨Scene.wellFormed_of_mem_pieces hpieces hp, fun field hfield => ⟨?_, ?_⟩⟩
  · exact Scene.admits_of_mem_pieces hpieces hp hfield
  · exact Scene.mayShow_of_mem_pieces hpieces hp (scene_eventsPlayable r) hfield

theorem row_wellFormed_furnished : ∃ row r,
    ((run furnished empty).describe halfway .plain false).2 = .ok (some row)
      ∧ (run furnished empty).listing.current? = some r
      ∧ row.elements.length = 8 ∧ ∀ e ∈ row.elements, e.WellFormed
        ∧ ∀ field, e.field = some field →
          (run furnished empty).look.Admits field ∧ r.kind.mayShow field = true := by
  obtain ⟨row, hrow, helements⟩ := furnished_row
  obtain ⟨r, hr, hformed⟩ := row_wellFormed hrow
  exact ⟨row, r, hrow, hr, by simpa using congrArg List.length helements, hformed⟩

end ListView

end Bouquet
