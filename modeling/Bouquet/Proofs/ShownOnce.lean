import Bouquet.Proofs.RowPieces

/-!
# Nothing Is Shown Twice

The title of the running event, the recording icon, the delivery icon and the icon of scrambled
services each have several places where the options may put them, in columns of their own or beside
the name. The conditions of these places exclude each other, so that the parts of a row are pairwise
different. Counting elements comes down to counting the parts that they can have.

## Main definitions

- `Row.ShowsOnce`: what "once" means for a row

## Main statements

- `Scene.parts_nodup`: a row has room for no part twice
- `Scene.length_filter_le`: how elements are counted by their parts
- `ListView.row_showsOnce`: the row at the cursor
-/

namespace Bouquet

/-! ## What is counted -/

/-- The recording icon, in its column or before the name. -/
def Part.isRecording : Part → Bool
  | .recording _ => true
  | _ => false

/-- The delivery icon, in its column or beside the name. -/
def Part.isDelivery : Part → Bool
  | .delivery _ => true
  | _ => false

/-- The slots of the pixmap table from which the builder of a part takes its icon. -/
def Part.slots : Part → List Icon
  | .marker => [.marker]
  | .folder _ => [.folder, .group]
  | .recording _ => [.recordColumn, .recordInline]
  | .delivery _ => [.satellite, .terrestrial, .cable, .stream, .group]
  | .crypto => [.crypto]
  | _ => []

/-- The part that is the text of a field; icon fields have none. -/
def Field.captions : Field → List Part
  | .number => [.number]
  | .progress => [.progressText]
  | .name => [.name]
  | .time => [.time]
  | .nowTitle => [.nowTitle]
  | .nextTitle => [.nextTitle]
  | .markerIcon | .folderIcon | .picon | .recordIcon | .typeIcon => []

/-- A row that shows nothing twice. The pieces tell from which builder and which slot of the pixmap
table its icons come. -/
structure Row.ShowsOnce (row : Row) (look : Look) (pieces : List Piece) : Prop where
  elements : row.elements = pieces.map Piece.element
  icons : ∀ p ∈ pieces, p.element.layer = .icon → p.part = .picon ∨ ∃ slot pixmap bounds,
    p.part.slot? = some slot ∧ slot ∈ p.part.slots ∧ look.icons slot = some pixmap
      ∧ p.element.shape = .pixmap (pixmap.scaledToFit bounds)
  title : (row.elementsOf .nowTitle).length ≤ 1
  recording : (pieces.filter fun p => p.part.isRecording).length ≤ 1
  delivery : (pieces.filter fun p => p.part.isDelivery).length ≤ 1
  crypto : (pieces.filter fun p => p.part == .crypto).length ≤ 1
  texts : ∀ field, ((row.elementsOf field).filter fun e => e.text?.isSome).length ≤ 1
  background : (row.elements.filter fun e => e.field.isNone).length ≤ 2
  progress :
    (row.elementsOf .progress).length ≤ 1 ∧ (∀ e ∈ row.elementsOf .progress, e.layer = .text)
    ∨ (∀ e ∈ row.elementsOf .progress, e.layer = .progress ∨ e.layer = .border)
      ∧ ((row.elementsOf .progress).filter fun e => e.layer == .progress).length ≤ 1
      ∧ ((row.elementsOf .progress).filter fun e => e.layer == .border).length ≤ 1

namespace Scene

variable {s : Scene} {part : Part} {column : Field}

/-! ## Room for each part once -/

theorem inlineParts_nodup (side : IconMode) : (s.inlineParts side).Nodup := by
  unfold inlineParts
  cases s.deliverySlot? <;> split_ifs <;> simp

/-- The two sides of the name have no icon in common. -/
theorem disjoint_inlineParts :
    (s.inlineParts .beforeName).Disjoint (s.inlineParts .afterName) := by
  intro part hbefore hafter
  obtain ⟨-, hbefore⟩ := mem_inlineParts.mp hbefore
  obtain ⟨-, hafter⟩ := mem_inlineParts.mp hafter
  rcases hbefore with ⟨-, -, -, rfl⟩ | ⟨hmode, slot, -, rfl⟩ | ⟨hmode, rfl⟩
  · simp at hafter
  · simp [hmode] at hafter
  · simp [hmode] at hafter

theorem layer_of_mem_inlineParts {side : IconMode} (h : part ∈ s.inlineParts side) :
    part.layer = .icon := by
  obtain ⟨-, h⟩ := mem_inlineParts.mp h
  rcases h with ⟨-, -, -, rfl⟩ | ⟨-, slot, -, rfl⟩ | ⟨-, rfl⟩ <;> rfl

theorem nameParts_nodup : (s.partsOf .name).Nodup := by
  -- neither the name nor the title is an icon
  have hname (side : IconMode) : Part.name ∉ s.inlineParts side :=
    fun h => Layer.noConfusion (layer_of_mem_inlineParts h)
  have htitle (side : IconMode) : Part.nowTitle ∉ s.inlineParts side :=
    fun h => Layer.noConfusion (layer_of_mem_inlineParts h)
  simp only [partsOf]
  split
  · simp [List.nodup_append', inlineParts_nodup, disjoint_inlineParts, hname, htitle]
  · simp [List.nodup_append', inlineParts_nodup, disjoint_inlineParts, hname]

theorem partsOf_nodup : (s.partsOf column).Nodup := by
  cases column with
  | name => exact nameParts_nodup
  | folderIcon =>
    simp only [partsOf]
    split <;> simp
  | progress =>
    simp only [partsOf]
    split
    · split <;> simp
    · simp
  | typeIcon =>
    simp only [partsOf]
    split
    · cases s.deliverySlot? <;> simp
    · simp
  | _ =>
    simp only [partsOf]
    split <;> simp

theorem mem_placedParts : part ∈ s.placedParts column
    ↔ (s.look.places column).isSome = true ∧ part ∈ s.partsOf column := by
  simp [placedParts]

/-- A part has room in one column only. The title of the running event is a guest in the column of
the name only without a place of its own, and the delivery icon only when its column is off. -/
theorem column_eq_of_offers {other : Field} (h : s.Offers column part) (h' : s.Offers other part)
    (hplace : (s.look.places column).isSome = true)
    (hplace' : (s.look.places other).isSome = true) : column = other := by
  -- of two different columns for one part, one has no place or is switched off
  cases h <;> cases h' <;> first | rfl | simp_all

/-- **A row has room for no part twice.** -/
theorem parts_nodup : s.parts.Nodup := by
  unfold parts
  cases s.look.mode with
  | simple =>
    show [Part.backdrop, .ground, .name].Nodup
    decide
  | complex =>
    refine List.Nodup.append (by decide) ?_ ?_
    · rw [List.nodup_flatMap]
      constructor
      · -- no part twice in one column
        intro column _
        unfold placedParts
        split
        · exact partsOf_nodup
        · exact List.nodup_nil
      · -- and no part in two columns
        have hall : Field.all.Nodup := by decide
        refine hall.imp ?_
        intro column other hne part hpart hpart'
        obtain ⟨hplace, hpart⟩ := mem_placedParts.mp hpart
        obtain ⟨hplace', hpart'⟩ := mem_placedParts.mp hpart'
        exact hne (column_eq_of_offers (offers_of_mem_partsOf hpart)
          (offers_of_mem_partsOf hpart') hplace hplace')
    · -- the background is no column
      intro part hback hpart
      obtain ⟨column, -, hpart⟩ := List.mem_flatMap.mp hpart
      have hlayer := (offers_of_mem_partsOf (mem_placedParts.mp hpart).2).layer_ne_background
      rcases List.mem_pair.mp hback with rfl | rfl <;> simp [Part.layer] at hlayer

/-! ## Counting -/

/-- Pieces that can only have certain parts are no more than these parts. -/
theorem length_filter_le {pieces : List Piece} (h : s.pieces = .ok pieces) {q : Piece → Bool}
    (candidates : List Part) (hq : ∀ p ∈ pieces, q p = true → p.part ∈ candidates) :
    (pieces.filter q).length ≤ candidates.length := by
  have hnodup : ((pieces.filter q).map Piece.part).Nodup :=
    (parts_nodup.sublist (parts_sublist h)).sublist (List.filter_sublist.map _)
  have hsubset : (pieces.filter q).map Piece.part ⊆ candidates := by
    intro part hpart
    obtain ⟨p, hp, rfl⟩ := List.mem_map.mp hpart
    obtain ⟨hp, hqp⟩ := List.mem_filter.mp hp
    exact hq p hp hqp
  calc (pieces.filter q).length = ((pieces.filter q).map Piece.part).length := by simp
    _ ≤ candidates.length := (List.subperm_of_subset hnodup hsubset).length_le

/-- The elements of a row are counted by its pieces. -/
theorem length_filter_elements {pieces : List Piece} (h : s.pieces = .ok pieces)
    {q : Element → Bool} (candidates : List Part)
    (hq : ∀ p ∈ pieces, q p.element = true → p.part ∈ candidates) :
    ((pieces.map Piece.element).filter q).length ≤ candidates.length := by
  rw [List.filter_map, List.length_map]
  exact length_filter_le h candidates hq

theorem forall_mem_filter_elements {pieces : List Piece} {q : Element → Bool} {P : Element → Prop} :
    (∀ e ∈ (pieces.map Piece.element).filter q, P e)
      ↔ ∀ p ∈ pieces, q p.element = true → P p.element := by
  simp [List.mem_filter]

/-! ## Which parts are counted -/

theorem Offers.mem_captions (h : s.Offers column part) (hlayer : part.layer = .text) :
    part ∈ (part.fieldIn column).captions := by
  cases h with
  | number | progressText | name | inlineTitle | time | nowTitle | nextTitle =>
    exact List.mem_cons_self
  | _ => cases hlayer

theorem Offers.titlePart (h : s.Offers column part) (hfield : part.fieldIn column = .nowTitle) :
    part = .nowTitle := by
  cases h with
  | inlineTitle | nowTitle => rfl
  | _ => cases hfield

/-- Progress is shown as a text or as a bar, never as both. -/
theorem Offers.progressPart (h : s.Offers column part) (hfield : part.fieldIn column = .progress) :
    if s.options.progressMode = .bar then part ∈ [Part.progressBar, .progressBorder]
    else part = .progressText := by
  cases h with
  | progressText _ hmode => rw [if_neg hmode]
  | progressBar _ hmode | progressBorder _ hmode => simp [hmode]
  | _ => cases hfield

/-- The recording icon stands before the name only when it has no column. -/
theorem Offers.recordingPart (h : s.Offers column part)
    (hplace : (s.look.places column).isSome = true) (hpart : part.isRecording = true) :
    part = .recording
      (if (s.look.places .recordIcon).isSome then .recordColumn else .recordInline) := by
  cases h with
  | recording => simp [hplace]
  | inlineRecording _ hown => simp [hown]
  | _ => cases hpart

/-- The delivery icon is that of the entry, wherever it stands. -/
theorem Offers.deliveryPart (h : s.Offers column part) (hpart : part.isDelivery = true) :
    part ∈ (s.deliverySlot?.map Part.delivery).toList := by
  cases h with
  | inlineDelivery _ hslot | delivery hslot => simp [hslot]
  | _ => cases hpart

theorem mem_slots_of_deliverySlot {slot : Icon} (h : s.deliverySlot? = some slot) :
    slot ∈ (Part.delivery slot).slots := by
  unfold deliverySlot? at h
  split at h
  · obtain rfl := Option.some.inj h
    decide
  · obtain ⟨delivery, -, rfl⟩ := Option.map_eq_some_iff.mp h
    cases delivery <;> decide

/-- Every builder takes its icon from slots of its own. -/
theorem Offers.mem_slots (h : s.Offers column part) {slot : Icon} (hslot : part.slot? = some slot) :
    slot ∈ part.slots := by
  cases h with
  | marker | folder | group | recording | inlineRecording | inlineCrypto =>
    obtain rfl := Option.some.inj hslot
    decide
  | inlineDelivery _ hdelivery | delivery hdelivery =>
    obtain rfl := Option.some.inj hslot
    exact mem_slots_of_deliverySlot hdelivery
  | _ => cases hslot

theorem part_of_background (h : part.layer = .background) : part ∈ [Part.backdrop, .ground] := by
  cases part with
  | backdrop | ground => decide
  | _ => cases h

/-! ## Rows -/

theorem Shows.layer_text {p : Piece} {field : Option Field} (h : s.Shows field p)
    (htext : p.element.text?.isSome = true) : p.part.layer = .text := by
  rw [← h.layer]
  have hshape := h.shape
  unfold Element.text? at htext
  cases hs : p.element.shape with
  | text => simpa [hs, Shape.layers] using hshape
  | _ => simp [hs, Shape.text?] at htext

/-- A piece in front of the background stands in a column, that of the name in a simple row. -/
theorem offers_of_mem_pieces {pieces : List Piece} (h : s.pieces = .ok pieces) {p : Piece}
    (hp : p ∈ pieces) (hlayer : p.part.layer ≠ .background) : ∃ column,
      (p.part = .name ∨ (s.look.places column).isSome = true) ∧ s.Offers column p.part
        ∧ s.Shows (some (p.part.fieldIn column)) p := by
  rcases shows_of_mem_pieces h hp with ⟨hback, -⟩ | ⟨-, hpart, hshows⟩ | ⟨-, column, hplaced⟩
  · exact absurd hback hlayer
  · refine ⟨.name, .inl hpart, ?_⟩
    rw [hpart]
    exact ⟨.name, hshows⟩
  · exact ⟨column, .inr hplaced.1, hplaced.2⟩

/-- A piece of a field stands in a column that has the field. -/
theorem offers_of_field {pieces : List Piece} (h : s.pieces = .ok pieces) {p : Piece}
    (hp : p ∈ pieces) {field : Field} (hfield : p.element.field = some field) :
    ∃ column, s.Offers column p.part ∧ s.Shows (some field) p ∧ p.part.fieldIn column = field := by
  have hlayer : p.part.layer ≠ .background := by
    intro hback
    rcases shows_of_mem_pieces h hp with ⟨-, hshows⟩ | ⟨-, hpart, -⟩ | ⟨-, column, -, hoffers, -⟩
    · cases hshows.field.symm.trans hfield
    · simp [hpart, Part.layer] at hback
    · exact hoffers.layer_ne_background hback
  obtain ⟨column, -, hoffers, hshows⟩ := offers_of_mem_pieces h hp hlayer
  obtain rfl := Option.some.inj (hshows.field.symm.trans hfield)
  exact ⟨column, hoffers, hshows, rfl⟩

theorem recordingPart_of_mem {pieces : List Piece} (h : s.pieces = .ok pieces) {p : Piece}
    (hp : p ∈ pieces) (hpart : p.part.isRecording = true) : p.part = .recording
      (if (s.look.places .recordIcon).isSome then .recordColumn else .recordInline) := by
  have hlayer : p.part.layer ≠ .background := by
    cases hq : p.part <;> simp_all [Part.isRecording, Part.layer]
  obtain ⟨column, hplace, hoffers, -⟩ := offers_of_mem_pieces h hp hlayer
  rcases hplace with hname | hplace
  · simp [hname, Part.isRecording] at hpart
  · exact hoffers.recordingPart hplace hpart

theorem deliveryPart_of_mem {pieces : List Piece} (h : s.pieces = .ok pieces) {p : Piece}
    (hp : p ∈ pieces) (hpart : p.part.isDelivery = true) :
    p.part ∈ (s.deliverySlot?.map Part.delivery).toList := by
  have hlayer : p.part.layer ≠ .background := by
    cases hq : p.part <;> simp_all [Part.isDelivery, Part.layer]
  obtain ⟨column, -, hoffers, -⟩ := offers_of_mem_pieces h hp hlayer
  exact hoffers.deliveryPart hpart

/-- Every icon but the picon shows the pixmap of the slot that its part names. -/
theorem icon_of_mem {pieces : List Piece} (h : s.pieces = .ok pieces) {p : Piece}
    (hp : p ∈ pieces) (hlayer : p.element.layer = .icon) :
    p.part = .picon ∨ ∃ slot pixmap bounds, p.part.slot? = some slot ∧ slot ∈ p.part.slots
      ∧ s.look.icons slot = some pixmap
      ∧ p.element.shape = .pixmap (pixmap.scaledToFit bounds) := by
  have hpart : p.part.layer = .icon := by
    rcases shows_of_mem_pieces h hp with ⟨-, hshows⟩ | ⟨-, -, hshows⟩ | ⟨-, _, -, -, hshows⟩ <;>
      exact hshows.layer.symm.trans hlayer
  obtain ⟨column, -, hoffers, hshows⟩ := offers_of_mem_pieces h hp (by rw [hpart]; decide)
  cases hslot : p.part.slot? with
  | none => exact .inl (by cases hq : p.part <;> simp_all [Part.slot?, Part.layer])
  | some slot =>
    obtain ⟨pixmap, bounds, hpixmap, hshape⟩ := hshows.slot slot hslot
    exact .inr ⟨slot, pixmap, bounds, rfl, hoffers.mem_slots hslot, hpixmap, hshape⟩

/-- The progress of a row is one text, or a bar and its frame. -/
theorem progress_once {pieces : List Piece} (h : s.pieces = .ok pieces) :
    let shown := (pieces.map Piece.element).filter fun e => e.field == some .progress
    shown.length ≤ 1 ∧ (∀ e ∈ shown, e.layer = .text)
    ∨ (∀ e ∈ shown, e.layer = .progress ∨ e.layer = .border)
      ∧ (shown.filter fun e => e.layer == .progress).length ≤ 1
      ∧ (shown.filter fun e => e.layer == .border).length ≤ 1 := by
  have hparts : ∀ p ∈ pieces, (p.element.field == some Field.progress) = true →
      p.element.layer = p.part.layer
        ∧ if s.options.progressMode = .bar then p.part ∈ [Part.progressBar, .progressBorder]
          else p.part = .progressText := by
    intro p hp hfield
    obtain ⟨column, hoffers, hshows, hcolumn⟩ := offers_of_field h hp (beq_iff_eq.mp hfield)
    exact ⟨hshows.layer, hoffers.progressPart hcolumn⟩
  dsimp only
  by_cases hmode : s.options.progressMode = .bar
  · simp only [if_pos hmode] at hparts
    -- each layer has one of the two parts
    have hone (layer : Layer) (part : Part)
        (honly : ∀ q ∈ [Part.progressBar, .progressBorder], q.layer = layer → q = part) :
        (((pieces.map Piece.element).filter fun e => e.field == some .progress).filter
          fun e => e.layer == layer).length ≤ 1 := by
      rw [List.filter_filter]
      apply length_filter_elements h [part]
      intro p hp hboth
      obtain ⟨hon, hfield⟩ := Bool.and_eq_true_iff.mp hboth
      obtain ⟨hlayer, hpart⟩ := hparts p hp hfield
      exact List.mem_singleton.mpr (honly p.part hpart (hlayer.symm.trans (beq_iff_eq.mp hon)))
    refine .inr ⟨?_, hone .progress .progressBar (by decide),
      hone .border .progressBorder (by decide)⟩
    rw [forall_mem_filter_elements]
    intro p hp hfield
    obtain ⟨hlayer, hpart⟩ := hparts p hp hfield
    rw [hlayer]
    rcases List.mem_pair.mp hpart with hpart | hpart
    · exact .inl (by rw [hpart]; rfl)
    · exact .inr (by rw [hpart]; rfl)
  · -- otherwise there is only the text
    simp only [if_neg hmode] at hparts
    refine .inl ⟨?_, ?_⟩
    · apply length_filter_elements h [.progressText]
      intro p hp hfield
      exact List.mem_singleton.mpr (hparts p hp hfield).2
    · rw [forall_mem_filter_elements]
      intro p hp hfield
      obtain ⟨hlayer, hpart⟩ := hparts p hp hfield
      rw [hlayer, hpart]
      rfl

theorem showsOnce_of_pieces {pieces : List Piece} (h : s.pieces = .ok pieces) {row : Row}
    (hrow : row.elements = pieces.map Piece.element) : row.ShowsOnce s.look pieces where
  elements := hrow
  icons p hp := icon_of_mem h hp
  title := by
    unfold Row.elementsOf
    rw [hrow]
    apply length_filter_elements h [.nowTitle]
    intro p hp hfield
    obtain ⟨column, hoffers, -, hcolumn⟩ := offers_of_field h hp (beq_iff_eq.mp hfield)
    exact List.mem_singleton.mpr (hoffers.titlePart hcolumn)
  recording := by
    apply length_filter_le h [.recording _]
    intro p hp hpart
    exact List.mem_singleton.mpr (recordingPart_of_mem h hp hpart)
  delivery := by
    have hle : (s.deliverySlot?.map Part.delivery).toList.length ≤ 1 := by
      cases s.deliverySlot? <;> simp
    exact (length_filter_le h _ fun p hp hpart => deliveryPart_of_mem h hp hpart).trans hle
  crypto := by
    apply length_filter_le h [.crypto]
    intro p hp hpart
    exact List.mem_singleton.mpr (beq_iff_eq.mp hpart)
  texts field := by
    have hle : field.captions.length ≤ 1 := by cases field <;> decide
    refine le_trans ?_ hle
    unfold Row.elementsOf
    rw [hrow, List.filter_filter]
    apply length_filter_elements h
    intro p hp hboth
    obtain ⟨htext, hfield⟩ := Bool.and_eq_true_iff.mp hboth
    obtain ⟨column, hoffers, hshows, hcolumn⟩ := offers_of_field h hp (beq_iff_eq.mp hfield)
    exact hcolumn ▸ hoffers.mem_captions (hshows.layer_text htext)
  background := by
    rw [hrow]
    apply length_filter_elements h [.backdrop, .ground]
    intro p hp hfield
    apply part_of_background
    by_contra hlayer
    obtain ⟨column, -, -, hshows⟩ := offers_of_mem_pieces h hp hlayer
    simp [hshows.field] at hfield
  progress := by
    unfold Row.elementsOf
    rw [hrow]
    exact progress_once h

end Scene

namespace ListView

variable {v : ListView} {sources : Sources} {style : Style} {selected : Bool}

/-! ## The row at the cursor -/

/-- **Nothing is shown twice** in the row at the cursor. -/
theorem row_showsOnce {row : Row} (h : (v.describe sources style selected).2 = .ok (some row)) :
    ∃ r pieces, v.listing.current? = some r
      ∧ (v.scene sources style selected r).pieces = .ok pieces
      ∧ row.ShowsOnce v.look pieces := by
  obtain ⟨r, pieces, hr, hpieces, rfl⟩ := row_eq_some h
  exact ⟨r, pieces, hr, hpieces, Scene.showsOnce_of_pieces hpieces rfl⟩

theorem row_showsOnce_furnished : ∃ row r pieces,
    ((run furnished empty).describe halfway .plain false).2 = .ok (some row)
      ∧ (run furnished empty).listing.current? = some r
      ∧ ((run furnished empty).scene halfway .plain false r).pieces = .ok pieces
      ∧ row.elements.length = 8 ∧ row.ShowsOnce (run furnished empty).look pieces := by
  obtain ⟨row, hrow, helements⟩ := furnished_row
  obtain ⟨r, pieces, hr, hpieces, honce⟩ := row_showsOnce hrow
  exact ⟨row, r, pieces, hrow, hr, hpieces, by simpa using congrArg List.length helements, honce⟩

end ListView

end Bouquet
