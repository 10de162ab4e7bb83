import Bouquet.Proofs.RowFaults

/-!
# The Pieces of a Row

Every piece of a row comes from the builder of one column. What a builder can make is known before
any text is measured and any rectangle is cut: the parts that a column has room for, in their order,
and for each part its layer, its field and the slot of the pixmap table that it comes from. Only
whether there is room for a piece is left to geometry.

## Main definitions

- `Part.layer`, `Part.slot?`, `Part.fieldIn`: what a part tells about its piece
- `Scene.Shows`: a piece that is what its part says
- `Scene.partsOf`, `Scene.parts`: the parts that a column and a row have room for
- `Scene.Offers`: what it takes for a column to have room for a part

## Main statements

- `Scene.namePieces_eq_ok`: the column of the name, piece by piece
- `Scene.fieldPieces_fills`: every column
- `Scene.pieces_eq_ok`, `Scene.parts_sublist`, `Scene.shows_of_mem_pieces`: a whole row
- `ListView.describe_eq_ok`: the row at the cursor
-/

namespace Bouquet

theorem Field.mem_all (field : Field) : field ∈ Field.all := by
  cases field <;> decide

/-! ## Parts -/

/-- The layer that a part stands on. -/
def Part.layer : Part → Layer
  | .backdrop | .ground => .background
  | .number | .name | .time | .nowTitle | .nextTitle | .progressText => .text
  | .progressBar => .progress
  | .progressBorder => .border
  | .picon | .marker | .folder _ | .recording _ | .delivery _ | .crypto => .icon

/-- The slot of the pixmap table that an icon comes from. The picon comes from a file, and the
picture of the bar is none of the icons. -/
def Part.slot? : Part → Option Icon
  | .marker => some .marker
  | .folder slot | .recording slot | .delivery slot => some slot
  | .crypto => some .crypto
  | _ => none

/-- The field that a part of a column belongs to: that of the column, but for the title of the
running event, which keeps its field wherever it stands. -/
def Part.fieldIn (column : Field) : Part → Field
  | .nowTitle => .nowTitle
  | _ => column

theorem Part.layer_of_slot {part : Part} {slot : Icon} (h : part.slot? = some slot) :
    part.layer = .icon := by
  cases part <;> simp_all [Part.slot?, Part.layer]

/-- The layers that a shape may stand on. -/
def Shape.layers : Shape → List Layer
  | .fill _ => [.background, .progress]
  | .stroke .. => [.border]
  | .text .. => [.text]
  | .pixmap _ => [.background, .icon, .progress]

/-! ## Single pieces -/

/-- A piece of a field that is what its part says: it can be seen, it stands on the layer of its
part, and an icon shows the pixmap of its slot. -/
structure Scene.Shows (s : Scene) (field : Option Field) (p : Piece) : Prop where
  visible : p.element.rect.isEmpty = false
  text : p.element.text? ≠ some ""
  field : p.element.field = field
  layer : p.element.layer = p.part.layer
  shape : p.element.layer ∈ p.element.shape.layers
  slot : ∀ slot, p.part.slot? = some slot → ∃ pixmap bounds,
    s.look.icons slot = some pixmap ∧ p.element.shape = .pixmap (pixmap.scaledToFit bounds)

namespace Scene

variable {s : Scene} {p : Piece} {part : Part}

theorem shows_of_mem_block {field : Option Field} {layer : Layer} {rect : Rect} {shape : Shape}
    (h : p ∈ Piece.block part field layer rect shape) (hpart : part.layer = layer)
    (hslot : part.slot? = none) (hshape : layer ∈ shape.layers) (htext : shape.text? ≠ some "") :
    p.part = part ∧ s.Shows field p := by
  unfold Piece.block at h
  split at h
  · cases h
  · next hrect =>
    obtain rfl : ⟨part, field, layer, rect, shape⟩ = p := Option.some.inj h
    have hvisible : rect.isEmpty = false := Bool.not_eq_true _ ▸ hrect
    exact ⟨rfl, hvisible, htext, rfl, hpart.symm, hshape, by simp [hslot]⟩

theorem shows_of_mem_caption {field : Field} {rect : Rect} {font : Font} {text : String}
    {color : Color} {align : TextAlign}
    (h : p ∈ Piece.caption part field rect font text color align) (hpart : part.layer = .text) :
    p.part = part ∧ s.Shows (some field) p := by
  have hslot : part.slot? = none := by
    by_contra hsome
    obtain ⟨slot, hslot⟩ := Option.ne_none_iff_exists'.mp hsome
    simp [Part.layer_of_slot hslot] at hpart
  unfold Piece.caption at h
  dsimp only at h
  split at h
  · cases h
  · next hshown =>
    refine shows_of_mem_block h hpart hslot List.mem_cons_self ?_
    intro heq
    apply hshown
    simp [Option.some.inj heq]

/-- An icon that has room is scaled to its area. -/
theorem mem_picture {field : Field} {area : Rect} {pixmap : Pixmap}
    (h : p ∈ Piece.picture part field area pixmap) :
    ∃ rect, rect.isEmpty = false
      ∧ p = ⟨part, some field, .icon, rect, .pixmap (pixmap.scaledToFit area.size)⟩ := by
  unfold Piece.picture at h
  split at h
  · cases h
  · unfold Piece.block at h
    dsimp only at h
    split at h
    · cases h
    · next hrect => exact ⟨_, Bool.not_eq_true _ ▸ hrect, (Option.some.inj h).symm⟩

theorem shows_of_mem_picture {field : Field} {area : Rect} {pixmap : Pixmap}
    (h : p ∈ Piece.picture part field area pixmap) (hpart : part.layer = .icon)
    (hslot : ∀ slot, part.slot? = some slot → s.look.icons slot = some pixmap) :
    p.part = part ∧ s.Shows (some field) p := by
  obtain ⟨rect, hvisible, rfl⟩ := mem_picture h
  refine ⟨rfl, hvisible, by simp [Element.text?, Shape.text?], rfl, hpart.symm,
    by simp [Shape.layers], ?_⟩
  intro slot heq
  exact ⟨pixmap, area.size, hslot slot heq, rfl⟩

theorem shows_of_mem_iconPiece {field : Field} {rect : Rect} {slot : Icon}
    (h : p ∈ s.iconPiece part field rect slot) (hpart : part.slot? = some slot) :
    p.part = part ∧ s.Shows (some field) p := by
  obtain ⟨pixmap, hpixmap, h⟩ := Option.bind_eq_some_iff.mp h
  refine shows_of_mem_picture h (Part.layer_of_slot hpart) ?_
  intro other hother
  rw [← hpixmap, Option.some.inj (hpart.symm.trans hother)]

/-! ## Room for parts -/

/-- The icons that one side of the name has room for, in their order. -/
def inlineParts (s : Scene) (side : IconMode) : List Part :=
  if s.isPlayable then
    (if side == .beforeName && s.options.recordMode == .icon && (s.look.places .recordIcon).isNone
      then [.recording .recordInline] else [])
    ++ (if s.options.typeIconMode == side then (s.deliverySlot?.map Part.delivery).toList else [])
    ++ (if s.options.cryptoIconMode == side then [.crypto] else [])
  else []

/-- The parts that a column has room for, in their order. -/
def partsOf (s : Scene) : Field → List Part
  | .number => if s.showsNumber then [.number] else []
  | .markerIcon => if s.kind == .marker then [.marker] else []
  | .folderIcon =>
    match s.kind with
    | .folder => [.folder .folder]
    | .group => [.folder .group]
    | _ => []
  | .picon => if s.isPlayable then [.picon] else []
  | .recordIcon =>
    if s.options.recordMode == .icon && s.isPlayable then [.recording .recordColumn] else []
  | .progress =>
    if s.subject.now.isSome then
      match s.options.progressMode with
      | .off => []
      | .bar => [.progressBar, .progressBorder]
      | .percent | .minutes => [.progressText]
    else []
  | .name =>
    s.inlineParts .beforeName ++ [.name] ++ s.inlineParts .afterName
      ++ (if s.isPlayable && (s.look.places .nowTitle).isNone && s.subject.now.isSome then
        [.nowTitle] else [])
  | .time => if s.subject.now.isSome then [.time] else []
  | .nowTitle => if s.subject.now.isSome then [.nowTitle] else []
  | .nextTitle => if s.subject.next.isSome then [.nextTitle] else []
  | .typeIcon =>
    if s.options.typeIconMode == .off then (s.deliverySlot?.map Part.delivery).toList else []

/-- The parts of a column where the look places it. -/
def placedParts (s : Scene) (column : Field) : List Part :=
  if (s.look.places column).isSome then s.partsOf column else []

/-- The parts that a row has room for. -/
def parts (s : Scene) : List Part :=
  [.backdrop, .ground] ++
    match s.look.mode with
    | .simple => [.name]
    | .complex => Field.all.flatMap s.placedParts

/-- Pieces that a column has room for, each of which is what its part says. -/
structure Fills (s : Scene) (column : Field) (pieces : List Piece) : Prop where
  parts : (pieces.map Piece.part).Sublist (s.partsOf column)
  shows : ∀ p ∈ pieces, s.Shows (some (p.part.fieldIn column)) p

variable {column : Field} {rect : Rect}

theorem parts_option {o : Option Piece} (h : ∀ p ∈ o, p.part = part) :
    (o.toList.map Piece.part).Sublist [part] := by
  cases o with
  | none => exact List.nil_sublist _
  | some p => simp [h p rfl]

theorem fills_nil : s.Fills column [] :=
  ⟨List.nil_sublist _, by simp⟩

theorem fills_option {o : Option Piece}
    (h : ∀ p ∈ o, p.part ∈ s.partsOf column ∧ s.Shows (some (p.part.fieldIn column)) p) :
    s.Fills column o.toList := by
  cases o with
  | none => exact fills_nil
  | some p =>
    obtain ⟨hpart, hshows⟩ := h p rfl
    exact ⟨List.singleton_sublist.mpr hpart, by simpa using hshows⟩

/-! ## Columns of one piece -/

/-- A text column: its part has room, and stands for the field of the column. -/
theorem fills_caption {text : String} {color : Color} {align : TextAlign}
    (hpart : part.layer = .text) (hroom : part ∈ s.partsOf column)
    (hfield : part.fieldIn column = column) :
    s.Fills column (s.caption part column rect text color align).toList := by
  apply fills_option
  intro p hp
  obtain ⟨rfl, hshows⟩ := shows_of_mem_caption (s := s) hp hpart
  exact ⟨hroom, hfield.symm ▸ hshows⟩

/-- An icon column. -/
theorem fills_iconPiece {slot : Icon} (hpart : part.slot? = some slot)
    (hroom : part ∈ s.partsOf column) (hfield : part.fieldIn column = column) :
    s.Fills column (s.iconPiece part column rect slot).toList := by
  apply fills_option
  intro p hp
  obtain ⟨rfl, hshows⟩ := shows_of_mem_iconPiece hp hpart
  exact ⟨hroom, hfield.symm ▸ hshows⟩

theorem numberPiece_fills : s.Fills .number (s.numberPiece rect).toList := by
  unfold numberPiece
  split
  · next hshown =>
    obtain ⟨-, hshown⟩ := Bool.and_eq_true_iff.mp hshown
    cases s.number? with
    | none => exact fills_nil
    | some number => exact fills_caption rfl (by simp [partsOf, hshown]) rfl
  · exact fills_nil

theorem markerPiece_fills : s.Fills .markerIcon (s.markerPiece rect).toList := by
  unfold markerPiece
  split
  · next hkind => exact fills_iconPiece rfl (by simp [partsOf, hkind]) rfl
  · exact fills_nil

theorem folderPiece_fills : s.Fills .folderIcon (s.folderPiece rect).toList := by
  unfold folderPiece
  split
  · next hkind => exact fills_iconPiece rfl (by simp [partsOf, hkind]) rfl
  · next hkind => exact fills_iconPiece rfl (by simp [partsOf, hkind]) rfl
  · exact fills_nil

theorem piconPiece_fills : s.Fills .picon (s.piconPiece rect).toList := by
  unfold piconPiece
  split
  · next hplayable =>
    cases s.picon? with
    | none => exact fills_nil
    | some pixmap =>
      apply fills_option
      intro p hp
      -- the picon comes from no slot of the pixmap table
      obtain ⟨hpart, hshows⟩ := shows_of_mem_picture (s := s) hp rfl (by simp [Part.slot?])
      rw [hpart]
      exact ⟨by simp [partsOf, hplayable], hshows⟩
  · exact fills_nil

theorem recordPiece_fills : s.Fills .recordIcon (s.recordPiece rect).toList := by
  unfold recordPiece
  split
  · next hrecorded =>
    have hroom : Part.recording .recordColumn ∈ s.partsOf .recordIcon := by
      simp_all [partsOf, isRecorded]
    exact fills_iconPiece rfl hroom rfl
  · exact fills_nil

theorem deliveryPiece_fills : s.Fills .typeIcon (s.deliveryPiece rect).toList := by
  unfold deliveryPiece
  split
  · next hmode =>
    cases hslot : s.deliverySlot? with
    | none => exact fills_nil
    | some slot => exact fills_iconPiece rfl (by simp [partsOf, hmode, hslot]) rfl
  · exact fills_nil

theorem nowTitlePiece_fills : s.Fills .nowTitle (s.nowTitlePiece rect).toList := by
  unfold nowTitlePiece
  cases hnow : s.subject.now with
  | none => exact fills_nil
  | some event => exact fills_caption rfl (by simp [partsOf, hnow]) rfl

theorem nextTitlePiece_fills : s.Fills .nextTitle (s.nextTitlePiece rect).toList := by
  unfold nextTitlePiece
  cases hnext : s.subject.next with
  | none => exact fills_nil
  | some event => exact fills_caption rfl (by simp [partsOf, hnext]) rfl

theorem timePiece_fills {piece : Option Piece} (h : s.timePiece rect = .ok piece) :
    s.Fills .time piece.toList := by
  unfold timePiece at h
  cases hnow : s.subject.now with
  | none =>
    obtain rfl : none = piece := by simpa [hnow] using h
    exact fills_nil
  | some event =>
    rw [hnow] at h
    obtain ⟨stop, -, rfl⟩ := map_eq_ok.mp h
    exact fills_caption rfl (by simp [partsOf, hnow]) rfl

/-! ## Progress -/

theorem mem_layers_barShape : Layer.progress ∈ s.barShape.layers := by
  unfold barShape
  split <;> simp [Shape.layers]

theorem text?_barShape : s.barShape.text? = none := by
  unfold barShape
  split <;> rfl

/-- A bar with its frame. -/
theorem fills_bar {ratio : Float32}
    (hroom : s.partsOf .progress = [.progressBar, .progressBorder]) :
    s.Fills .progress
      ((Piece.block .progressBar (some .progress) .progress (s.filledRect rect ratio)
        s.barShape).toList ++ (s.borderPiece rect).toList) := by
  have hbar : ∀ p ∈ Piece.block .progressBar (some .progress) .progress
      (s.filledRect rect ratio) s.barShape, p.part = .progressBar ∧ s.Shows (some .progress) p :=
    fun p hp => shows_of_mem_block hp rfl rfl mem_layers_barShape (by simp [text?_barShape])
  have hborder : ∀ p ∈ s.borderPiece rect,
      p.part = .progressBorder ∧ s.Shows (some .progress) p := by
    intro p hp
    unfold borderPiece at hp
    split at hp
    · exact shows_of_mem_block hp rfl rfl List.mem_cons_self (by simp [Shape.text?])
    · cases hp
  constructor
  · -- either of the two may be missing
    rw [hroom, List.map_append]
    exact (parts_option fun p hp => (hbar p hp).1).append
      (parts_option fun p hp => (hborder p hp).1)
  · intro p hp
    rcases List.mem_append.mp hp with hp | hp
    · obtain ⟨hpart, hshows⟩ := hbar p (Option.mem_toList.mp hp)
      rwa [hpart]
    · obtain ⟨hpart, hshows⟩ := hborder p (Option.mem_toList.mp hp)
      rwa [hpart]

theorem progressOf_fills (hnow : s.subject.now.isSome = true) (ratio : Float32)
    (minutes : Option Int) : s.Fills .progress (s.progressOf rect ratio minutes) := by
  unfold progressOf
  cases hmode : s.options.progressMode with
  | off => exact fills_nil
  | percent => exact fills_caption rfl (by simp [partsOf, hnow, hmode]) rfl
  | minutes =>
    cases minutes with
    | none => exact fills_nil
    | some left => exact fills_caption rfl (by simp [partsOf, hnow, hmode]) rfl
  | bar => exact fills_bar (by simp [partsOf, hnow, hmode])

theorem progressPieces_fills {pieces : List Piece} (h : s.progressPieces rect = .ok pieces) :
    s.Fills .progress pieces := by
  unfold progressPieces at h
  cases hnow : s.subject.now with
  | none =>
    obtain rfl : [] = pieces := by simpa [hnow] using h
    exact fills_nil
  | some event =>
    rw [hnow] at h
    dsimp only at h
    cases hratio : event.progressAt s.subject.clock with
    | none =>
      obtain rfl : [] = pieces := by simpa [hratio] using h
      exact fills_nil
    | some ratio =>
      rw [hratio] at h
      obtain ⟨minutes, -, rfl⟩ := map_eq_ok.mp h
      exact progressOf_fills (by simp [hnow]) ratio minutes

/-! ## The column of the name -/

/-- Icons that were set side by side: each is in the middle of an area of its own, or was left out
because its area is empty. -/
inductive Placed : List (Part × Pixmap) → List Piece → Prop where
  | nil : Placed [] []
  | shown {part : Part} {pixmap : Pixmap} {area : Rect} {p : Piece} {icons pieces} :
      p ∈ Piece.picture part .name area pixmap → Placed icons pieces →
      Placed ((part, pixmap) :: icons) (p :: pieces)
  | hidden {icon : Part × Pixmap} {icons pieces} :
      Placed icons pieces → Placed (icon :: icons) pieces

theorem placed_placeIcons {icons : List (Part × Pixmap)} {area rest : Rect} {pieces : List Piece}
    (h : s.placeIcons icons area = .ok (pieces, rest)) : Placed icons pieces := by
  -- each icon is cut off from what the icons before it leave of the area
  induction icons generalizing area rest pieces with
  | nil =>
    obtain ⟨rfl, -⟩ : [] = pieces ∧ area = rest := by simpa [placeIcons] using h
    exact .nil
  | cons icon icons ih =>
    obtain ⟨part, pixmap⟩ := icon
    rw [placeIcons] at h
    obtain ⟨⟨left, right⟩, -, h⟩ := bind_eq_ok.mp h
    obtain ⟨⟨later, free⟩, hlater, h⟩ := bind_eq_ok.mp h
    obtain ⟨rfl, rfl⟩ : (Piece.picture part .name left pixmap).toList ++ later = pieces
        ∧ free = rest := by
      simpa [pure, Except.pure] using h
    cases hpiece : Piece.picture part .name left pixmap with
    | none => exact .hidden (ih hlater)
    | some p => exact .shown hpiece (ih hlater)

theorem mem_inlineIcons {side : IconMode} {icon : Part × Pixmap} (h : icon ∈ s.inlineIcons side) :
    icon.1.layer = .icon ∧ icon.1.fieldIn .name = .name
      ∧ ∀ slot, icon.1.slot? = some slot → s.look.icons slot = some icon.2 := by
  have htagged (part : Part) (slot : Icon) (hpart : part.slot? = some slot)
      (hicon : icon ∈ s.tagged? part slot) : icon.1 = part ∧ icon.1.layer = .icon
        ∧ ∀ slot, icon.1.slot? = some slot → s.look.icons slot = some icon.2 := by
    obtain ⟨pixmap, hpixmap, rfl⟩ := Option.map_eq_some_iff.mp hicon
    refine ⟨rfl, Part.layer_of_slot hpart, fun other hother => ?_⟩
    rw [← hpixmap, Option.some.inj (hpart.symm.trans hother)]
  unfold inlineIcons at h
  split at h
  · rcases List.mem_append.mp h with h | h
    · rcases List.mem_append.mp h with h | h
      · -- the recording icon
        rw [Option.mem_toList, inlineRecording?] at h
        split at h
        · obtain ⟨hpart, hlayer, hslot⟩ := htagged _ _ rfl h
          exact ⟨hlayer, by rw [hpart]; rfl, hslot⟩
        · cases h
      · -- the delivery icon
        rw [Option.mem_toList, inlineDelivery?] at h
        split at h
        · obtain ⟨slot, -, h⟩ := Option.bind_eq_some_iff.mp h
          obtain ⟨hpart, hlayer, hslot⟩ := htagged (.delivery slot) slot rfl h
          exact ⟨hlayer, by rw [hpart]; rfl, hslot⟩
        · cases h
    · -- the icon of scrambled services
      rw [Option.mem_toList, inlineCrypto?] at h
      split at h
      · obtain ⟨hpart, hlayer, hslot⟩ := htagged .crypto .crypto rfl h
        exact ⟨hlayer, by rw [hpart]; rfl, hslot⟩
      · cases h
  · cases h

theorem inlineIcons_parts (side : IconMode) :
    ((s.inlineIcons side).map Prod.fst).Sublist (s.inlineParts side) := by
  have htagged (part : Part) (slot : Icon) :
      ((s.tagged? part slot).toList.map Prod.fst).Sublist [part] := by
    unfold tagged?
    cases s.look.icons slot <;> simp
  unfold inlineIcons inlineParts
  split
  · simp only [List.map_append]
    refine List.Sublist.append (List.Sublist.append ?_ ?_) ?_
    · unfold inlineRecording?
      split
      · next hroom =>
        obtain ⟨hroom, -⟩ := Bool.and_eq_true_iff.mp hroom
        rw [if_pos hroom]
        exact htagged _ _
      · exact List.nil_sublist _
    · unfold inlineDelivery?
      split
      · cases s.deliverySlot? with
        | none => exact List.nil_sublist _
        | some slot => exact htagged _ _
      · exact List.nil_sublist _
    · unfold inlineCrypto?
      split
      · next hroom =>
        obtain ⟨hroom, -⟩ := Bool.and_eq_true_iff.mp hroom
        rw [if_pos hroom]
        exact htagged _ _
      · exact List.nil_sublist _
  · exact List.nil_sublist _

theorem Placed.parts_sublist {icons : List (Part × Pixmap)} {pieces : List Piece}
    (h : Placed icons pieces) : (pieces.map Piece.part).Sublist (icons.map Prod.fst) := by
  induction h with
  | nil => exact .slnil
  | shown hp _ ih =>
    obtain ⟨_, -, rfl⟩ := mem_picture hp
    exact ih.cons_cons _
  | hidden _ ih => exact ih.cons _

theorem Placed.shows {icons : List (Part × Pixmap)} {pieces : List Piece} (h : Placed icons pieces)
    (hicons : ∀ icon ∈ icons, icon.1.layer = .icon ∧ icon.1.fieldIn .name = .name
      ∧ ∀ slot, icon.1.slot? = some slot → s.look.icons slot = some icon.2) :
    ∀ p ∈ pieces, s.Shows (some (p.part.fieldIn .name)) p := by
  induction h with
  | nil => simp
  | shown hp _ ih =>
    obtain ⟨⟨hlayer, hfield, hslot⟩, hicons⟩ := List.forall_mem_cons.mp hicons
    obtain ⟨hpart, hshows⟩ := shows_of_mem_picture (s := s) hp hlayer hslot
    refine List.forall_mem_cons.mpr ⟨?_, ih hicons⟩
    rwa [hpart, hfield]
  | hidden _ ih => exact ih (List.forall_mem_cons.mp hicons).2

theorem Placed.field_eq {icons : List (Part × Pixmap)} {pieces : List Piece}
    (h : Placed icons pieces) : ∀ p ∈ pieces, p.element.field = some .name := by
  induction h with
  | nil => simp
  | shown hp _ ih =>
    obtain ⟨_, -, rfl⟩ := mem_picture hp
    exact List.forall_mem_cons.mpr ⟨rfl, ih⟩
  | hidden _ ih => exact ih

/-- **The column of the name**, piece by piece: icons, the name, icons, the title of the event. -/
theorem namePieces_eq_ok {pieces : List Piece} :
    s.namePieces rect = .ok pieces ↔ ∃ before area nameRect rest after free,
      s.placeIcons (s.inlineIcons .beforeName) (s.nameLines rect).1 = .ok (before, area)
        ∧ area.splitLeft (s.nameWidth area) s.gap = .ok (nameRect, rest)
        ∧ s.placeIcons (s.inlineIcons .afterName) rest = .ok (after, free)
        ∧ pieces = before
          ++ (s.caption .name .name nameRect s.subject.name s.foreground .left).toList ++ after
          ++ (s.inlineTitle ((s.nameLines rect).2.getD free)).toList := by
  unfold namePieces
  simp only [bind_eq_ok, Prod.exists, pure, Except.pure, Except.ok.injEq]
  constructor
  · rintro ⟨before, area, hbefore, nameRect, rest, hname, after, free, hafter, rfl⟩
    exact ⟨before, area, nameRect, rest, after, free, hbefore, hname, hafter, rfl⟩
  · rintro ⟨before, area, nameRect, rest, after, free, hbefore, hname, hafter, rfl⟩
    exact ⟨before, area, hbefore, nameRect, rest, hname, after, free, hafter, rfl⟩

theorem shows_of_mem_inlineTitle (hp : p ∈ s.inlineTitle rect) :
    p.part = .nowTitle ∧ s.Shows (some .nowTitle) p
      ∧ s.isPlayable = true ∧ s.look.places .nowTitle = none ∧ s.subject.now.isSome = true := by
  unfold inlineTitle at hp
  split at hp
  · next hroom =>
    obtain ⟨event, hnow, hp⟩ := Option.bind_eq_some_iff.mp hp
    obtain ⟨hpart, hshows⟩ := shows_of_mem_caption (s := s) hp rfl
    obtain ⟨hplayable, hplace⟩ := Bool.and_eq_true_iff.mp hroom
    exact ⟨hpart, hshows, hplayable, Option.isNone_iff_eq_none.mp hplace, by simp [hnow]⟩
  · cases hp

theorem namePieces_fills {pieces : List Piece} (h : s.namePieces rect = .ok pieces) :
    s.Fills .name pieces := by
  obtain ⟨before, area, nameRect, rest, after, free, hbefore, -, hafter, rfl⟩ :=
    namePieces_eq_ok.mp h
  have hbefore := placed_placeIcons hbefore
  have hafter := placed_placeIcons hafter
  have hname : ∀ p ∈ s.caption .name .name nameRect s.subject.name s.foreground .left,
      p.part = .name ∧ s.Shows (some .name) p :=
    fun p hp => shows_of_mem_caption hp rfl
  constructor
  · -- the four parts of the column, in their order
    simp only [List.map_append, partsOf]
    have hbefore := hbefore.parts_sublist.trans (inlineIcons_parts .beforeName)
    have hafter := hafter.parts_sublist.trans (inlineIcons_parts .afterName)
    refine List.Sublist.append ((hbefore.append ?_).append hafter) ?_
    · exact parts_option fun p hp => (hname p hp).1
    · cases hpiece : s.inlineTitle ((s.nameLines rect).2.getD free) with
      | none => exact List.nil_sublist _
      | some p =>
        obtain ⟨hpart, -, hplayable, hplace, hnow⟩ := shows_of_mem_inlineTitle hpiece
        simp [hpart, hplayable, hplace, hnow]
  · intro p hp
    simp only [List.mem_append, Option.mem_toList] at hp
    rcases hp with ((hp | hp) | hp) | hp
    · exact hbefore.shows (fun icon hicon => mem_inlineIcons hicon) p hp
    · obtain ⟨hpart, hshows⟩ := hname p hp
      rwa [hpart]
    · exact hafter.shows (fun icon hicon => mem_inlineIcons hicon) p hp
    · obtain ⟨hpart, hshows, -⟩ := shows_of_mem_inlineTitle hp
      rwa [hpart]

/-! ## What the room depends on -/

/-- What has to hold when a column has room for a part. -/
inductive Offers (s : Scene) : Field → Part → Prop where
  | number : s.showsNumber = true → s.Offers .number .number
  | marker : s.kind = .marker → s.Offers .markerIcon .marker
  | folder : s.kind = .folder → s.Offers .folderIcon (.folder .folder)
  | group : s.kind = .group → s.Offers .folderIcon (.folder .group)
  | picon : s.isPlayable = true → s.Offers .picon .picon
  | recording : s.isPlayable = true → s.Offers .recordIcon (.recording .recordColumn)
  | progressText : s.subject.now.isSome = true → s.options.progressMode ≠ .bar →
      s.Offers .progress .progressText
  | progressBar : s.subject.now.isSome = true → s.options.progressMode = .bar →
      s.Offers .progress .progressBar
  | progressBorder : s.subject.now.isSome = true → s.options.progressMode = .bar →
      s.Offers .progress .progressBorder
  | name : s.Offers .name .name
  | inlineRecording : s.isPlayable = true → s.look.places .recordIcon = none →
      s.Offers .name (.recording .recordInline)
  | inlineDelivery {slot : Icon} : s.isPlayable = true → s.deliverySlot? = some slot →
      s.options.typeIconMode ≠ .off → s.Offers .name (.delivery slot)
  | inlineCrypto : s.isPlayable = true → s.Offers .name .crypto
  | inlineTitle : s.isPlayable = true → s.look.places .nowTitle = none → s.Offers .name .nowTitle
  | time : s.subject.now.isSome = true → s.Offers .time .time
  | nowTitle : s.subject.now.isSome = true → s.Offers .nowTitle .nowTitle
  | nextTitle : s.subject.next.isSome = true → s.Offers .nextTitle .nextTitle
  | delivery {slot : Icon} : s.deliverySlot? = some slot → s.options.typeIconMode = .off →
      s.Offers .typeIcon (.delivery slot)

/-- Columns have nothing on the layer of the background. -/
theorem Offers.layer_ne_background (h : s.Offers column part) : part.layer ≠ .background := by
  cases h <;> simp [Part.layer]

/-- A part belongs to the field of its column. Only the title of the running event may be a guest in
the column of the name, when it has no place of its own. -/
theorem Offers.fieldIn_eq (h : s.Offers column part) :
    part.fieldIn column = column
      ∨ column = .name ∧ part.fieldIn column = .nowTitle ∧ s.isPlayable = true
        ∧ s.look.places .nowTitle = none := by
  cases h with
  | inlineTitle hplayable hplace => exact .inr ⟨rfl, rfl, hplayable, hplace⟩
  | _ => exact .inl rfl

theorem mem_inlineParts {side : IconMode} :
    part ∈ s.inlineParts side ↔ s.isPlayable = true ∧
      (side = .beforeName ∧ s.options.recordMode = .icon ∧ s.look.places .recordIcon = none
          ∧ part = .recording .recordInline
        ∨ s.options.typeIconMode = side ∧ (∃ slot, s.deliverySlot? = some slot
          ∧ .delivery slot = part)
        ∨ s.options.cryptoIconMode = side ∧ part = .crypto) := by
  unfold inlineParts
  split
  · next hplayable =>
    simp only [List.mem_append, List.mem_ite_nil_right, List.mem_singleton, Option.mem_toList,
      Option.map_eq_some_iff, Bool.and_eq_true, beq_iff_eq, Option.isNone_iff_eq_none, hplayable,
      true_and, or_assoc, and_assoc]
  · next hplayable => simp [hplayable]

theorem offers_of_mem_inlineParts {side : IconMode} (hside : side ≠ .off)
    (h : part ∈ s.inlineParts side) : s.Offers .name part := by
  obtain ⟨hplayable, h⟩ := mem_inlineParts.mp h
  rcases h with ⟨-, -, hplace, rfl⟩ | ⟨hmode, slot, hslot, rfl⟩ | ⟨-, rfl⟩
  · exact .inlineRecording hplayable hplace
  · exact .inlineDelivery hplayable hslot (hmode ▸ hside)
  · exact .inlineCrypto hplayable

theorem offers_of_mem_partsOf (h : part ∈ s.partsOf column) : s.Offers column part := by
  cases column with
  | folderIcon =>
    simp only [partsOf] at h
    split at h
    · next hkind => exact List.mem_singleton.mp h ▸ .folder hkind
    · next hkind => exact List.mem_singleton.mp h ▸ .group hkind
    · cases h
  | progress =>
    simp only [partsOf, List.mem_ite_nil_right] at h
    obtain ⟨hnow, h⟩ := h
    cases hmode : s.options.progressMode with
    | off => simp [hmode] at h
    | percent | minutes =>
      obtain rfl : part = .progressText := by simpa [hmode] using h
      exact .progressText hnow (by simp [hmode])
    | bar =>
      obtain rfl | rfl : part = .progressBar ∨ part = .progressBorder := by simpa [hmode] using h
      · exact .progressBar hnow hmode
      · exact .progressBorder hnow hmode
  | name =>
    simp only [partsOf, List.mem_append, List.mem_singleton, List.mem_ite_nil_right] at h
    rcases h with ((h | rfl) | h) | ⟨hroom, rfl⟩
    · exact offers_of_mem_inlineParts (by decide) h
    · exact .name
    · exact offers_of_mem_inlineParts (by decide) h
    · simp only [Bool.and_eq_true, Option.isNone_iff_eq_none] at hroom
      exact .inlineTitle hroom.1.1 hroom.1.2
  | typeIcon =>
    simp only [partsOf, List.mem_ite_nil_right, Option.mem_toList, Option.map_eq_some_iff,
      beq_iff_eq] at h
    obtain ⟨hmode, slot, hslot, rfl⟩ := h
    exact .delivery hslot hmode
  | markerIcon =>
    simp only [partsOf, List.mem_ite_nil_right, List.mem_singleton, beq_iff_eq] at h
    obtain ⟨hkind, rfl⟩ := h
    exact .marker hkind
  | recordIcon =>
    simp only [partsOf, List.mem_ite_nil_right, List.mem_singleton, Bool.and_eq_true] at h
    obtain ⟨⟨-, hplayable⟩, rfl⟩ := h
    exact .recording hplayable
  | _ =>
    -- these columns have room for one part under one condition
    simp only [partsOf, List.mem_ite_nil_right, List.mem_singleton] at h
    obtain ⟨hroom, rfl⟩ := h
    constructor
    exact hroom

/-! ## Rows -/

/-- **Every column** shows what it has room for, and each piece is what its part says. -/
theorem fieldPieces_fills {pieces : List Piece} (h : s.fieldPieces rect column = .ok pieces) :
    s.Fills column pieces := by
  cases column with
  | number => exact Except.ok.inj h ▸ numberPiece_fills
  | markerIcon => exact Except.ok.inj h ▸ markerPiece_fills
  | folderIcon => exact Except.ok.inj h ▸ folderPiece_fills
  | picon => exact Except.ok.inj h ▸ piconPiece_fills
  | recordIcon => exact Except.ok.inj h ▸ recordPiece_fills
  | progress => exact progressPieces_fills h
  | name => exact namePieces_fills h
  | time =>
    obtain ⟨piece, hpiece, rfl⟩ := map_eq_ok.mp h
    exact timePiece_fills hpiece
  | nowTitle => exact Except.ok.inj h ▸ nowTitlePiece_fills
  | nextTitle => exact Except.ok.inj h ▸ nextTitlePiece_fills
  | typeIcon => exact Except.ok.inj h ▸ deliveryPiece_fills

theorem placedPieces_fills {pieces : List Piece} (h : s.placedPieces column = .ok pieces) :
    (pieces.map Piece.part).Sublist (s.placedParts column)
      ∧ ∀ p ∈ pieces, s.Shows (some (p.part.fieldIn column)) p := by
  unfold placedPieces at h
  unfold placedParts
  cases hplace : s.look.places column with
  | none =>
    obtain rfl : [] = pieces := by simpa [hplace] using h
    simp
  | some rect =>
    rw [hplace] at h
    have hfills := fieldPieces_fills h
    exact ⟨hfills.parts, hfills.shows⟩

/-- The fields of a complex row, one column after another. -/
theorem complexPieces_eq_ok {pieces : List Piece} :
    s.complexPieces = .ok pieces ↔ ∃ columns : Field → List Piece,
      (∀ column, s.placedPieces column = .ok (columns column))
        ∧ pieces = Field.all.flatMap columns := by
  unfold complexPieces
  simp only [map_eq_ok, mapM_eq_ok]
  constructor
  · rintro ⟨_, ⟨columns, hcolumns, rfl⟩, rfl⟩
    exact ⟨columns, fun column => hcolumns column column.mem_all, rfl⟩
  · rintro ⟨columns, hcolumns, rfl⟩
    exact ⟨_, ⟨columns, fun column _ => hcolumns column, rfl⟩, rfl⟩

/-- Behind a row lies the pixmap of the style below a color. -/
theorem backgroundPieces_shows :
    (s.backgroundPieces.map Piece.part).Sublist [.backdrop, .ground]
      ∧ ∀ p ∈ s.backgroundPieces, s.Shows none p := by
  have hbackdrop : ∀ p ∈ (s.style.backdrop s.selected).bind fun pixmap =>
      Piece.block .backdrop none .background s.groundRect (.pixmap pixmap),
      p.part = .backdrop ∧ s.Shows none p := by
    intro p hp
    obtain ⟨pixmap, -, hp⟩ := Option.bind_eq_some_iff.mp hp
    exact shows_of_mem_block hp rfl rfl (by simp [Shape.layers]) (by simp [Shape.text?])
  have hground : ∀ p ∈ Piece.block .ground none .background s.groundRect (.fill s.groundColor),
      p.part = .ground ∧ s.Shows none p :=
    fun p hp => shows_of_mem_block hp rfl rfl (by simp [Shape.layers]) (by simp [Shape.text?])
  unfold backgroundPieces
  constructor
  · rw [List.map_append]
    apply (parts_option fun p hp => (hbackdrop p hp).1).append
    split
    · exact parts_option fun p hp => (hground p hp).1
    · exact List.nil_sublist _
  · intro p hp
    rcases List.mem_append.mp hp with hp | hp
    · exact (hbackdrop p (Option.mem_toList.mp hp)).2
    · split at hp
      · exact (hground p (Option.mem_toList.mp hp)).2
      · cases hp

theorem simplePieces_shows :
    (s.simplePieces.map Piece.part).Sublist [.name]
      ∧ ∀ p ∈ s.simplePieces, s.Shows (some .name) p := by
  have hname : ∀ p ∈ Piece.caption .name .name s.look.rowRect s.style.font s.subject.name
      s.foreground .left, p.part = .name ∧ s.Shows (some .name) p :=
    fun p hp => shows_of_mem_caption hp rfl
  exact ⟨parts_option fun p hp => (hname p hp).1,
    fun p hp => (hname p (Option.mem_toList.mp hp)).2⟩

/-- **A row**, piece by piece. -/
theorem pieces_eq_ok {pieces : List Piece} :
    s.pieces = .ok pieces ↔
      s.look.mode = .simple ∧ pieces = s.backgroundPieces ++ s.simplePieces
      ∨ s.look.mode = .complex ∧ ∃ columns : Field → List Piece,
        (∀ column, s.placedPieces column = .ok (columns column))
          ∧ pieces = s.backgroundPieces ++ Field.all.flatMap columns := by
  unfold Scene.pieces frontPieces
  cases hmode : s.look.mode with
  | simple => simp [map_eq_ok]
  | complex =>
    simp only [map_eq_ok, complexPieces_eq_ok, reduceCtorEq, false_and, false_or, true_and]
    constructor
    · rintro ⟨_, ⟨columns, hcolumns, rfl⟩, rfl⟩
      exact ⟨columns, hcolumns, rfl⟩
    · rintro ⟨columns, hcolumns, rfl⟩
      exact ⟨_, ⟨columns, hcolumns, rfl⟩, rfl⟩

/-- A row shows no more than it has room for, in this order. -/
theorem parts_sublist {pieces : List Piece} (h : s.pieces = .ok pieces) :
    (pieces.map Piece.part).Sublist s.parts := by
  unfold parts
  rcases pieces_eq_ok.mp h with ⟨hmode, rfl⟩ | ⟨hmode, columns, hcolumns, rfl⟩
  · rw [hmode, List.map_append]
    exact backgroundPieces_shows.1.append simplePieces_shows.1
  · rw [hmode, List.map_append, List.map_flatMap]
    apply backgroundPieces_shows.1.append
    exact List.Sublist.flatMap_right _ fun column _ => (placedPieces_fills (hcolumns column)).1

/-- A piece of a row belongs to its background, is the name of a simple row, or stands in a column
of a complex one that has a place and has room for it. -/
theorem shows_of_mem_pieces {pieces : List Piece} (h : s.pieces = .ok pieces) (hp : p ∈ pieces) :
    (p.part.layer = .background ∧ s.Shows none p)
      ∨ (s.look.mode = .simple ∧ p.part = .name ∧ s.Shows (some .name) p)
      ∨ (s.look.mode = .complex ∧ ∃ column, (s.look.places column).isSome = true
        ∧ s.Offers column p.part ∧ s.Shows (some (p.part.fieldIn column)) p) := by
  have hback (hp : p ∈ s.backgroundPieces) : p.part.layer = .background ∧ s.Shows none p := by
    have hpart := backgroundPieces_shows.1.subset (List.mem_map_of_mem hp)
    refine ⟨?_, backgroundPieces_shows.2 p hp⟩
    rcases List.mem_pair.mp hpart with hpart | hpart <;> rw [hpart] <;> rfl
  rcases pieces_eq_ok.mp h with ⟨hmode, rfl⟩ | ⟨hmode, columns, hcolumns, rfl⟩
  · rcases List.mem_append.mp hp with hp | hp
    · exact .inl (hback hp)
    · have hpart := simplePieces_shows.1.subset (List.mem_map_of_mem hp)
      exact .inr (.inl ⟨hmode, List.mem_singleton.mp hpart, simplePieces_shows.2 p hp⟩)
  · rcases List.mem_append.mp hp with hp | hp
    · exact .inl (hback hp)
    · obtain ⟨column, -, hp⟩ := List.mem_flatMap.mp hp
      obtain ⟨hparts, hshows⟩ := placedPieces_fills (hcolumns column)
      -- a column without a place has room for nothing
      have hroom := hparts.subset (List.mem_map_of_mem hp)
      unfold placedParts at hroom
      split at hroom
      · next hplace =>
        exact .inr (.inr ⟨hmode, column, hplace, offers_of_mem_partsOf hroom, hshows p hp⟩)
      · cases hroom

end Scene

namespace ListView

variable {v : ListView} {sources : Sources} {style : Style} {selected : Bool}

theorem describe_of_none (hr : v.listing.current? = none) :
    (v.describe sources style selected).2 = .ok none := by
  change v.row sources style selected = _
  rw [ListView.row, hr]

theorem describe_of_some {r : Reference} (hr : v.listing.current? = some r) :
    (v.describe sources style selected).2
      = (v.scene sources style selected r).compose.map some := by
  change v.row sources style selected = _
  rw [ListView.row, hr]

/-- The row of the current entry is composed from its pieces. -/
theorem describe_eq_ok {r : Reference} (hr : v.listing.current? = some r)
    {described : Option Row} :
    (v.describe sources style selected).2 = .ok described ↔
      ∃ pieces, (v.scene sources style selected r).pieces = .ok pieces ∧ described = some
        { size := v.look.itemSize
          selected := selected
          elements := pieces.map Piece.element } := by
  rw [describe_of_some hr]
  constructor
  · intro h
    obtain ⟨row, hrow, rfl⟩ := map_eq_ok.mp h
    obtain ⟨pieces, hpieces, rfl⟩ := map_eq_ok.mp hrow
    exact ⟨pieces, hpieces, rfl⟩
  · rintro ⟨pieces, hpieces, rfl⟩
    exact map_eq_ok.mpr ⟨_, map_eq_ok.mpr ⟨pieces, hpieces, rfl⟩, rfl⟩

theorem row_eq_some {row : Row} (h : (v.describe sources style selected).2 = .ok (some row)) :
    ∃ r pieces, v.listing.current? = some r
      ∧ (v.scene sources style selected r).pieces = .ok pieces
      ∧ row =
        { size := v.look.itemSize
          selected := selected
          elements := pieces.map Piece.element } := by
  cases hr : v.listing.current? with
  | none =>
    rw [describe_of_none hr] at h
    cases h
  | some r =>
    obtain ⟨pieces, hpieces, hrow⟩ := (describe_eq_ok hr).mp h
    exact ⟨r, pieces, rfl, hpieces, Option.some.inj hrow⟩

/-- There is a row when something can be told of it. -/
theorem exists_row {α : Type} {tell : Row → α} {told : α}
    (h : (v.describe sources style selected).2.toOption.join.map tell = some told) :
    ∃ row, (v.describe sources style selected).2 = .ok (some row) ∧ tell row = told := by
  obtain ⟨row, hrow, htold⟩ := Option.map_eq_some_iff.mp h
  refine ⟨row, ?_, htold⟩
  cases hdescribed : (v.describe sources style selected).2 with
  | error fault => simp [hdescribed, Except.toOption] at hrow
  | ok described => simpa [hdescribed, Except.toOption] using hrow

/-! ## A row with many pieces -/

/-- A pixmap of one pixel. -/
def dot : Pixmap := .tabulate 1 1 (by decide) (by decide) fun _ _ => default

/-- A complex row with picon, progress and name. -/
def furnished : List (Sources × ViewAction) :=
  [.list (.append shownEntry), .list .home, .change (.mode .complex), .change (.size ⟨300, 20⟩),
    .change (.place .name (some (.mk4 0 0 200 20))),
    .change (.place .progress (some (.mk4 200 0 50 20))),
    .change (.place .picon (some (.mk4 250 0 50 20))),
    .change (.icon .piconFallback (some dot)), .change (.icon .recordInline (some dot)),
    .change (.icon .crypto (some dot)), .change (.setting (.cryptoIconMode .afterName)),
    .change (.setting (.progressBarBorder 1))].map fun action => (.silent, action)

/-- Sources in the middle of an hour, with a recording and scrambled services. -/
def halfway : Sources :=
  { Sources.silent with
    info := fun r => some { ServiceInfo.tunable r.name with crypted := true }
    event := fun _ _ => some ⟨"news", .ofParts 0 0, ⟨3600 * nanosPerSecond⟩⟩
    recordings := fun _ => [shownEntry]
    now := .ofParts 1800 0 }

/-- Icons stand on both sides of the name, and the title of the event behind them. -/
theorem furnished_row : ∃ row,
    ((run furnished empty).describe halfway .plain false).2 = .ok (some row)
      ∧ row.elements.map (fun e => (e.field, e.layer))
        = [(none, .background), (some .picon, .icon), (some .progress, .progress),
          (some .progress, .border), (some .name, .icon), (some .name, .text), (some .name, .icon),
          (some .nowTitle, .text)] :=
  exists_row (by decide +kernel)

end ListView

end Bouquet
