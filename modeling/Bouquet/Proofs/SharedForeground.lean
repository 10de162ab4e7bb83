import Bouquet.Proofs.LiveData

/-!
# The Shared Foreground

Name and number of a row are drawn in its foreground, and so is every other text, bar or frame for
which no color of its own is configured. A mark changes the foreground and the color of the ground.
Under another mark a row is therefore the same, but for its ground and for the pieces that share the
foreground.

## Main definitions

- `Scene.ownColor?`: the color of a part that does not share the foreground
- `Scene.withMark`: the scene of an entry that is marked or not
- `Scene.underMark`: a piece in the foreground that a mark gives

## Main statements

- `Scene.placedPieces_withMark`: every column under another mark
- `Scene.frontPieces_withMark`: all that stands on the background under another mark
- `Scene.color_of_shared`: what shares the foreground is drawn in it
-/

namespace Bouquet

/-! ## Other colors -/

/-- The shape in another color; a pixmap has none. -/
def Shape.recolored (color : Color) : Shape → Shape
  | .fill _ => .fill color
  | .stroke _ width => .stroke color width
  | .text shown font _ align => .text shown font color align
  | .pixmap content => .pixmap content

/-- The piece in another color. -/
def Piece.recolored (color : Color) (p : Piece) : Piece :=
  { p with element := { p.element with shape := p.element.shape.recolored color } }

theorem Shape.recolored_eq_self {shape : Shape} {color : Color} :
    shape.recolored color = shape ↔ ∀ other, shape.color? = some other → other = color := by
  cases shape <;> simp [recolored, color?, eq_comm]

theorem Piece.recolored_eq_self {p : Piece} {color : Color} :
    p.recolored color = p ↔ ∀ other, p.element.color? = some other → other = color := by
  rw [Element.color?, ← Shape.recolored_eq_self]
  constructor
  · intro h
    exact congrArg (fun p : Piece => p.element.shape) h
  · intro h
    rw [recolored, h]

namespace Scene

variable {s : Scene} {part : Part} {column : Field} {rect : Rect} {marked : Bool}

/-- The color that is configured for a part in front of the background. Without one the part shares
the foreground; name and number always do. -/
def ownColor? (s : Scene) : Part → Option Color
  | .time | .nowTitle =>
    (if s.subject.playable then none else s.tint? .notAvailable)
      <|> (if s.infoHolds ServiceInfo.fallback then s.pick? .eventFallback .eventFallbackSelected
        else none)
      <|> s.pick? .eventForeground .eventForegroundSelected
  | .nextTitle => s.pick? .description .descriptionSelected
  | .progressText | .progressBar => s.pick? .progressBar .progressBarSelected
  | .progressBorder =>
    s.pick? .progressBorder .progressBorderSelected
      <|> s.pick? .eventBorder .eventBorderSelected
  | _ => none

/-- The same scene with the entry marked or not. -/
def withMark (s : Scene) (marked : Bool) : Scene :=
  { s with subject := { s.subject with marked := marked } }

/-- A piece as it looks with the entry marked or not: in the other foreground, if it shares that. -/
def underMark (s : Scene) (marked : Bool) (p : Piece) : Piece :=
  if (s.ownColor? p.part).isNone then p.recolored (s.withMark marked).foreground else p

theorem eventForeground_eq (s : Scene) :
    s.eventForeground = (s.ownColor? .nowTitle).getD s.foreground := by
  unfold eventForeground tunedForeground ownColor?
  cases s.subject.playable with
  | true => rfl
  | false =>
    dsimp only
    cases s.tint? .notAvailable <;> rfl

/-! ## Single pieces -/

/-- A piece looks the same under a mark if it does not share the foreground or has the color that
the mark gives. -/
theorem underMark_eq_self {p : Piece} :
    s.underMark marked p = p ↔ (s.ownColor? p.part = none →
      ∀ color, p.element.color? = some color → color = (s.withMark marked).foreground) := by
  unfold underMark
  cases s.ownColor? p.part with
  | none => simp [Piece.recolored_eq_self]
  | some own => simp

/-- What has no color looks the same under every mark. -/
theorem underMark_of_colorless {p : Piece} (h : p.element.color? = none) :
    s.underMark marked p = p :=
  underMark_eq_self.mpr fun _ color hcolor => by simp [h] at hcolor

theorem underMark_block {field : Option Field} {layer : Layer} (shape : Color → Shape)
    (hshape : ∀ color other, (shape other).recolored color = shape color) :
    (Piece.block part field layer rect
        (shape ((s.ownColor? part).getD s.foreground))).map (s.underMark marked)
      = Piece.block part field layer rect
        (shape ((s.ownColor? part).getD (s.withMark marked).foreground)) := by
  unfold Piece.block
  split
  · rfl
  · cases hown : s.ownColor? part with
    | none => simp [underMark, hown, Piece.recolored, hshape]
    | some own => simp [underMark, hown]

theorem underMark_caption {field : Field} {font : Font} {text : String} {align : TextAlign} :
    (Piece.caption part field rect font text
        ((s.ownColor? part).getD s.foreground) align).map (s.underMark marked)
      = Piece.caption part field rect font text
        ((s.ownColor? part).getD (s.withMark marked).foreground) align := by
  unfold Piece.caption
  dsimp only
  split
  · rfl
  · exact underMark_block (fun color => .text (font.elide text rect.width) font color align)
      fun _ _ => rfl

/-! ## Columns -/

/-- Icons look the same under every mark. -/
theorem underMark_icons {pieces : List Piece} (h : s.Fills column pieces)
    (hicons : ∀ part, s.Offers column part → part.layer = .icon) :
    pieces.map (s.underMark marked) = pieces := by
  have hsame : ∀ p ∈ pieces, s.underMark marked p = p := by
    intro p hp
    have hroom := h.parts.subset (List.mem_map_of_mem hp)
    have hshape := (h.shows p hp).shape
    rw [(h.shows p hp).layer, hicons _ (offers_of_mem_partsOf hroom)] at hshape
    -- only pixmaps stand on the layer of icons
    apply underMark_of_colorless
    unfold Element.color?
    cases hs : p.element.shape <;> simp_all [Shape.layers, Shape.color?]
  exact (List.map_congr_left hsame).trans (List.map_id pieces)

theorem underMark_numberPiece :
    (s.numberPiece rect).map (s.underMark marked) = (s.withMark marked).numberPiece rect := by
  unfold numberPiece
  rw [apply_ite (Option.map (s.underMark marked)), Option.map_bind]
  exact if_congr Iff.rfl (congrArg (Option.bind _) (funext fun _ => underMark_caption)) rfl

theorem underMark_nowTitlePiece :
    (s.nowTitlePiece rect).map (s.underMark marked) = (s.withMark marked).nowTitlePiece rect := by
  unfold nowTitlePiece
  rw [Option.map_bind, eventForeground_eq, eventForeground_eq]
  exact congrArg (Option.bind _) (funext fun _ => underMark_caption)

theorem underMark_nextTitlePiece :
    (s.nextTitlePiece rect).map (s.underMark marked) = (s.withMark marked).nextTitlePiece rect := by
  unfold nextTitlePiece
  rw [Option.map_bind]
  exact congrArg (Option.bind _) (funext fun _ => underMark_caption)

theorem timePiece_withMark :
    (s.withMark marked).timePiece rect
      = (s.timePiece rect).map (Option.map (s.underMark marked)) := by
  have hnow : (s.withMark marked).subject.now = s.subject.now := rfl
  unfold timePiece
  rw [hnow]
  cases s.subject.now with
  | none => rfl
  | some event =>
    dsimp only
    cases event.stop with
    | error fault => rfl
    | ok stop =>
      rw [eventForeground_eq, eventForeground_eq]
      refine congrArg Except.ok (Eq.symm ?_)
      exact underMark_caption

/-! ## Progress -/

theorem underMark_progressText {text : String} :
    (s.progressText rect text).map (s.underMark marked)
      = (s.withMark marked).progressText rect text :=
  underMark_caption

theorem underMark_bar {area : Rect} :
    (Piece.block .progressBar (some .progress) .progress area s.barShape).map (s.underMark marked)
      = Piece.block .progressBar (some .progress) .progress area (s.withMark marked).barShape := by
  have hicons : (s.withMark marked).look.icons = s.look.icons := rfl
  unfold barShape
  rw [hicons]
  cases s.look.icons .progressFill with
  | none => exact underMark_block .fill fun _ _ => rfl
  | some pixmap => exact underMark_block (fun _ => .pixmap pixmap) fun _ _ => rfl

theorem underMark_borderPiece :
    (s.borderPiece rect).map (s.underMark marked) = (s.withMark marked).borderPiece rect := by
  unfold borderPiece
  rw [apply_ite (Option.map (s.underMark marked))]
  refine if_congr Iff.rfl ?_ rfl
  exact underMark_block (fun color => .stroke color s.barBorder) fun _ _ => rfl

theorem underMark_progressOf (ratio : Float32) (minutes : Option Int) :
    (s.progressOf rect ratio minutes).map (s.underMark marked)
      = (s.withMark marked).progressOf rect ratio minutes := by
  have hmode : (s.withMark marked).options.progressMode = s.options.progressMode := rfl
  unfold progressOf
  rw [hmode]
  cases s.options.progressMode with
  | off => rfl
  | percent => rw [← Option.toList_map, underMark_progressText]
  | minutes =>
    cases minutes with
    | none => rfl
    | some left =>
      show (s.progressText rect (s.minutesText left)).toList.map _ = _
      rw [← Option.toList_map, underMark_progressText]
      rfl
  | bar =>
    rw [List.map_append, ← Option.toList_map, ← Option.toList_map, underMark_bar,
      underMark_borderPiece]
    rfl

theorem progressPieces_withMark :
    (s.withMark marked).progressPieces rect
      = (s.progressPieces rect).map (List.map (s.underMark marked)) := by
  have hsubject : (s.withMark marked).subject.now = s.subject.now := rfl
  have hclock : (s.withMark marked).subject.clock = s.subject.clock := rfl
  unfold progressPieces
  rw [hsubject, hclock]
  cases s.subject.now with
  | none => rfl
  | some event =>
    dsimp only
    cases event.progressAt s.subject.clock with
    | none => rfl
    | some ratio =>
      dsimp only
      cases event.remainingMinutes s.subject.clock with
      | error fault => rfl
      | ok minutes => exact congrArg Except.ok (underMark_progressOf ratio minutes).symm

/-! ## The column of the name -/

theorem underMark_placed {icons : List (Part × Pixmap)} {pieces : List Piece}
    (h : Placed icons pieces) : pieces.map (s.underMark marked) = pieces := by
  induction h with
  | nil => rfl
  | shown hp _ ih =>
    obtain ⟨_, -, rfl⟩ := mem_picture hp
    rw [List.map_cons, ih, underMark_of_colorless rfl]
  | hidden _ ih => exact ih

theorem underMark_inlineTitle :
    (s.inlineTitle rect).map (s.underMark marked) = (s.withMark marked).inlineTitle rect := by
  unfold inlineTitle
  rw [apply_ite (Option.map (s.underMark marked)), underMark_nowTitlePiece]
  rfl

theorem namePieces_withMark :
    (s.withMark marked).namePieces rect
      = (s.namePieces rect).map (List.map (s.underMark marked)) := by
  have hplace : (s.withMark marked).placeIcons = s.placeIcons := funext₂ (placeIcons_congr rfl)
  have hlines : (s.withMark marked).nameLines rect = s.nameLines rect := rfl
  have hwidth : (s.withMark marked).nameWidth = s.nameWidth := rfl
  have hgap : (s.withMark marked).gap = s.gap := rfl
  have hicons : (s.withMark marked).inlineIcons = s.inlineIcons := rfl
  unfold namePieces
  rw [hplace, hlines, hwidth, hgap, hicons]
  obtain ⟨line, second⟩ := s.nameLines rect
  -- the two columns are cut alike, and have the same faults
  dsimp only
  cases hbefore : s.placeIcons (s.inlineIcons .beforeName) line with
  | error fault => rfl
  | ok placed =>
    obtain ⟨before, area⟩ := placed
    simp only [bind, Except.bind]
    cases area.splitLeft (s.nameWidth area) s.gap with
    | error fault => rfl
    | ok cut =>
      obtain ⟨nameRect, rest⟩ := cut
      dsimp only
      cases hafter : s.placeIcons (s.inlineIcons .afterName) rest with
      | error fault => rfl
      | ok placed =>
        obtain ⟨after, free⟩ := placed
        have hname : (s.caption .name .name nameRect s.subject.name s.foreground .left).map
            (s.underMark marked) = (s.withMark marked).caption .name .name nameRect
              (s.withMark marked).subject.name (s.withMark marked).foreground .left :=
          underMark_caption
        refine congrArg Except.ok ?_
        simp only [List.map_append, ← Option.toList_map, hname, underMark_inlineTitle,
          underMark_placed (placed_placeIcons hbefore), underMark_placed (placed_placeIcons hafter)]

/-! ## Rows -/

theorem fieldPieces_withMark :
    (s.withMark marked).fieldPieces rect column
      = (s.fieldPieces rect column).map (List.map (s.underMark marked)) := by
  have hone {piece other : Option Piece} (h : piece.map (s.underMark marked) = other) :
      (Except.ok other.toList : Except Fault (List Piece))
        = (Except.ok piece.toList).map (List.map (s.underMark marked)) := by
    rw [← h, Option.toList_map]
    rfl
  have hicon {column : Field} {piece : Option Piece} (h : s.Fills column piece.toList)
      (hicons : ∀ part, s.Offers column part → part.layer = .icon) :
      (Except.ok piece.toList : Except Fault (List Piece))
        = (Except.ok piece.toList).map (List.map (s.underMark marked)) :=
    congrArg Except.ok (underMark_icons h hicons).symm
  cases column with
  | number => exact hone underMark_numberPiece
  | markerIcon => exact hicon markerPiece_fills fun _ h => by cases h; rfl
  | folderIcon => exact hicon folderPiece_fills fun _ h => by cases h <;> rfl
  | picon => exact hicon piconPiece_fills fun _ h => by cases h; rfl
  | recordIcon => exact hicon recordPiece_fills fun _ h => by cases h; rfl
  | typeIcon => exact hicon deliveryPiece_fills fun _ h => by cases h; rfl
  | progress => exact progressPieces_withMark
  | name => exact namePieces_withMark
  | time =>
    unfold fieldPieces
    rw [timePiece_withMark]
    cases s.timePiece rect with
    | error fault => rfl
    | ok piece => exact hone rfl
  | nowTitle => exact hone underMark_nowTitlePiece
  | nextTitle => exact hone underMark_nextTitlePiece

/-- **Every column** under another mark. -/
theorem placedPieces_withMark :
    (s.withMark marked).placedPieces column
      = (s.placedPieces column).map (List.map (s.underMark marked)) := by
  have hplaces : (s.withMark marked).look.places = s.look.places := rfl
  unfold placedPieces
  rw [hplaces]
  cases s.look.places column with
  | none => rfl
  | some rect => exact fieldPieces_withMark

theorem complexPieces_withMark :
    (s.withMark marked).complexPieces
      = s.complexPieces.map (List.map (s.underMark marked)) := by
  have hcolumns : (s.withMark marked).placedPieces
      = fun column => (s.placedPieces column).map (List.map (s.underMark marked)) :=
    funext fun _ => placedPieces_withMark
  unfold complexPieces
  rw [hcolumns, mapM_map]
  cases Field.all.mapM s.placedPieces with
  | error fault => rfl
  | ok columns => exact congrArg Except.ok List.map_flatten.symm

/-- **All that stands on the background** under another mark. -/
theorem frontPieces_withMark (s : Scene) (marked : Bool) :
    (s.withMark marked).frontPieces = s.frontPieces.map (List.map (s.underMark marked)) := by
  have hmode : (s.withMark marked).look.mode = s.look.mode := rfl
  unfold frontPieces
  rw [hmode]
  cases s.look.mode with
  | simple =>
    refine congrArg Except.ok ?_
    rw [simplePieces, simplePieces, ← Option.toList_map]
    exact congrArg Option.toList underMark_caption.symm
  | complex => exact complexPieces_withMark

/-- **What shares the foreground** is drawn in it. -/
theorem color_of_shared {front : List Piece} (h : s.frontPieces = .ok front) {p : Piece}
    (hp : p ∈ front) (hshared : s.ownColor? p.part = none) {color : Color}
    (hcolor : p.element.color? = some color) : color = s.foreground := by
  -- the mark that the entry has changes nothing
  have hself : s.withMark s.subject.marked = s := rfl
  have hsame := frontPieces_withMark s s.subject.marked
  rw [hself, h] at hsame
  have hmap : front.map (s.underMark s.subject.marked) = front.map id :=
    (Except.ok.inj hsame).symm.trans (List.map_id front).symm
  exact underMark_eq_self.mp (List.map_inj_left.mp hmap p hp) hshared color hcolor

end Scene

end Bouquet
