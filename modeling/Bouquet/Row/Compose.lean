import Bouquet.Row.NameColumn

/-!
# Composing rows

A row begins with its background. A simple row adds the name, a complex row adds every field that
has a place, in the order of the fields.

## Main definitions

- `Scene.backgroundPieces`: what lies behind the row
- `Scene.fieldPieces`: the pieces of one field
- `Scene.pieces`, `Scene.compose`: the whole row
-/

namespace Bouquet.Scene

/-! ## Background -/

/-- Where the background lies: the whole row, with margins for a selected row that cannot be
played. -/
def groundRect (s : Scene) : Rect :=
  if s.selected && !s.subject.playable then
    s.look.rowRect.deflate (Binary32.ofNat s.options.nonplayableMargins.toNat)
  else s.look.rowRect

/-- The pixmap of the style, below the color of the row if that is visible. -/
def backgroundPieces (s : Scene) : List Piece :=
  ((s.style.backdrop s.selected).bind fun pixmap =>
      Piece.block .backdrop none .background s.groundRect (.pixmap pixmap)).toList
    ++ (if s.groundColor.isVisible then
        (Piece.block .ground none .background s.groundRect (.fill s.groundColor)).toList
      else [])

/-! ## Foreground -/

/-- The name over the whole row in the font of the style. -/
def simplePieces (s : Scene) : List Piece :=
  (Piece.caption .name .name s.look.rowRect s.style.font s.subject.name s.foreground .left).toList

/-- What a field shows in a rectangle. -/
def fieldPieces (s : Scene) (rect : Rect) : Field → Except Fault (List Piece)
  | .number => .ok (s.numberPiece rect).toList
  | .markerIcon => .ok (s.markerPiece rect).toList
  | .folderIcon => .ok (s.folderPiece rect).toList
  | .picon => .ok (s.piconPiece rect).toList
  | .recordIcon => .ok (s.recordPiece rect).toList
  | .progress => s.progressPieces rect
  | .name => s.namePieces rect
  | .time => (s.timePiece rect).map Option.toList
  | .nowTitle => .ok (s.nowTitlePiece rect).toList
  | .nextTitle => .ok (s.nextTitlePiece rect).toList
  | .typeIcon => .ok (s.deliveryPiece rect).toList

/-- What a field shows where the look places it; nothing without a place. -/
def placedPieces (s : Scene) (field : Field) : Except Fault (List Piece) :=
  match s.look.places field with
  | some rect => s.fieldPieces rect field
  | none => .ok []

/-- What every field of a complex row shows. -/
def complexPieces (s : Scene) : Except Fault (List Piece) :=
  (Field.all.mapM s.placedPieces).map List.flatten

/-! ## Rows -/

/-- What a row shows on its background in the mode of the look. -/
def frontPieces (s : Scene) : Except Fault (List Piece) :=
  match s.look.mode with
  | .simple => .ok s.simplePieces
  | .complex => s.complexPieces

/-- The pieces of a row in the order of computation. -/
def pieces (s : Scene) : Except Fault (List Piece) :=
  s.frontPieces.map fun front => s.backgroundPieces ++ front

/-- The row. -/
def compose (s : Scene) : Except Fault Row :=
  s.pieces.map fun pieces =>
    { size := s.look.itemSize
      selected := s.selected
      elements := pieces.map Piece.element }

end Bouquet.Scene
