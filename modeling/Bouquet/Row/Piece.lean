import Bouquet.Pixmap.Scale
import Bouquet.Row.Basic

/-!
# Pieces

A piece is an element together with the part of a row that it plays. The builders here leave out
what could not be seen: an element in an empty rectangle, a text that is empty after shortening.

## Main definitions

- `Part`, `Piece`
- `Piece.block`: a shape that fills a rectangle
- `Piece.caption`: a text shortened to its rectangle
- `Piece.picture`: a pixmap in the middle of a rectangle
-/

namespace Bouquet

/-- What a piece of a row shows. An icon names the slot of the pixmap table that it comes from. -/
inductive Part where
  | backdrop
  | ground
  | number
  | name
  | time
  | nowTitle
  | nextTitle
  | progressText
  | progressBar
  | progressBorder
  | picon
  | marker
  | folder (slot : Icon)
  | recording (slot : Icon)
  | delivery (slot : Icon)
  | crypto
  deriving DecidableEq

/-- An element and its part in the row. -/
structure Piece where
  part : Part
  element : Element

namespace Piece

/-- A shape in a rectangle, unless the rectangle is empty. -/
def block (part : Part) (field : Option Field) (layer : Layer) (rect : Rect) (shape : Shape) :
    Option Piece :=
  if rect.isEmpty then none else some ⟨part, field, layer, rect, shape⟩

/-- A text shortened to the width of its rectangle, unless nothing of it is left. -/
def caption (part : Part) (field : Field) (rect : Rect) (font : Font) (text : String)
    (color : Color) (align : TextAlign) : Option Piece :=
  let shown := font.elide text rect.width
  if shown.isEmpty then none
  else block part (some field) .text rect (.text shown font color align)

/-- The rectangle of a size in the middle of an area. -/
def centered (size : Size) (area : Rect) : Rect :=
  ⟨⟨area.center.x - size.width / 2, area.center.y - size.height / 2⟩, size⟩

/-- A pixmap on the icon layer, scaled down to fit and centered in an area, unless the area is
empty. -/
def picture (part : Part) (field : Field) (area : Rect) (pixmap : Pixmap) : Option Piece :=
  if area.isEmpty then none
  else
    let scaled := pixmap.scaledToFit area.size
    block part (some field) .icon (centered scaled.size area) (.pixmap scaled)

end Piece

end Bouquet
