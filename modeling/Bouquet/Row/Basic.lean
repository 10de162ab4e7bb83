import Bouquet.Canvas
import Bouquet.Look.Kind

/-!
# Rows

A row is a flat list of elements, each with the layer that it is painted on. Geometry is relative
to the top-left corner of the row.

## Main definitions

- `Layer`, `Element`, `Row`
- `Row.elementsOf`, `Row.textOf`, `Row.texts`: what a row shows
- `Row.zOrdered`: the elements from back to front
- `Canvas.paintRow`: a row drawn on a canvas
-/

namespace Bouquet

/-! ## Elements -/

/-- A layer of a row. -/
inductive Layer where
  | background
  | icon
  | text
  | progress
  | border
  deriving DecidableEq, Inhabited

/-- All layers from back to front. -/
def Layer.all : List Layer := [.background, .icon, .text, .progress, .border]

/-- The name of a layer. -/
def Layer.label : Layer → String
  | .background => "Background"
  | .icon => "Icon"
  | .text => "Text"
  | .progress => "Progress"
  | .border => "Border"

/-- The place of a layer from back to front. -/
def Layer.rank (layer : Layer) : Nat := Layer.all.idxOf layer

/-- One drawable piece of a row. The background of the row belongs to no field. -/
structure Element where
  field : Option Field
  layer : Layer
  rect : Rect
  shape : Shape

namespace Element

/-- The text that the element draws, if any. -/
def text? (e : Element) : Option String := e.shape.text?

/-- The color that the element draws in, if it has one. -/
def color? (e : Element) : Option Color := e.shape.color?

/-- The draw call of the element in a row whose corner is at `offset`. -/
def callAt (e : Element) (offset : Point) : DrawCall :=
  ⟨e.rect.translate offset, e.shape⟩

end Element

/-! ## Rows -/

/-- Everything that it takes to paint one row, with the elements in the order of computation. -/
structure Row where
  size : Size
  selected : Bool
  elements : List Element

namespace Row

/-- The elements of a field. -/
def elementsOf (r : Row) (field : Field) : List Element :=
  r.elements.filter fun e => e.field == some field

/-- The first text of a field. -/
def textOf (r : Row) (field : Field) : Option String :=
  (r.elementsOf field).findSome? Element.text?

/-- Every text in the order of computation. -/
def texts (r : Row) : List String :=
  r.elements.filterMap Element.text?

/-- The elements from back to front; those of one layer keep their order. -/
def zOrdered (r : Row) : List Element :=
  r.elements.mergeSort fun a b => a.layer.rank ≤ b.layer.rank

/-- The rectangle that the row covers when its corner is at `offset`. -/
def boundsAt (r : Row) (offset : Point) : Rect := ⟨offset, r.size⟩

end Row

/-! ## Painting -/

/-- Draws a row with its corner at `offset`, from back to front and clipped to the row. -/
def Canvas.paintRow (c : Canvas) (row : Row) (offset : Point) : Canvas :=
  let clipped := c.save.clipTo (row.boundsAt offset)
  ((row.zOrdered.map fun e => e.callAt offset).foldl Canvas.draw clipped).restore

end Bouquet
