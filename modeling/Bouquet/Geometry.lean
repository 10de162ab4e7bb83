import Bouquet.Fault
import Bouquet.Numeric.Binary32

/-!
# Geometry

Points, sizes and axis-aligned rectangles in logical pixels.

## Main definitions

- `Point`, `Size`, `Rect`
- `Rect.intersect`: the overlap of two rectangles, absent when they only touch
- `Rect.deflate`, `Rect.withWidth`: resizing that never yields a negative size
- `Rect.splitLeft`, `Rect.splitRows`: cutting a rectangle in two
-/

namespace Bouquet

open Binary32 (maxNum minNum clamp)

/-- A position inside or relative to a row. -/
structure Point where
  x : Float32
  y : Float32
  deriving BEq, Inhabited

/-- Width and height of a row, a row part or a pixmap. -/
structure Size where
  width : Float32
  height : Float32
  deriving BEq, Inhabited

/-- Nothing drawn in an empty size would be visible. A NaN side is empty too. -/
def Size.isEmpty (s : Size) : Bool :=
  !(s.width > 0 && s.height > 0)

/-- A rectangle given by its top-left corner and its size. -/
structure Rect where
  origin : Point
  size : Size
  deriving BEq, Inhabited

namespace Rect

/-- The rectangle at `(x, y)` with the given sides. -/
def mk4 (x y width height : Float32) : Rect :=
  ⟨⟨x, y⟩, ⟨width, height⟩⟩

/-- The empty rectangle at the origin. -/
def zero : Rect :=
  mk4 0 0 0 0

/-- The x coordinate of the left edge. -/
def left (r : Rect) : Float32 := r.origin.x

/-- The y coordinate of the top edge. -/
def top (r : Rect) : Float32 := r.origin.y

/-- The horizontal extent. -/
def width (r : Rect) : Float32 := r.size.width

/-- The vertical extent. -/
def height (r : Rect) : Float32 := r.size.height

/-- The x coordinate of the right edge. -/
def right (r : Rect) : Float32 := r.left + r.width

/-- The y coordinate of the bottom edge. -/
def bottom (r : Rect) : Float32 := r.top + r.height

/-- The middle of the rectangle. -/
def center (r : Rect) : Point :=
  ⟨r.left + r.width * 0.5, r.top + r.height * 0.5⟩

/-- Whether the rectangle covers nothing. -/
def isEmpty (r : Rect) : Bool := r.size.isEmpty

/-- The part that both rectangles cover; `none` when they only touch or lie apart. -/
def intersect (r s : Rect) : Option Rect :=
  let x0 := maxNum r.left s.left
  let y0 := maxNum r.top s.top
  let x1 := minNum r.right s.right
  let y1 := minNum r.bottom s.bottom
  if x0 < x1 && y0 < y1 then some (mk4 x0 y0 (x1 - x0) (y1 - y0)) else none

/-- Moves every edge inward by `amount`; a negative amount grows the rectangle. -/
def deflate (r : Rect) (amount : Float32) : Rect :=
  mk4 (r.left + amount) (r.top + amount)
    (maxNum (r.width - 2 * amount) 0) (maxNum (r.height - 2 * amount) 0)

/-- The rectangle shifted by `dx` and `dy`. -/
def offset (r : Rect) (dx dy : Float32) : Rect :=
  ⟨⟨r.left + dx, r.top + dy⟩, r.size⟩

/-- The rectangle shifted by the coordinates of `p`. -/
def translate (r : Rect) (p : Point) : Rect :=
  r.offset p.x p.y

/-- The rectangle with another width, at least zero. -/
def withWidth (r : Rect) (width : Float32) : Rect :=
  mk4 r.left r.top (maxNum width 0) r.height

/-- Cuts off the left `width` pixels and drops the next `gap` pixels; the answer is the left part
and the rest. The cut is clamped to the rectangle, which therefore needs a width that is at least
zero. -/
def splitLeft (r : Rect) (width gap : Float32) : Except Fault (Rect × Rect) :=
  if 0 ≤ r.width then
    let width := clamp 0 r.width width
    let restLeft := minNum (r.left + width + gap) r.right
    .ok (r.withWidth width, mk4 restLeft r.top (r.right - restLeft) r.height)
  else .error .unsplittableWidth

/-- The upper and the lower half. -/
def splitRows (r : Rect) : Rect × Rect :=
  let half := r.height * 0.5
  (mk4 r.left r.top r.width half, mk4 r.left (r.top + half) r.width half)

end Rect

end Bouquet
