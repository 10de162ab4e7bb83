import Bouquet.Color
import Bouquet.Geometry

/-!
# Pixmaps

A pixmap is a rectangle of RGBA pixels with at least one row and one column.

## Main definitions

- `Pixmap`, `Pixmap.pixel`
- `Pixmap.tabulate`: the pixmap whose pixels a function gives
- `Pixmap.ofBytes`, `Pixmap.solid`: pixmaps from raw data and from one color
- `PixmapError`: why there is no pixmap
-/

namespace Bouquet

/-- A pixel with straight eight-bit channels. -/
structure Rgba where
  r : UInt8
  g : UInt8
  b : UInt8
  a : UInt8
  deriving DecidableEq, Inhabited

/-- Row-major pixels. The sides are positive, so the pixmap is never empty. Raw data may hold more
than the pixels take; what is behind the last of them is kept, and shows up among the bytes only. -/
structure Pixmap where
  width : Nat
  height : Nat
  pixels : Array Rgba
  surplus : List UInt8
  width_pos : 0 < width
  height_pos : 0 < height
  size_eq : pixels.size = width * height

/-- Why a pixmap could not be made. -/
inductive PixmapError where
  | invalidDimensions (width height : Nat)
  | invalidPixelData (expected actual : Nat)
  | unreadable
  deriving DecidableEq

/-- The text of a pixmap error. What is wrong with an unreadable file is left to its decoder. -/
def PixmapError.message : PixmapError → Option String
  | .invalidDimensions width height =>
    some ("invalid pixmap dimensions: " ++ toString width ++ "x" ++ toString height)
  | .invalidPixelData expected actual =>
    some ("invalid pixel data: expected " ++ toString expected ++ " bytes, got "
      ++ toString actual)
  | .unreadable => none

namespace Pixmap

/-- The pixel in column `x` of row `y`; transparent black outside the pixmap. -/
def pixel (p : Pixmap) (x y : Nat) : Rgba :=
  p.pixels.getD (y * p.width + x) default

/-- The pixmap whose pixel in column `x` of row `y` is `f x y`. -/
def tabulate (width height : Nat) (width_pos : 0 < width) (height_pos : 0 < height)
    (f : Nat → Nat → Rgba) : Pixmap :=
  { width := width
    height := height
    pixels := Array.ofFn fun i : Fin (width * height) => f (i.val % width) (i.val / width)
    surplus := []
    width_pos := width_pos
    height_pos := height_pos
    size_eq := Array.size_ofFn }

/-- The sides as lengths. -/
def size (p : Pixmap) : Size :=
  ⟨Binary32.ofNat p.width, Binary32.ofNat p.height⟩

/-- The bytes of the pixels, row by row, four a pixel. -/
def pixelBytes (p : Pixmap) : List UInt8 :=
  p.pixels.toList.flatMap fun c => [c.r, c.g, c.b, c.a]

/-- All bytes that a pixmap holds. -/
def bytes (p : Pixmap) : List UInt8 :=
  p.pixelBytes ++ p.surplus

/-- The same pixels with other bytes behind them. -/
def withSurplus (p : Pixmap) (surplus : List UInt8) : Pixmap := { p with surplus := surplus }

/-- A one-line account of a pixmap that leaves its pixels out. -/
def summary (p : Pixmap) : String :=
  "Pixmap \x7b width: " ++ toString p.width ++ ", height: " ++ toString p.height ++ " \x7d"

/-- Four bytes of `data` as a pixel, the missing ones zero. -/
def pixelAt (data : Array UInt8) (index : Nat) : Rgba :=
  ⟨data.getD (4 * index) 0, data.getD (4 * index + 1) 0, data.getD (4 * index + 2) 0,
    data.getD (4 * index + 3) 0⟩

/-- A pixmap from raw bytes, all of which it keeps. A shortage is reported with the needed count in
64-bit arithmetic. -/
def ofBytes (width height : Nat) (data : Array UInt8) : Except PixmapError Pixmap :=
  if h : 0 < width ∧ 0 < height then
    if width * height * 4 ≤ data.size then
      .ok ((tabulate width height h.1 h.2 fun x y => pixelAt data (y * width + x)).withSurplus
        (data.toList.drop (width * height * 4)))
    else .error (.invalidPixelData (width * height * 4 % 0x10000000000000000) data.size)
  else .error (.invalidDimensions width height)

/-- A color component as an eight-bit channel. -/
def channel (component : Float32) : UInt8 :=
  (Binary32.toUnsigned .nearest 8 (Binary32.clamp 0 1 component * 255)).toUInt8

/-- A pixmap of one color. -/
def solid (width height : Nat) (color : Color) : Except PixmapError Pixmap :=
  if h : 0 < width ∧ 0 < height then
    let pixel : Rgba := ⟨channel color.r, channel color.g, channel color.b, channel color.a⟩
    .ok (tabulate width height h.1 h.2 fun _ _ => pixel)
  else .error (.invalidDimensions width height)

end Pixmap

end Bouquet
