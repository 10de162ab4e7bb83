import Bouquet.Pixmap.Basic

/-!
# Scaling down

Resampling with a triangle filter: every target pixel is a weighted mean of the source pixels
under a triangle around its center, columns first and rows second. The channels are independent,
and the value between the two passes stays unrounded.

## Main definitions

- `Taps`, `taps`: which source pixels a target pixel takes, and how much of each
- `Pixmap.resampled`: a pixmap with other sides
- `Pixmap.scaleDown?`: the pixmap scaled to fit, absent when it fits already
- `Pixmap.scaledToFit`: the scaled pixmap or the pixmap itself
-/

namespace Bouquet.Pixmap

open Binary32 (maxNum minNum toRange)

/-! ## The filter -/

/-- The source pixels of one target pixel: the first one, and the weight of it and those after. -/
structure Taps where
  first : Nat
  weights : List Float32

/-- The height of the triangle over `x`. -/
def triangle (x : Float32) : Float32 :=
  if x.abs < 1 then 1 - x.abs else 0

/-- The taps of target pixel `index` when `source` pixels become `target` ones. The triangle is as
wide as one target pixel, and at least as wide as one source pixel; the weights add up to one. -/
def taps (source target index : Nat) : Taps :=
  let ratio := Binary32.ofNat source / Binary32.ofNat target
  let support := maxNum ratio 1
  let center := (Binary32.ofNat index + 0.5) * ratio
  let bound : Int := 0x8000000000000000
  let first := max 0 (min ((source : Int) - 1) (toRange .down (-bound) (bound - 1) (center - support)))
  let stop := max (first + 1) (min source (toRange .up (-bound) (bound - 1) (center + support)))
  let middle := center - 0.5
  let raw := (List.range (stop - first).toNat).map fun k =>
    triangle ((Binary32.ofNat (first.toNat + k) - middle) / support)
  let sum := raw.foldl (· + ·) 0
  { first := first.toNat, weights := raw.map (· / sum) }

/-! ## The two passes -/

/-- Four channels between the passes. -/
structure Sample where
  r : Float32
  g : Float32
  b : Float32
  a : Float32
  deriving Inhabited

/-- An eight-bit pixel as a sample. -/
def Sample.ofRgba (c : Rgba) : Sample :=
  ⟨Binary32.ofNat c.r.toNat, Binary32.ofNat c.g.toNat, Binary32.ofNat c.b.toNat,
    Binary32.ofNat c.a.toNat⟩

/-- A channel rounded to eight bits. -/
def Sample.round (x : Float32) : UInt8 :=
  (Binary32.toUnsigned .nearest 8 (Binary32.clamp 0 255 x)).toUInt8

/-- A sample rounded to an eight-bit pixel. -/
def Sample.toRgba (s : Sample) : Rgba :=
  ⟨Sample.round s.r, Sample.round s.g, Sample.round s.b, Sample.round s.a⟩

/-- The sum so far with one weighted sample more. -/
def Sample.addWeighted (sum : Sample) (weight : Float32) (s : Sample) : Sample :=
  ⟨sum.r + s.r * weight, sum.g + s.g * weight, sum.b + s.b * weight, sum.a + s.a * weight⟩

/-- The weighted sum that the taps take from a line of samples. -/
def Taps.gather (t : Taps) (line : Nat → Sample) : Sample :=
  (t.weights.zipIdx t.first).foldl (fun sum (weight, i) => sum.addWeighted weight (line i))
    ⟨0, 0, 0, 0⟩

/-- The pixmap with other sides. -/
def resampled (p : Pixmap) (width height : Nat) (width_pos : 0 < width) (height_pos : 0 < height) :
    Pixmap :=
  let rowTaps := Array.ofFn fun y : Fin height => taps p.height height y.val
  let columnTaps := Array.ofFn fun x : Fin width => taps p.width width x.val
  let tall : Array Sample := p.pixels.map Sample.ofRgba
  let short : Array Sample := Array.ofFn fun i : Fin (p.width * height) =>
    (rowTaps.getD (i.val / p.width) ⟨0, []⟩).gather fun y =>
      tall.getD (y * p.width + i.val % p.width) default
  tabulate width height width_pos height_pos fun x y =>
    ((columnTaps.getD x ⟨0, []⟩).gather fun x => short.getD (y * p.width + x) default).toRgba

/-! ## Fitting into bounds -/

/-- A bound as a whole number of pixels, at least one. -/
def wholePixels (bound : Float32) : Nat :=
  Binary32.toUnsigned .down 32 (maxNum bound 1)

/-- Whether the pixmap fits into the bounds. -/
def fits (p : Pixmap) (bounds : Size) : Bool :=
  p.width ≤ wholePixels bounds.width && p.height ≤ wholePixels bounds.height

/-- A side scaled and rounded, at least one pixel. -/
def scaledSide (side : Nat) (scale : Float32) : Nat :=
  max 1 (Binary32.toUnsigned .nearest 32 (Binary32.ofNat side * scale))

theorem scaledSide_pos (side : Nat) (scale : Float32) : 0 < scaledSide side scale := by
  unfold scaledSide
  omega

/-- The factor that makes the pixmap fit into the bounds with its aspect ratio kept. -/
def fitScale (p : Pixmap) (bounds : Size) : Float32 :=
  minNum (Binary32.ofNat (wholePixels bounds.width) / Binary32.ofNat p.width)
    (Binary32.ofNat (wholePixels bounds.height) / Binary32.ofNat p.height)

/-- The pixmap scaled down to fit into the bounds, or `none` when it fits as it is. -/
def scaleDown? (p : Pixmap) (bounds : Size) : Option Pixmap :=
  if p.fits bounds then none
  else
    let scale := p.fitScale bounds
    some (p.resampled (scaledSide p.width scale) (scaledSide p.height scale)
      (scaledSide_pos _ _) (scaledSide_pos _ _))

/-- The pixmap, scaled down where it does not fit into the bounds. It is never scaled up. -/
def scaledToFit (p : Pixmap) (bounds : Size) : Pixmap :=
  (p.scaleDown? bounds).getD p

end Bouquet.Pixmap
