import Bouquet.Pixmap.Basic

/-!
# Cropping

Cutting a centered window of a given aspect ratio out of a pixmap.

## Main definitions

- `Pixmap.cropSize`: the sides of the window
- `Pixmap.crop?`: the window, absent when the pixmap stays as it is
- `Pixmap.croppedToRatio`: the window or the pixmap itself
-/

namespace Bouquet.Pixmap

/-- `x` rounded to a whole number of pixels between one and `limit`. -/
def sideWithin (limit : Nat) (x : Float32) : Nat :=
  max 1 (min limit (Binary32.toUnsigned .nearest 32 x))

/-- The sides of the largest window with the given ratio of width to height: a pixmap that is too
wide loses columns, any other loses rows. -/
def cropSize (p : Pixmap) (ratio : Float32) : Nat × Nat :=
  let width := Binary32.ofNat p.width
  let height := Binary32.ofNat p.height
  if width / height > ratio then (sideWithin p.width (height * ratio), p.height)
  else (p.width, sideWithin p.height (width / ratio))

/-- The window of `width` by `height` pixels in the middle; of an odd margin the smaller half is
to the left and at the top. -/
def window (p : Pixmap) (width height : Nat) (width_pos : 0 < width) (height_pos : 0 < height) :
    Pixmap :=
  let left := (p.width - width) / 2
  let top := (p.height - height) / 2
  tabulate width height width_pos height_pos fun x y => p.pixel (x + left) (y + top)

theorem sideWithin_pos (limit : Nat) (x : Float32) : 0 < sideWithin limit x := by
  unfold sideWithin
  omega

theorem cropSize_pos (p : Pixmap) (ratio : Float32) :
    0 < (p.cropSize ratio).1 ∧ 0 < (p.cropSize ratio).2 := by
  unfold cropSize
  dsimp only
  split
  · exact ⟨sideWithin_pos _ _, p.height_pos⟩
  · exact ⟨p.width_pos, sideWithin_pos _ _⟩

/-- The centered window with the given ratio, or `none` when the pixmap is kept: a ratio that is
not positive asks for nothing, and a window may be the whole pixmap. -/
def crop? (p : Pixmap) (ratio : Float32) : Option Pixmap :=
  if ratio ≤ 0 then none
  else if p.cropSize ratio = (p.width, p.height) then none
  else
    some (p.window (p.cropSize ratio).1 (p.cropSize ratio).2 (p.cropSize_pos ratio).1
      (p.cropSize_pos ratio).2)

/-- The pixmap, cut down to a centered window with the given ratio. -/
def croppedToRatio (p : Pixmap) (ratio : Float32) : Pixmap :=
  (p.crop? ratio).getD p

end Bouquet.Pixmap
