import Bouquet.Pixmap.Crop
import Bouquet.Pixmap.Scale
import Bouquet.Proofs.Outcomes
import Bouquet.Proofs.PixelData
import Bouquet.Proofs.Rounding

/-!
# Centered Windows

Cropping shows a window in the middle of a pixmap, one pixel for each of its places. The sides of
the window come out of a rounding that may give nothing at all or more than there is, and are kept
between one and the sides of the pixmap. This needs sides that are not zero, which every way to a
pixmap makes sure of. Written out once more as a program carries it out on pixels that nothing is
promised about, with every pair of bounds, difference and access checked, cropping a pixmap never
fails.

## Main definitions

- `Pixmap.ofPixels`: the pixmap of decoded pixels
- `Pixmap.Obtainable`: the pixmaps that there are
- `Picture`, `Picture.crop?`: pixels without a promise, and cropping through checked steps
- `Pixmap.AsksFor`: the sides that a ratio asks for

## Main statements

- `Pixmap.Obtainable.sides`: no side is zero
- `Pixmap.crop?_picture`: cropping does not fail
- `Pixmap.centered_window`: what cropping gives
-/

namespace Bouquet

namespace Pixmap

/-! ## Pixels of a pixmap -/

/-- Counted row by row, every place has a number of its own. -/
theorem place_lt {width height x y : Nat} (hx : x < width) (hy : y < height) :
    y * width + x < width * height :=
  calc y * width + x < y * width + width := Nat.add_lt_add_left hx _
    _ = (y + 1) * width := (Nat.succ_mul y width).symm
    _ ≤ height * width := Nat.mul_le_mul_right width hy
    _ = width * height := Nat.mul_comm height width

theorem getElem?_pixels (p : Pixmap) {x y : Nat} (hx : x < p.width) (hy : y < p.height) :
    p.pixels[y * p.width + x]? = some (p.pixel x y) := by
  have hplace : y * p.width + x < p.pixels.size := p.size_eq ▸ place_lt hx hy
  rw [pixel, Array.getElem?_eq_getElem hplace, Array.getD_eq_getD_getElem?,
    Array.getElem?_eq_getElem hplace, Option.getD_some]

theorem pixel_tabulate {width height : Nat} {width_pos : 0 < width} {height_pos : 0 < height}
    {f : Nat → Nat → Rgba} {x y : Nat} (hx : x < width) (hy : y < height) :
    (tabulate width height width_pos height_pos f).pixel x y = f x y := by
  have hplace := place_lt hx hy
  have hcolumn : (y * width + x) % width = x := by
    rw [Nat.mul_comm, Nat.mul_add_mod, Nat.mod_eq_of_lt hx]
  have hrow : (y * width + x) / width = y := by
    rw [Nat.mul_comm, Nat.mul_add_div width_pos, Nat.div_eq_of_lt hx, Nat.add_zero]
  simp only [pixel, tabulate, Array.getD_eq_getD_getElem?, Array.getElem?_ofFn, hplace, dif_pos,
    Option.getD_some, hcolumn, hrow]

/-! ## Sides -/

section Sides

variable (p : Pixmap) (ratio : Float32)

theorem sideWithin_le {limit : Nat} (h : 0 < limit) (x : Float32) : sideWithin limit x ≤ limit := by
  unfold sideWithin
  omega

/-- A window is no larger than the pixmap, and loses only columns or only rows. -/
theorem cropSize_le : (p.cropSize ratio).1 ≤ p.width ∧ (p.cropSize ratio).2 ≤ p.height ∧
    ((p.cropSize ratio).1 = p.width ∨ (p.cropSize ratio).2 = p.height) := by
  unfold cropSize
  dsimp only
  split
  · exact ⟨sideWithin_le p.width_pos _, Nat.le_refl _, .inr rfl⟩
  · exact ⟨Nat.le_refl _, sideWithin_le p.height_pos _, .inl rfl⟩

theorem crop?_eq_none_iff :
    p.crop? ratio = none ↔ ratio ≤ 0 ∨ p.cropSize ratio = (p.width, p.height) := by
  unfold crop?
  split
  · next h => simp [h]
  · next h => split <;> simp_all

theorem croppedToRatio_of_kept (h : p.crop? ratio = none) : p.croppedToRatio ratio = p := by
  rw [croppedToRatio, h, Option.getD_none]

/-- Unless the pixmap is kept, the window is cut out. -/
theorem croppedToRatio_of_cut (h : p.crop? ratio ≠ none) :
    p.croppedToRatio ratio = p.window (p.cropSize ratio).1 (p.cropSize ratio).2
      (p.cropSize_pos ratio).1 (p.cropSize_pos ratio).2 := by
  obtain ⟨hratio, hsize⟩ := not_or.mp (mt (p.crop?_eq_none_iff ratio).mpr h)
  rw [croppedToRatio, crop?, if_neg hratio, if_neg hsize, Option.getD_some]

/-- A ratio that is not refused gives the sides that it asks for, kept or cut. -/
theorem sides_croppedToRatio (hratio : ¬ ratio ≤ 0) :
    ((p.croppedToRatio ratio).width, (p.croppedToRatio ratio).height) = p.cropSize ratio := by
  by_cases h : p.crop? ratio = none
  · have hsize := ((p.crop?_eq_none_iff ratio).mp h).resolve_left hratio
    rw [p.croppedToRatio_of_kept ratio h, hsize]
  · rw [p.croppedToRatio_of_cut ratio h]
    rfl

theorem croppedToRatio_le : (p.croppedToRatio ratio).width ≤ p.width ∧
    (p.croppedToRatio ratio).height ≤ p.height ∧
    ((p.croppedToRatio ratio).width = p.width ∨ (p.croppedToRatio ratio).height = p.height) := by
  by_cases hratio : ratio ≤ 0
  · have hkept := p.croppedToRatio_of_kept ratio ((p.crop?_eq_none_iff ratio).mpr (.inl hratio))
    rw [hkept]
    exact ⟨Nat.le_refl _, Nat.le_refl _, .inl rfl⟩
  · have hsides := p.sides_croppedToRatio ratio hratio
    have hle := p.cropSize_le ratio
    rwa [← hsides] at hle

end Sides

/-! ## The pixmaps that there are -/

/-- The pixmap of decoded pixels, row by row. -/
def ofPixels (width height : Nat) (pixels : Array Rgba) (size_eq : pixels.size = width * height) :
    Except PixmapError Pixmap :=
  if h : width = 0 ∨ height = 0 then .error (.invalidDimensions width height)
  else .ok ⟨width, height, pixels, [], by omega, by omega, size_eq⟩

/-- What can be made of colors, data and files, and of that by scaling and cropping. Sides are given
in 32 bits. -/
inductive Obtainable : Pixmap → Prop where
  /-- A pixmap of one color. -/
  | solid {p : Pixmap} (width height : UInt32) (color : Color)
      (h : Pixmap.solid width.toNat height.toNat color = .ok p) : Obtainable p
  /-- A pixmap from raw data. -/
  | raw {p : Pixmap} (width height : UInt32) (data : Array UInt8)
      (h : ofBytes width.toNat height.toNat data = .ok p) : Obtainable p
  /-- A pixmap from a file, which a decoder read. -/
  | file {p : Pixmap} (width height : UInt32) (pixels : Array Rgba)
      (size_eq : pixels.size = width.toNat * height.toNat)
      (h : ofPixels width.toNat height.toNat pixels size_eq = .ok p) : Obtainable p
  /-- A pixmap scaled down. -/
  | scaled {p : Pixmap} (bounds : Size) (h : Obtainable p) : Obtainable (p.scaledToFit bounds)
  /-- A pixmap cropped. -/
  | cropped {p : Pixmap} (ratio : Float32) (h : Obtainable p) : Obtainable (p.croppedToRatio ratio)

/-- A number of pixels in 32 bits, not zero. -/
def IsSide (side : Nat) : Prop := 1 ≤ side ∧ side < 2 ^ 32

theorem isSide_scaledSide (side : Nat) (scale : Float32) : IsSide (scaledSide side scale) := by
  have hle := Binary32.toUnsigned_le .nearest 32 (Binary32.ofNat side * scale)
  unfold IsSide scaledSide
  omega

/-- A pixmap is made with the sides that were asked for, and not if one of them is zero. -/
theorem sides_of_solid {width height : Nat} {color : Color} {p : Pixmap}
    (h : Pixmap.solid width height color = .ok p) :
    (0 < width ∧ 0 < height) ∧ p.width = width ∧ p.height = height := by
  unfold Pixmap.solid at h
  split at h
  · next hpos =>
    obtain rfl := Except.ok.inj h
    exact ⟨hpos, rfl, rfl⟩
  · cases h

theorem sides_of_ofBytes {width height : Nat} {data : Array UInt8} {p : Pixmap}
    (h : ofBytes width height data = .ok p) :
    (0 < width ∧ 0 < height) ∧ p.width = width ∧ p.height = height := by
  unfold ofBytes at h
  split at h
  · next hpos =>
    split at h
    · obtain rfl := Except.ok.inj h
      exact ⟨hpos, rfl, rfl⟩
    · cases h
  · cases h

theorem sides_of_ofPixels {width height : Nat} {pixels : Array Rgba}
    {size_eq : pixels.size = width * height} {p : Pixmap}
    (h : ofPixels width height pixels size_eq = .ok p) :
    (0 < width ∧ 0 < height) ∧ p.width = width ∧ p.height = height := by
  unfold ofPixels at h
  split at h
  · cases h
  · obtain rfl := Except.ok.inj h
    exact ⟨by omega, rfl, rfl⟩

/-- **No side is zero**, and none takes more than 32 bits. -/
theorem Obtainable.sides {p : Pixmap} (h : p.Obtainable) : IsSide p.width ∧ IsSide p.height := by
  -- one case for each way to a pixmap: three refuse a side of zero, two round up to one
  have hmade {q : Pixmap} {width height : UInt32}
      (hsides : (0 < width.toNat ∧ 0 < height.toNat) ∧ q.width = width.toNat ∧
        q.height = height.toNat) : IsSide q.width ∧ IsSide q.height := by
    obtain ⟨⟨hwidth, hheight⟩, hqw, hqh⟩ := hsides
    rw [hqw, hqh]
    exact ⟨⟨hwidth, width.toNat_lt⟩, ⟨hheight, height.toNat_lt⟩⟩
  induction h with
  | solid _ _ _ h => exact hmade (sides_of_solid h)
  | raw _ _ _ h => exact hmade (sides_of_ofBytes h)
  | file _ _ _ _ h => exact hmade (sides_of_ofPixels h)
  | @scaled p bounds _ ih =>
    unfold scaledToFit scaleDown?
    split
    · exact ih
    · exact ⟨isSide_scaledSide _ _, isSide_scaledSide _ _⟩
  | @cropped p ratio _ ih =>
    obtain ⟨hwidth, hheight, -⟩ := p.croppedToRatio_le ratio
    exact ⟨⟨(p.croppedToRatio ratio).width_pos, hwidth.trans_lt ih.1.2⟩,
      ⟨(p.croppedToRatio ratio).height_pos, hheight.trans_lt ih.2.2⟩⟩

end Pixmap

/-! ## Checked steps -/

/-- Pixels in rows. Nothing is promised about the sides or the number of pixels. -/
structure Picture where
  width : Nat
  height : Nat
  pixels : Array Rgba

namespace Picture

/-- Why a step on pixels fails. -/
inductive Misstep where
  /-- Bounds are not in order. -/
  | bounds (lo hi : Nat)
  /-- A difference would be below zero. -/
  | difference (a b : Nat)
  /-- No pixel stands at a place. -/
  | pixel (x y : Nat)

/-- A number moved to the nearer of two bounds when it lies outside them. -/
def clamped (lo hi n : Nat) : Except Misstep Nat :=
  if lo ≤ hi then return max lo (min hi n) else throw (.bounds lo hi)

/-- The difference of two numbers. -/
def difference (a b : Nat) : Except Misstep Nat :=
  if b ≤ a then return a - b else throw (.difference a b)

/-- The pixel in column `x` of row `y`. -/
def pixelAt (image : Picture) (x y : Nat) : Except Misstep Rgba :=
  match if x < image.width ∧ y < image.height then image.pixels[y * image.width + x]? else none with
  | some c => return c
  | none => throw (.pixel x y)

/-- The sides of the largest window with a ratio. -/
def cropSize (image : Picture) (ratio : Float32) : Except Misstep (Nat × Nat) := do
  let width := Binary32.ofNat image.width
  let height := Binary32.ofNat image.height
  if width / height > ratio then
    let across ← clamped 1 image.width (Binary32.toUnsigned .nearest 32 (height * ratio))
    return (across, image.height)
  else
    let down ← clamped 1 image.height (Binary32.toUnsigned .nearest 32 (width / ratio))
    return (image.width, down)

/-- The window of `width` by `height` pixels that begins at column `left` of row `top`. -/
def cut (image : Picture) (left top width height : Nat) : Except Misstep Picture := do
  let pixels ← (List.range (width * height)).mapM fun i =>
    image.pixelAt (i % width + left) (i / width + top)
  return ⟨width, height, pixels.toArray⟩

/-- The window of `width` by `height` pixels in the middle, or `none` when that is all. -/
def centered? (image : Picture) (width height : Nat) : Except Misstep (Option Picture) := do
  if (width, height) = (image.width, image.height) then return none
  else
    let columns ← difference image.width width
    let rows ← difference image.height height
    return some (← image.cut (columns / 2) (rows / 2) width height)

/-- The centered window with a ratio, or `none` when the pixels are kept. -/
def crop? (image : Picture) (ratio : Float32) : Except Misstep (Option Picture) := do
  if ratio ≤ 0 then return none
  else
    let (width, height) ← image.cropSize ratio
    image.centered? width height

theorem clamped_eq {lo hi : Nat} (h : lo ≤ hi) (n : Nat) :
    clamped lo hi n = pure (max lo (min hi n)) :=
  if_pos h

theorem difference_eq {a b : Nat} (h : b ≤ a) : difference a b = pure (a - b) :=
  if_pos h

/-- A height of zero puts bounds out of order. -/
example : (⟨3, 0, #[]⟩ : Picture).cropSize (1 / 0) = .error (.bounds 1 0) := rfl

end Picture

namespace Pixmap

variable (p : Pixmap)

/-- The pixels of a pixmap without the promise. -/
def picture : Picture := ⟨p.width, p.height, p.pixels⟩

@[simp]
theorem picture_width : p.picture.width = p.width := rfl

@[simp]
theorem picture_height : p.picture.height = p.height := rfl

variable {p}

theorem pixelAt_picture {x y : Nat} (hx : x < p.width) (hy : y < p.height) :
    p.picture.pixelAt x y = pure (p.pixel x y) := by
  rw [Picture.pixelAt, picture, if_pos ⟨hx, hy⟩, p.getElem?_pixels hx hy]

theorem cropSize_picture (p : Pixmap) (ratio : Float32) :
    p.picture.cropSize ratio = pure (p.cropSize ratio) := by
  unfold Picture.cropSize cropSize picture
  dsimp only
  split
  · rw [Picture.clamped_eq p.width_pos, pure_bind]
    rfl
  · rw [Picture.clamped_eq p.height_pos, pure_bind]
    rfl

/-- Inside of the pixmap a window is cut without a misstep. -/
theorem cut_picture {left top width height : Nat} (width_pos : 0 < width) (height_pos : 0 < height)
    (hwidth : left + width ≤ p.width) (hheight : top + height ≤ p.height) :
    p.picture.cut left top width height
      = pure (tabulate width height width_pos height_pos fun x y =>
          p.pixel (x + left) (y + top)).picture := by
  have hread : ((List.range (width * height)).mapM fun i =>
        p.picture.pixelAt (i % width + left) (i / width + top))
      = pure ((List.range (width * height)).map fun i =>
          p.pixel (i % width + left) (i / width + top)) := by
    refine mapM_eq_ok.mpr ⟨_, fun i hi => pixelAt_picture ?_ ?_, rfl⟩
    · have hcolumn := Nat.mod_lt i width_pos
      omega
    · have hrow : i / width < height := Nat.div_lt_of_lt_mul (List.mem_range.mp hi)
      omega
  rw [Picture.cut, hread, pure_bind, ← toList_pixels_tabulate width_pos height_pos fun x y =>
    p.pixel (x + left) (y + top)]
  rfl

theorem centered?_picture {width height : Nat} (width_pos : 0 < width) (height_pos : 0 < height)
    (hwidth : width ≤ p.width) (hheight : height ≤ p.height) :
    p.picture.centered? width height
      = pure (if (width, height) = (p.width, p.height) then none
          else some (p.window width height width_pos height_pos).picture) := by
  rw [Picture.centered?, picture_width, picture_height]
  split
  · rfl
  · rw [Picture.difference_eq hwidth, pure_bind, Picture.difference_eq hheight, pure_bind,
      -- half of a margin and the window are not more than there is
      cut_picture width_pos height_pos (by omega) (by omega), pure_bind]
    rfl

/-- **Cropping a pixmap does not fail**, and gives the window or keeps the pixmap. -/
theorem crop?_picture (p : Pixmap) (ratio : Float32) :
    p.picture.crop? ratio = pure ((p.crop? ratio).map picture) := by
  obtain ⟨hwidth, hheight, -⟩ := p.cropSize_le ratio
  obtain ⟨width_pos, height_pos⟩ := p.cropSize_pos ratio
  unfold Picture.crop? crop?
  split
  · rfl
  · rw [cropSize_picture, pure_bind]
    refine (centered?_picture width_pos height_pos hwidth hheight).trans ?_
    split <;> rfl

/-! ## The window -/

/-- The sides that a ratio asks for. A pixmap that is too wide keeps its rows, and any other its
columns; the other side is the nearest whole number for which the ratio holds, between one and the
side of the pixmap. -/
def AsksFor (p : Pixmap) (ratio : Float32) (width height : Nat) : Prop :=
  if Binary32.ofNat p.width / Binary32.ofNat p.height > ratio then
    height = p.height ∧ ∃ columns,
      Binary32.IsNearest (2 ^ 32 - 1) (Binary32.ofNat p.height * ratio) columns ∧
        width = max 1 (min p.width columns)
  else
    width = p.width ∧ ∃ rows,
      Binary32.IsNearest (2 ^ 32 - 1) (Binary32.ofNat p.width / ratio) rows ∧
        height = max 1 (min p.height rows)

theorem asksFor_cropSize (p : Pixmap) (ratio : Float32) :
    p.AsksFor ratio (p.cropSize ratio).1 (p.cropSize ratio).2 := by
  unfold AsksFor cropSize
  dsimp only
  split
  · exact ⟨rfl, _, Binary32.isNearest_toUnsigned 32 _, rfl⟩
  · exact ⟨rfl, _, Binary32.isNearest_toUnsigned 32 _, rfl⟩

/-- A cropped pixmap, kept or cut, shows what is around its middle. -/
theorem pixel_croppedToRatio (p : Pixmap) (ratio : Float32) {x y : Nat}
    (hx : x < (p.croppedToRatio ratio).width) (hy : y < (p.croppedToRatio ratio).height) :
    (p.croppedToRatio ratio).pixel x y
      = p.pixel (x + (p.width - (p.croppedToRatio ratio).width) / 2)
          (y + (p.height - (p.croppedToRatio ratio).height) / 2) := by
  by_cases hkept : p.crop? ratio = none
  · rw [p.croppedToRatio_of_kept ratio hkept, Nat.sub_self, Nat.sub_self]
    rfl
  · rw [p.croppedToRatio_of_cut ratio hkept] at hx hy ⊢
    exact pixel_tabulate hx hy

/-- **Cropping shows a centered window.** No pixmap that there is has a side of zero. For every
ratio, be it a NaN, infinite or not positive, the window has at least one column and one row, no
more than the pixmap, and all of its columns or all of its rows; each of its pixels is the one of
the pixmap as far from the middle, where there is one. No step on the way fails: bounds are in
order, no difference is below zero and no pixel is read outside of the pixmap. The pixmap itself is
kept exactly if the ratio is not positive or the window is all of it. Any other ratio gives the
sides that it asks for. -/
theorem centered_window {p : Pixmap} (hp : p.Obtainable) (ratio : Float32) :
    let shown := p.croppedToRatio ratio
    (IsSide p.width ∧ IsSide p.height) ∧
    (1 ≤ shown.width ∧ shown.width ≤ p.width) ∧ (1 ≤ shown.height ∧ shown.height ≤ p.height) ∧
    (shown.width = p.width ∨ shown.height = p.height) ∧
    (∀ x y, x < shown.width → y < shown.height →
      (x + (p.width - shown.width) / 2 < p.width ∧
        y + (p.height - shown.height) / 2 < p.height) ∧
      shown.pixel x y
        = p.pixel (x + (p.width - shown.width) / 2) (y + (p.height - shown.height) / 2)) ∧
    p.picture.crop? ratio = .ok ((p.crop? ratio).map picture) ∧
    (p.crop? ratio = none ↔ ratio ≤ 0 ∨ shown.width = p.width ∧ shown.height = p.height) ∧
    (¬ ratio ≤ 0 → p.AsksFor ratio shown.width shown.height) := by
  intro shown
  obtain ⟨⟨hcolumns, -⟩, ⟨hrows, -⟩⟩ := (hp.cropped ratio).sides
  obtain ⟨hwidth, hheight, hone⟩ : shown.width ≤ p.width ∧ shown.height ≤ p.height ∧
      (shown.width = p.width ∨ shown.height = p.height) := p.croppedToRatio_le ratio
  refine ⟨hp.sides, ⟨hcolumns, hwidth⟩, ⟨hrows, hheight⟩, hone, fun x y hx hy => ⟨?_, ?_⟩,
    p.crop?_picture ratio, ?_, fun hratio => ?_⟩
  · -- half of a margin is left on the other side
    omega
  · exact p.pixel_croppedToRatio ratio hx hy
  · rw [crop?_eq_none_iff]
    by_cases hratio : ratio ≤ 0
    · simp [hratio]
    · rw [← p.sides_croppedToRatio ratio hratio, Prod.mk.injEq]
  · have hsides : (shown.width, shown.height) = p.cropSize ratio :=
      p.sides_croppedToRatio ratio hratio
    have hasked := p.asksFor_cropSize ratio
    rwa [← hsides] at hasked

/-- Two rows of four numbered pixels. -/
def strip : Pixmap :=
  tabulate 4 2 (by decide) (by decide) fun x y => ⟨x.toUInt8, y.toUInt8, 0, 255⟩

/-- Cropped to a square, a strip loses a column on either side; a NaN then leaves one row of it. -/
theorem centered_window_ofStrip :
    (strip.croppedToRatio 1).Obtainable ∧
      ((strip.croppedToRatio 1).croppedToRatio (0 / 0)).width = 2 ∧
      ((strip.croppedToRatio 1).croppedToRatio (0 / 0)).height = 1 ∧
      ((strip.croppedToRatio 1).croppedToRatio (0 / 0)).pixel 1 0 = strip.pixel 2 0 := by
  have hstrip : strip.Obtainable := .file 4 2 strip.pixels strip.size_eq rfl
  obtain ⟨-, -, -, -, hsquare, -⟩ := centered_window hstrip 1
  obtain ⟨-, -, -, -, hline, -⟩ := centered_window (hstrip.cropped 1) (0 / 0)
  refine ⟨hstrip.cropped 1, by decide, by decide, ?_⟩
  rw [(hline 1 0 (by decide) (by decide)).2]
  exact (hsquare 1 0 (by decide) (by decide)).2

end Pixmap

end Bouquet
