import Bouquet.Pixmap.Basic
import Mathlib.Algebra.Group.Nat.Defs

/-!
# Pixels from Raw Data

A pixmap takes four bytes of raw data for each of its pixels, row by row. Data that are too short
for the sides are refused with the number of bytes that was needed, as far as it can be told in 64
bits. Data that are too long are taken as well, and what is behind the last pixel is kept with it.

## Main definitions

- `Pixmap.bytesNeeded`: the bytes that a pixmap of given sides takes
- `Pixmap.JudgedByFit`: raw data are accepted exactly if they fit

## Main statements

- `Pixmap.bytes_ofBytes`: a pixmap holds the data that it was made of
- `Pixmap.fitting_data_accepted_iff`: when raw data are accepted exactly if they fit
-/

namespace Bouquet.Pixmap

/-! ## The bytes of a pixmap -/

/-- Four bytes for each pixel. -/
def bytesNeeded (width height : Nat) : Nat := 4 * width * height

/-- The four bytes of a pixel. -/
def bytesOf (c : Rgba) : List UInt8 := [c.r, c.g, c.b, c.a]

/-- The pixels that are taken from data, one after the other, have its bytes in their order. -/
theorem flatMap_pixelAt {data : Array UInt8} {count : Nat} (h : 4 * count ≤ data.size) :
    (List.range count).flatMap (fun index => bytesOf (pixelAt data index))
      = data.toList.take (4 * count) := by
  induction count with
  | zero => simp
  | succ count ih =>
    have hbyte (k : Nat) (hk : k < 4) :
        data.toList[4 * count + k]? = some (data.getD (4 * count + k) 0) := by
      rw [Array.getElem?_toList, Array.getD_eq_getD_getElem?,
        Array.getElem?_eq_getElem (by omega), Option.getD_some]
    -- the last pixel takes the four bytes behind those of the others
    have hlast : (data.toList.drop (4 * count)).take 4 = bytesOf (pixelAt data count) := by
      apply List.ext_getElem?
      intro k
      rw [List.getElem?_take, List.getElem?_drop]
      -- one byte for each channel
      match k with
      | 0 => exact hbyte 0 (by decide)
      | 1 => exact hbyte 1 (by decide)
      | 2 => exact hbyte 2 (by decide)
      | 3 => exact hbyte 3 (by decide)
      | k + 4 => rw [if_neg (by omega)]; rfl
    rw [List.range_succ, List.flatMap_append, ih (by omega), List.flatMap_singleton, ← hlast,
      ← List.take_add, Nat.mul_add_one]

/-- The pixels of a function, counted row by row. -/
theorem toList_pixels_tabulate {width height : Nat} (width_pos : 0 < width)
    (height_pos : 0 < height) (f : Nat → Nat → Rgba) :
    (tabulate width height width_pos height_pos f).pixels.toList
      = (List.range (width * height)).map fun i => f (i % width) (i / width) := by
  apply List.ext_getElem
  · simp [tabulate]
  · simp [tabulate]

theorem pixelBytes_tabulate {width height : Nat} (width_pos : 0 < width) (height_pos : 0 < height)
    (f : Nat → Nat → Rgba) :
    (tabulate width height width_pos height_pos f).pixelBytes
      = (List.range (width * height)).flatMap fun i => bytesOf (f (i % width) (i / width)) := by
  rw [pixelBytes, toList_pixels_tabulate, List.flatMap_map]
  rfl

theorem bytes_withSurplus (p : Pixmap) (surplus : List UInt8) :
    (p.withSurplus surplus).bytes = p.pixelBytes ++ surplus := rfl

/-! ## What raw data make -/

variable {width height : Nat} {data : Array UInt8}

theorem ofBytes_of_zero (h : width = 0 ∨ height = 0) :
    ofBytes width height data = .error (.invalidDimensions width height) := by
  rw [ofBytes, dif_neg (by omega)]

/-- The pixels that are read off data, row by row, take the first of them. -/
theorem pixelBytes_of_data (hwidth : 0 < width) (hheight : 0 < height)
    (h : bytesNeeded width height ≤ data.size) :
    (tabulate width height hwidth hheight fun x y => pixelAt data (y * width + x)).pixelBytes
      = data.toList.take (bytesNeeded width height) := by
  have hneeded : bytesNeeded width height = 4 * (width * height) := Nat.mul_assoc 4 width height
  rw [pixelBytes_tabulate, hneeded, ← flatMap_pixelAt (by omega)]
  -- counted row by row, the pixels have the places that they are counted by
  congr 1
  funext i
  rw [Nat.div_add_mod']

/-- Enough data make a pixmap with the given sides. Its pixels take the first of them, and it holds
them all. -/
theorem bytes_ofBytes (hwidth : 0 < width) (hheight : 0 < height)
    (h : bytesNeeded width height ≤ data.size) :
    ∃ p, ofBytes width height data = .ok p ∧ p.width = width ∧ p.height = height ∧
      p.pixelBytes = data.toList.take (bytesNeeded width height) ∧ p.bytes = data.toList := by
  have hneeded : bytesNeeded width height = width * height * 4 := by
    rw [bytesNeeded, Nat.mul_assoc, Nat.mul_comm]
  have hpixels := pixelBytes_of_data hwidth hheight h
  have hmade : ofBytes width height data
      = .ok ((tabulate width height hwidth hheight fun x y =>
          pixelAt data (y * width + x)).withSurplus (data.toList.drop (width * height * 4))) := by
    rw [ofBytes, dif_pos ⟨hwidth, hheight⟩, if_pos (hneeded ▸ h)]
  refine ⟨_, hmade, rfl, rfl, hpixels, ?_⟩
  -- what the pixels leave over is the rest of the data
  rw [bytes_withSurplus, hpixels, ← hneeded, List.take_append_drop]

theorem ofBytes_of_short (hwidth : 0 < width) (hheight : 0 < height)
    (h : data.size < bytesNeeded width height) :
    ofBytes width height data
      = .error (.invalidPixelData (bytesNeeded width height % 2 ^ 64) data.size) := by
  have hneeded : bytesNeeded width height = width * height * 4 := by
    rw [bytesNeeded, Nat.mul_assoc, Nat.mul_comm]
  rw [ofBytes, dif_pos ⟨hwidth, hheight⟩, if_neg (by omega), hneeded]
  rfl

/-! ## Data that fit -/

/-- Raw data are accepted exactly if they fit. A side of zero is refused first. Then data are
refused that do not have the size that the sides need, and told with both sizes. All others make a
pixmap of these sides and bytes. -/
def JudgedByFit (width height : Nat) (data : Array UInt8) : Prop :=
  if width = 0 ∨ height = 0 then
    ofBytes width height data = .error (.invalidDimensions width height)
  else if data.size = bytesNeeded width height then
    ∃ p, ofBytes width height data = .ok p ∧ p.width = width ∧ p.height = height ∧
      p.bytes = data.toList
  else
    ofBytes width height data = .error (.invalidPixelData (bytesNeeded width height) data.size)

theorem judgedByFit_iff (hwidth : 0 < width) (hheight : 0 < height) :
    JudgedByFit width height data ↔
      data.size = bytesNeeded width height ∨
        data.size < bytesNeeded width height ∧ bytesNeeded width height < 2 ^ 64 := by
  rw [JudgedByFit, if_neg (by omega)]
  rcases Nat.lt_trichotomy data.size (bytesNeeded width height) with hshort | hfit | hlong
  · -- the error tells the size that was needed, unless it takes more than 64 bits
    rw [if_neg (Nat.ne_of_lt hshort), ofBytes_of_short hwidth hheight hshort]
    simp only [Except.error.injEq, PixmapError.invalidPixelData.injEq, and_true,
      Nat.ne_of_lt hshort, hshort, true_and, false_or]
    rw [Nat.mod_eq_iff_lt (by decide)]
  · obtain ⟨p, hmade, hpw, hph, -, hbytes⟩ :=
      bytes_ofBytes hwidth hheight (Nat.le_of_eq hfit.symm)
    rw [if_pos hfit]
    exact iff_of_true ⟨p, hmade, hpw, hph, hbytes⟩ (.inl hfit)
  · obtain ⟨p, hmade, -⟩ := bytes_ofBytes hwidth hheight (Nat.le_of_lt hlong)
    rw [if_neg (Nat.ne_of_gt hlong), hmade]
    exact iff_of_false (by simp) (by omega)

/-- **Raw data are accepted exactly if they fit**, for all sides of 32 bits, as long as they are
not too long, and the size that too short ones would have needed is below 2 ^ 64. Data that are too
long make a pixmap whose pixels take their first bytes, and which holds the others as well. Data
that are too short are refused in any case, with the size that was needed reduced to 64 bits. -/
theorem fitting_data_accepted_iff (width height : UInt32) (data : Array UInt8) :
    let needed := bytesNeeded width.toNat height.toNat
    let made := ofBytes width.toNat height.toNat data
    (JudgedByFit width.toNat height.toNat data ↔
      (width = 0 ∨ height = 0) ∨ data.size = needed ∨ data.size < needed ∧ needed < 2 ^ 64) ∧
    (width ≠ 0 → height ≠ 0 →
      (needed ≤ data.size → ∃ p, made = .ok p ∧ p.width = width.toNat ∧
        p.height = height.toNat ∧ p.pixelBytes = data.toList.take needed ∧
        p.bytes = data.toList) ∧
      (data.size < needed → made = .error (.invalidPixelData (needed % 2 ^ 64) data.size))) := by
  intro needed made
  have hpos (side : UInt32) : side ≠ 0 → 0 < side.toNat :=
    fun hside => Nat.pos_of_ne_zero fun hzero => hside (UInt32.toNat_inj.mp hzero)
  refine ⟨?_, fun hwidth hheight => ⟨bytes_ofBytes (hpos width hwidth) (hpos height hheight),
    ofBytes_of_short (hpos width hwidth) (hpos height hheight)⟩⟩
  by_cases hzero : width = 0 ∨ height = 0
  · have hsides : width.toNat = 0 ∨ height.toNat = 0 :=
      hzero.imp (congrArg UInt32.toNat) (congrArg UInt32.toNat)
    rw [JudgedByFit, if_pos hsides]
    exact iff_of_true (ofBytes_of_zero hsides) (.inl hzero)
  · obtain ⟨hwidth, hheight⟩ := not_or.mp hzero
    rw [or_iff_right hzero]
    exact judgedByFit_iff (hpos width hwidth) (hpos height hheight)

/-- One byte too many for a single pixel is accepted, and of sides of 2 ^ 31 the error says that
they need no bytes. -/
theorem surplus_accepted_overflow_told :
    ¬ JudgedByFit 1 1 #[0, 0, 0, 0, 0] ∧ ¬ JudgedByFit (2 ^ 31) (2 ^ 31) #[0] := by
  rw [judgedByFit_iff (by decide) (by decide), judgedByFit_iff (by decide) (by decide)]
  decide

end Bouquet.Pixmap
