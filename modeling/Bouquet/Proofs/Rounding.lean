import Bouquet.Numeric.Binary32
import Mathlib.Data.Rat.Floor

/-!
# Rounding to Counts

A finite number stands for a rational one, and a count is this rational number rounded to an
integer. A NaN and what is below zero count as nothing, and there is a largest count.

## Main definitions

- `Binary32.exactValue`: the rational number that a finite number stands for
- `Binary32.IsFloor`, `Binary32.IsNearest`: rounding down and to the nearest count

## Main statements

- `Binary32.isFloor_toUnsigned`, `Binary32.isNearest_toUnsigned`: rounding, saturated at both ends
-/

namespace Bouquet.Binary32

/-- The rational number that a finite number stands for. -/
def exactValue (negative : Bool) (significand : Nat) (exponent : Int) : ℚ :=
  (if negative then -1 else 1) * (significand * 2 ^ exponent)

/-- Without its sign the number is a quotient of two natural numbers. -/
theorem significand_mul_zpow (significand : Nat) (exponent : Int) :
    (significand * 2 ^ exponent : ℚ)
      = (significand * Nat.pow 2 exponent.toNat : Nat) / (Nat.pow 2 (-exponent).toNat : Nat) := by
  rcases Int.le_total 0 exponent with h | h
  · obtain ⟨n, rfl⟩ := Int.eq_ofNat_of_zero_le h
    simp
  · obtain ⟨n, hn⟩ := Int.eq_ofNat_of_zero_le (Int.neg_nonneg.mpr h)
    obtain rfl : exponent = -n := by omega
    simp [div_eq_mul_inv]

/-! ## Rounding of rational numbers -/

/-- Rounding down gives the largest integer that is not above the number. -/
theorem apply_down (negative : Bool) (significand : Nat) (exponent : Int) :
    Rounding.down.apply negative significand exponent
      = ⌊exactValue negative significand exponent⌋ := by
  rw [exactValue, significand_mul_zpow]
  unfold Rounding.apply
  dsimp only
  generalize significand * Nat.pow 2 exponent.toNat = scaled
  have hpos : 0 < Nat.pow 2 (-exponent).toNat := Nat.pow_pos (by decide)
  generalize Nat.pow 2 (-exponent).toNat = unit at hpos ⊢
  cases negative with
  | false =>
    have hfloor := Rat.floor_natCast_div_natCast scaled unit
    simpa using hfloor.symm
  | true =>
    have hfloor := Rat.floor_intCast_div_natCast (-scaled) unit
    have hopposite : (if true = true then -1 else 1 : ℚ) * (scaled / unit)
        = ((-scaled : Int) : ℚ) / unit := by
      push_cast
      rw [if_pos rfl, neg_one_mul, neg_div]
    have hunit : (unit : Int).sign = 1 := Int.sign_eq_one_of_pos (by omega)
    rw [hopposite, hfloor, Int.neg_ediv, hunit]
    -- below zero a rest leads to the integer further away from zero
    show -((if (scaled % unit == 0) = true then scaled / unit else scaled / unit + 1 : Nat) : Int)
      = -((scaled : Int) / unit) - if (unit : Int) ∣ scaled then 0 else 1
    by_cases hrest : unit ∣ scaled
    · rw [if_pos (Int.natCast_dvd_natCast.mpr hrest),
        if_pos (beq_iff_eq.mpr (Nat.mod_eq_zero_of_dvd hrest)), Int.natCast_ediv, Int.sub_zero]
    · rw [if_neg (mt Int.natCast_dvd_natCast.mp hrest),
        if_neg (mt (fun h => Nat.dvd_of_mod_eq_zero (beq_iff_eq.mp h)) hrest), Int.natCast_add,
        Int.natCast_ediv, Int.neg_add]
      rfl

/-- A quotient with a half more goes on to the next integer when the rest is at least a half. -/
theorem div_half_up (scaled : Nat) {unit : Nat} (hpos : 0 < unit) :
    (2 * scaled + unit) / (2 * unit)
      = if unit ≤ 2 * (scaled % unit) then scaled / unit + 1 else scaled / unit := by
  have hrest := Nat.mod_lt scaled hpos
  have hparts : 2 * scaled + unit
      = 2 * unit * (scaled / unit) + (2 * (scaled % unit) + unit) := by
    conv_lhs => rw [← Nat.div_add_mod scaled unit]
    rw [Nat.mul_add, Nat.mul_assoc, Nat.add_assoc]
  have hhalf : (2 * (scaled % unit) + unit) / (2 * unit)
      = if unit ≤ 2 * (scaled % unit) then 1 else 0 := by
    split
    · exact Nat.div_eq_of_lt_le (by omega) (by omega)
    · exact Nat.div_eq_of_lt (by omega)
  rw [hparts, Nat.mul_add_div (by omega), hhalf]
  split <;> rfl

/-- Above zero, rounding to nearest is that of the rational number, a half going up. -/
theorem apply_nearest (significand : Nat) (exponent : Int) :
    Rounding.nearest.apply false significand exponent
      = round (exactValue false significand exponent) := by
  rw [exactValue, significand_mul_zpow]
  unfold Rounding.apply
  dsimp only
  generalize significand * Nat.pow 2 exponent.toNat = scaled
  have hpos : 0 < Nat.pow 2 (-exponent).toNat := Nat.pow_pos (by decide)
  generalize Nat.pow 2 (-exponent).toNat = unit at hpos ⊢
  -- a half more than the quotient is a quotient of natural numbers as well
  have hhalf : (if false = true then -1 else 1 : ℚ) * (scaled / unit) + 1 / 2
      = ((2 * scaled + unit : Nat) : ℚ) / (2 * unit : Nat) := by
    have hne : (unit : ℚ) ≠ 0 := Nat.cast_ne_zero.mpr hpos.ne'
    rw [if_neg (by decide), one_mul]
    push_cast
    field_simp
  have hround : round ((if false = true then -1 else 1 : ℚ) * (scaled / unit))
      = ((2 * scaled + unit) / (2 * unit) : Nat) := by
    rw [round_eq, hhalf, Rat.floor_natCast_div_natCast, Int.natCast_ediv]
  rw [hround, div_half_up scaled hpos, if_neg (by decide)]
  split <;> rfl

/-- Below zero nothing is rounded up to a positive number. -/
theorem apply_nearest_negative (significand : Nat) (exponent : Int) :
    Rounding.nearest.apply true significand exponent ≤ 0 ∧
      round (exactValue true significand exponent) ≤ 0 := by
  constructor
  · apply Int.neg_nonpos_of_nonneg
    dsimp only
    split
    · exact Int.add_nonneg (Int.natCast_nonneg _) (by decide)
    · exact Int.natCast_nonneg _
  · have hvalue : exactValue true significand exponent ≤ 0 := by
      rw [exactValue, if_pos rfl, neg_one_mul, neg_nonpos]
      exact mul_nonneg (Nat.cast_nonneg _) (zpow_nonneg (by decide) _)
    rw [round_eq, ← Int.lt_add_one_iff, Int.floor_lt]
    push_cast
    linarith

/-! ## Counts -/

/-- A count is a number rounded down. A NaN and what is below zero count as nothing, and there is
a largest count. -/
def IsFloor (most : Nat) (x : Float32) (count : Nat) : Prop :=
  match decode x with
  | .nan => count = 0
  | .infinite negative => count = if negative then 0 else most
  | .finite negative significand exponent =>
    (count : Int) = max 0 (min (most : Int) ⌊exactValue negative significand exponent⌋)

/-- A count is a number rounded to nearest, a half going up. A NaN and what is below zero count as
nothing, and there is a largest count. -/
def IsNearest (most : Nat) (x : Float32) (count : Nat) : Prop :=
  match decode x with
  | .nan => count = 0
  | .infinite negative => count = if negative then 0 else most
  | .finite negative significand exponent =>
    (count : Int) = max 0 (min (most : Int) (round (exactValue negative significand exponent)))

theorem most_eq (bits : Nat) : (Nat.pow 2 bits : Int) - 1 = (2 ^ bits - 1 : Nat) := by
  have hpos : 0 < 2 ^ bits := Nat.pow_pos (by decide)
  rw [Nat.pow_eq]
  omega

theorem toUnsigned_le (rounding : Rounding) (bits : Nat) (x : Float32) :
    toUnsigned rounding bits x ≤ 2 ^ bits - 1 := by
  unfold toUnsigned toRange
  rw [most_eq]
  cases decode x with
  | nan => exact Nat.zero_le _
  | infinite negative => cases negative <;> simp
  | finite negative significand exponent =>
    dsimp only
    omega

theorem isFloor_toUnsigned (bits : Nat) (x : Float32) :
    IsFloor (2 ^ bits - 1) x (toUnsigned .down bits x) := by
  unfold IsFloor toUnsigned toRange
  rw [most_eq]
  cases decode x with
  | nan => rfl
  | infinite negative => cases negative <;> rfl
  | finite negative significand exponent =>
    dsimp only
    rw [apply_down, Int.toNat_of_nonneg (Int.le_max_left _ _)]

theorem isNearest_toUnsigned (bits : Nat) (x : Float32) :
    IsNearest (2 ^ bits - 1) x (toUnsigned .nearest bits x) := by
  unfold IsNearest toUnsigned toRange
  rw [most_eq]
  cases decode x with
  | nan => rfl
  | infinite negative => cases negative <;> rfl
  | finite negative significand exponent =>
    dsimp only
    cases negative with
    | false => rw [apply_nearest, Int.toNat_of_nonneg (Int.le_max_left _ _)]
    | true =>
      -- both ways of rounding a half lead to nothing here
      obtain ⟨hthere, hhere⟩ := apply_nearest_negative significand exponent
      omega

end Bouquet.Binary32
