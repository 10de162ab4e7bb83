import Mathlib
import Bouquet.Numeric.Binary32

/-!
# Differences of binary32 numbers

Rounding keeps the sign of a difference: what is left of a finite number when no more than itself is
taken away is neither negative nor a NaN.

## Main definitions

- `NonNeg`: numbers from zero on
- `Canonical`: the form in which numbers are unpacked

## Main statements

- `zero_le_sub_minNum`: the distance to a finite bound
-/

namespace Bouquet.Binary32

open Float.Model (UnpackedFloat)
open Float.Model.UnpackedFloat (Sign packComponents decreaseExponent)

/-! ## Numbers from zero on -/

/-- Zero or more. Infinity counts, a NaN does not. -/
def NonNeg : UnpackedFloat → Prop
  | .notANumber => False
  | .infinity sign => sign = .positive
  | .zero _ => True
  | .finite sign _ _ _ => sign = .positive

theorem zero_le_iff (x : Float32) : 0 ≤ x ↔ NonNeg x.toModel.unpack := by
  -- both zeros are as large as each other, so the sign of a zero does not matter
  have hle : 0 ≤ x ↔ UnpackedFloat.le (.zero .positive) x.toModel.unpack = true := by
    change decide _ = true ↔ _
    rw [decide_eq_true_iff]
    rfl
  rw [hle]
  cases x.toModel.unpack with
  | notANumber => simp [UnpackedFloat.le, UnpackedFloat.compare, NonNeg]
  | infinity sign => cases sign <;> simp [UnpackedFloat.le, UnpackedFloat.compare, NonNeg]
  | zero sign => simp [UnpackedFloat.le, UnpackedFloat.compare, NonNeg]
  | finite sign => cases sign <;> simp [UnpackedFloat.le, UnpackedFloat.compare, NonNeg]

/-- The four kinds of packed numbers, told apart by exponent and fraction. -/
theorem unpack_packComponents_cases (sign : Sign) (exponent : BitVec 8) (mantissa : BitVec 23)
    {u : UnpackedFloat}
    (hu : UnpackedFloat.unpack .binary32 (packComponents .binary32 sign exponent mantissa) = u) :
    exponent = -1#8 ∧ mantissa = 0#23 ∧ u = .infinity sign
      ∨ exponent = -1#8 ∧ mantissa ≠ 0#23 ∧ u = .notANumber
      ∨ exponent = 0#8 ∧ mantissa = 0#23 ∧ u = .zero sign
      ∨ exponent ≠ -1#8 ∧ (exponent ≠ 0#8 ∨ mantissa ≠ 0#23)
        ∧ ∃ m e hm, u = .finite sign m e hm := by
  subst hu
  rw [UnpackedFloat.unpack]
  simp only [UnpackedFloat.unpackMantissa_packComponents,
    UnpackedFloat.unpackExponent_packComponents, UnpackedFloat.unpackSign_packComponents,
    Sign.ofBitVec_toBitVec]
  split
  · next hones =>
    split
    · next hzero => exact .inl ⟨hones, hzero, rfl⟩
    · next hzero => exact .inr (.inl ⟨hones, hzero, rfl⟩)
  · next hones =>
    split
    · next hleast =>
      split
      · next hzero => exact .inr (.inr (.inl ⟨hleast, hzero, rfl⟩))
      · next hzero =>
        have hpos : 0 < mantissa.toNat :=
          Nat.pos_of_ne_zero fun heq => hzero (BitVec.eq_of_toNat_eq heq)
        exact .inr (.inr (.inr ⟨hones, .inr hzero, _, _, hpos, rfl⟩))
    · next hleast =>
      have hpos : 0 < (1#1 ++ mantissa).toNat := by
        rw [BitVec.toNat_append, ← Nat.shiftLeft_add_eq_or_of_lt mantissa.isLt]
        exact Nat.add_pos_left (by decide) _
      exact .inr (.inr (.inr ⟨hones, .inl hleast, _, _, hpos, rfl⟩))

theorem nonNeg_unpack_packComponents {exponent : BitVec 8} {mantissa : BitVec 23}
    (h : exponent ≠ -1#8 ∨ mantissa = 0#23) :
    NonNeg (UnpackedFloat.unpack .binary32
      (packComponents .binary32 .positive exponent mantissa)) := by
  rcases unpack_packComponents_cases .positive exponent mantissa rfl with
    ⟨-, -, heq⟩ | ⟨hones, hzero, -⟩ | ⟨-, -, heq⟩ | ⟨-, -, m, e, hm, heq⟩
  · rw [heq]
    rfl
  · -- a NaN is what the hypothesis excludes
    exact absurd h (not_or.mpr ⟨not_not.mpr hones, hzero⟩)
  · rw [heq]
    trivial
  · rw [heq]
    rfl

theorem nonNeg_unpack_pack {u : UnpackedFloat} (h : NonNeg u) :
    NonNeg (UnpackedFloat.unpack .binary32 (UnpackedFloat.pack .binary32 u)) := by
  cases u with
  | notANumber => exact h.elim
  | infinity sign =>
    obtain rfl : sign = .positive := h
    exact nonNeg_unpack_packComponents (.inr rfl)
  | zero sign => simp [UnpackedFloat.pack, NonNeg]
  | finite sign mantissa exponent hmantissa =>
    obtain rfl : sign = .positive := h
    rw [UnpackedFloat.pack]
    dsimp only
    split
    · exact nonNeg_unpack_packComponents (.inr rfl)
    · next hexponent =>
      split
      · -- an exponent of ones would have been taken for infinity
        refine nonNeg_unpack_packComponents (.inl fun heq => hexponent ?_)
        have hones : (-1#8).toNat = 255 := by decide
        have hnat := congrArg BitVec.toNat heq
        rw [BitVec.toNat_ofNat, hones] at hnat
        omega
      · exact nonNeg_unpack_packComponents (.inl (by decide))

theorem nonNeg_round (mantissa : Nat) (exponent : Int) :
    NonNeg (UnpackedFloat.round .binary32 .positive mantissa exponent) := by
  -- whatever significand comes out, the sign is the one that went in
  unfold UnpackedFloat.round UnpackedFloat.roundWithAccuracy
  dsimp only
  split
  · trivial
  · rfl

theorem nonNeg_normalize {mantissa : Int} (h : 0 ≤ mantissa) (exponent : Int) :
    NonNeg (UnpackedFloat.normalize .binary32 mantissa exponent .positive) := by
  unfold UnpackedFloat.normalize
  split
  · next hlt => exact absurd h (not_le.mpr (compare_lt_iff_lt.mp hlt))
  · trivial
  · exact nonNeg_round ..

/-! ## Unpacked numbers -/

/-- The significand has 24 digits, or fewer at the least exponent. -/
def Canonical : UnpackedFloat → Prop
  | .finite _ mantissa exponent _ =>
    mantissa < 2 ^ 24 ∧ -149 ≤ exponent ∧ (2 ^ 23 ≤ mantissa ∨ exponent = -149)
  | _ => True

theorem canonical_unpack (bits : BitVec 32) : Canonical (UnpackedFloat.unpack .binary32 bits) := by
  have hbias : (Float.Model.Format.exponentBias .binary32 : Int) = 127 := by decide
  have hmantissa : (@UnpackedFloat.unpackMantissa .binary32 bits).toNat < 2 ^ 23 :=
    BitVec.isLt _
  rw [UnpackedFloat.unpack]
  dsimp only
  split
  · split <;> trivial
  · split
    · -- without an exponent there is no leading one
      next hexponent =>
      split
      · trivial
      · rw [hexponent, hbias]
        exact ⟨hmantissa.trans (by decide), by decide, .inr (by decide)⟩
    · next hexponent =>
      have hpos : 0 < (@UnpackedFloat.unpackExponent .binary32 bits).toNat :=
        Nat.pos_of_ne_zero fun hzero => hexponent (BitVec.eq_of_toNat_eq hzero)
      have hone : (1#1 ++ @UnpackedFloat.unpackMantissa .binary32 bits).toNat
          = 2 ^ 23 + (@UnpackedFloat.unpackMantissa .binary32 bits).toNat := by
        rw [BitVec.toNat_append, ← Nat.shiftLeft_add_eq_or_of_lt hmantissa]
        rfl
      rw [Canonical, hone, hbias]
      omega

/-- Brought to a common exponent, the larger of two numbers has the larger significand. -/
theorem aligned_lt {m₁ m₂ : Nat} {e₁ e₂ : Int} (h₁ : m₁ < 2 ^ 24 ∧ -149 ≤ e₁)
    (h₂ : 2 ^ 23 ≤ m₂ ∨ e₂ = -149) (h : (compare e₁ e₂).then (compare m₁ m₂) = .lt) :
    (decreaseExponent m₁ e₁ (min e₁ e₂)).1 < (decreaseExponent m₂ e₂ (min e₁ e₂)).1 := by
  simp only [decreaseExponent, Nat.shiftLeft_eq]
  rcases lt_trichotomy e₁ e₂ with hlt | rfl | hgt
  · -- the larger exponent makes up for any significand of at most 24 digits
    have hmin : min e₁ e₂ = e₁ := min_eq_left hlt.le
    have hm₂ : 2 ^ 23 ≤ m₂ := h₂.resolve_right (by omega)
    obtain ⟨k, hk⟩ : ∃ k : Nat, e₂ - e₁ = k + 1 := ⟨(e₂ - e₁ - 1).toNat, by omega⟩
    rw [hmin, Int.sub_self, hk, Int.toNat_zero, pow_zero, mul_one]
    calc m₁ < 2 ^ 23 * 2 ^ 1 := by omega
      _ ≤ m₂ * 2 ^ (k + 1) := Nat.mul_le_mul hm₂ (Nat.pow_le_pow_right (by decide) (by omega))
  · have hlt : m₁ < m₂ := by simpa [compare_lt_iff_lt] using h
    simpa using hlt
  · simp [compare_gt_iff_gt.mpr hgt] at h

theorem aligned_le {m₁ m₂ : Nat} {e₁ e₂ : Int} (h₁ : m₁ < 2 ^ 24 ∧ -149 ≤ e₁)
    (h₂ : 2 ^ 23 ≤ m₂ ∨ e₂ = -149) (h : (compare e₁ e₂).then (compare m₁ m₂) ≠ .gt) :
    (decreaseExponent m₁ e₁ (min e₁ e₂)).1 ≤ (decreaseExponent m₂ e₂ (min e₁ e₂)).1 := by
  cases hcompare : (compare e₁ e₂).then (compare m₁ m₂) with
  | lt => exact (aligned_lt h₁ h₂ hcompare).le
  | eq =>
    obtain ⟨he, hm⟩ := Ordering.then_eq_eq.mp hcompare
    obtain rfl := compare_eq_iff_eq.mp he
    obtain rfl := compare_eq_iff_eq.mp hm
    exact le_rfl
  | gt => exact absurd hcompare h

theorem aligned_sub_nonneg {s s' : Sign} {m m' : Nat} {e e' : Int} {hm : 0 < m} {hm' : 0 < m'}
    (hb : Canonical (.finite s m e hm)) (ha : Canonical (.finite s' m' e' hm'))
    (hle : UnpackedFloat.lt (.finite s m e hm) (.finite s' m' e' hm') = false) :
    0 ≤ s.apply (decreaseExponent m e (min e e')).1
      - s'.apply (decreaseExponent m' e' (min e e')).1 := by
  cases s <;> cases s' <;>
    simp only [UnpackedFloat.lt, UnpackedFloat.compare, Sign.apply] at hle ⊢
  case negative.positive => simp at hle
  case positive.negative => omega
  case positive.positive =>
    have hswap : (compare e e').then (compare m m')
        = ((compare e' e).then (compare m' m)).swap := by
      rw [Ordering.swap_then, ← Std.OrientedCmp.eq_swap, ← Std.OrientedCmp.eq_swap]
    have hgt : (compare e' e).then (compare m' m) ≠ .gt := by
      intro hgt
      simp [hswap, hgt] at hle
    have haligned := aligned_le ⟨ha.1, ha.2.1⟩ hb.2.2 hgt
    rw [min_comm] at haligned
    omega
  case negative.negative =>
    -- of two negative numbers the one with the smaller significand is the larger
    have hgt : (compare e e').then (compare m m') ≠ .gt := by
      intro hgt
      simp [hgt] at hle
    have haligned := aligned_le ⟨hb.1, hb.2.1⟩ ha.2.2 hgt
    omega

@[simp]
theorem neg_negative : -Sign.negative = Sign.positive := rfl

/-- What is left of a finite number when no more than itself is taken away. -/
theorem nonNeg_sub {a b : UnpackedFloat} (ha : Canonical a) (hb : Canonical b)
    (hfinite : b.isFinite = true) (hnumber : a.isNaN = false) (hle : b.lt a = false) :
    NonNeg (UnpackedFloat.sub .binary32 b a) := by
  cases b with
  | notANumber => simp [UnpackedFloat.isFinite] at hfinite
  | infinity sign => simp [UnpackedFloat.isFinite] at hfinite
  | zero sign =>
    cases a with
    | notANumber => simp [UnpackedFloat.isNaN] at hnumber
    | zero sign' =>
      rw [UnpackedFloat.sub]
      split <;> trivial
    | infinity sign' =>
      cases sign' <;> simp_all [UnpackedFloat.lt, UnpackedFloat.compare, UnpackedFloat.sub, NonNeg]
    | finite sign' =>
      cases sign' <;> simp_all [UnpackedFloat.lt, UnpackedFloat.compare, UnpackedFloat.sub, NonNeg]
  | finite sign =>
    cases a with
    | notANumber => simp [UnpackedFloat.isNaN] at hnumber
    | infinity sign' =>
      cases sign <;> cases sign' <;>
        simp_all [UnpackedFloat.lt, UnpackedFloat.compare, UnpackedFloat.sub, NonNeg]
    | zero sign' =>
      cases sign <;> simp_all [UnpackedFloat.lt, UnpackedFloat.compare, UnpackedFloat.sub, NonNeg]
    | finite sign' => exact nonNeg_normalize (aligned_sub_nonneg hb ha hle) _

theorem lt_iff (x y : Float32) : x < y ↔ x.toModel.unpack.lt y.toModel.unpack = true := by
  change decide _ = true ↔ _
  rw [decide_eq_true_iff]
  rfl

theorem not_lt_self (x : Float32) : ¬ x < x := by
  rw [lt_iff]
  cases x.toModel.unpack with
  | notANumber => simp [UnpackedFloat.lt, UnpackedFloat.compare]
  | infinity sign => cases sign <;> decide
  | zero sign => simp [UnpackedFloat.lt, UnpackedFloat.compare]
  | finite sign m e => cases sign <;> simp [UnpackedFloat.lt, UnpackedFloat.compare]

theorem isNaN_of_isFinite {x : Float32} (h : x.isFinite = true) : x.isNaN = false := by
  change x.toModel.unpack.isFinite = true at h
  change x.toModel.unpack.isNaN = false
  cases hx : x.toModel.unpack <;> simp_all [UnpackedFloat.isFinite, UnpackedFloat.isNaN]

/-- **The distance to a finite bound** of a number that is kept below it is never negative. -/
theorem zero_le_sub_minNum (x : Float32) {bound : Float32} (h : bound.isFinite = true) :
    0 ≤ bound - minNum x bound := by
  have hrest (y : Float32) (hnumber : y.isNaN = false) (hle : ¬ bound < y) : 0 ≤ bound - y := by
    rw [zero_le_iff]
    rw [lt_iff, Bool.not_eq_true] at hle
    exact nonNeg_unpack_pack (nonNeg_sub (canonical_unpack _) (canonical_unpack _) h hnumber hle)
  have hbound : bound.isNaN = false := isNaN_of_isFinite h
  -- the minimum is the bound itself when the number is a NaN or lies beyond it
  unfold minNum
  split
  · exact hrest bound hbound (not_lt_self bound)
  · next hx =>
    rw [if_neg (Bool.not_eq_true _ ▸ hbound)]
    split
    · exact hrest bound hbound (not_lt_self bound)
    · next hle => exact hrest x (Bool.not_eq_true _ ▸ hx) hle

end Bouquet.Binary32
