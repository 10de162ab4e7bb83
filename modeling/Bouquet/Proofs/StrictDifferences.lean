import Bouquet.Proofs.Differences

/-!
# Strict differences of binary32 numbers

Rounding never makes a difference vanish: the least exponent has room for the difference of any two
numbers, so that it is positive exactly when the one is larger than the other.

## Main definitions

- `Positive`: numbers above zero

## Main statements

- `round_canonical`: rounding yields numbers in canonical form
- `sub_pos_iff`: a difference is positive when the first number is larger
-/

namespace Bouquet.Binary32

open Float.Model (UnpackedFloat totalExponent)
open Float.Model.UnpackedFloat (Sign ExtendedMantissa packComponents decreaseExponent)

/-! ## Numbers above zero -/

/-- More than zero. Infinity counts, a NaN does not. -/
def Positive : UnpackedFloat → Prop
  | .infinity sign => sign = .positive
  | .finite sign _ _ _ => sign = .positive
  | .notANumber | .zero _ => False

theorem zero_lt_iff (x : Float32) : 0 < x ↔ Positive x.toModel.unpack := by
  have hlt : 0 < x ↔ UnpackedFloat.lt (.zero .positive) x.toModel.unpack = true := by
    change decide _ = true ↔ _
    rw [decide_eq_true_iff]
    rfl
  rw [hlt]
  cases x.toModel.unpack with
  | notANumber => simp [UnpackedFloat.lt, UnpackedFloat.compare, Positive]
  | infinity sign => cases sign <;> simp [UnpackedFloat.lt, UnpackedFloat.compare, Positive]
  | zero sign => simp [UnpackedFloat.lt, UnpackedFloat.compare, Positive]
  | finite sign => cases sign <;> simp [UnpackedFloat.lt, UnpackedFloat.compare, Positive]

/-! ## Rounding -/

theorem mantissa_shiftRight (em : ExtendedMantissa) (n : Nat) :
    (em >>> n).mantissa = em.mantissa / 2 ^ n := by
  change (Nat.repeat ExtendedMantissa.shiftRightOne n em).mantissa = _
  induction n with
  | zero => simp [Nat.repeat]
  | succ n ih =>
    rw [Nat.repeat, ExtendedMantissa.shiftRightOne, ih, Nat.div_div_eq_div_mul, Nat.pow_succ]

theorem roundedMantissa_bounds (em : ExtendedMantissa) :
    em.mantissa ≤ em.roundedMantissa ∧ em.roundedMantissa ≤ em.mantissa + 1 := by
  obtain ⟨mantissa, roundBit, stickyBit⟩ := em
  cases roundBit <;> cases stickyBit <;>
    simp only [ExtendedMantissa.roundedMantissa, ExtendedMantissa.accuracy,
      UnpackedFloat.Accuracy.roundToNearestEven] <;> omega

/-- The exponent of the last digit that is kept of a number with 24 digits, or of the least
digit that there is. -/
def lastPlace (m : Nat) (e : Int) : Int := max (m.log2 + 1 + e - 24) (-149)

theorem targetExponent_eq (m : Nat) (e : Int) :
    Float.Model.Format.targetExponent .binary32 (totalExponent m e) = lastPlace m e := rfl

theorem shiftToTargetExponent_mantissa (m : Nat) (e : Int) :
    (UnpackedFloat.shiftToTargetExponent .binary32 m e .exact).1.mantissa
      = m / 2 ^ (lastPlace m e - e).toNat :=
  mantissa_shiftRight _ _

theorem shiftToTargetExponent_exponent (m : Nat) (e : Int) :
    (UnpackedFloat.shiftToTargetExponent .binary32 m e .exact).2
      = e + (lastPlace m e - e).toNat := rfl

/-- What is kept of a number has 24 digits, or fewer at the least exponent. -/
theorem kept_bounds {m : Nat} {e : Int} (hm : 0 < m) (he : -149 ≤ e) (hplace : e ≤ lastPlace m e) :
    0 < m / 2 ^ (lastPlace m e - e).toNat ∧ m / 2 ^ (lastPlace m e - e).toNat < 2 ^ 24
      ∧ (2 ^ 23 ≤ m / 2 ^ (lastPlace m e - e).toNat ∨ lastPlace m e = -149) := by
  obtain ⟨k, hk⟩ : ∃ k : Nat, lastPlace m e = e + k :=
    ⟨(lastPlace m e - e).toNat, by omega⟩
  rw [hk, add_sub_cancel_left, Int.toNat_natCast]
  have hpow : 0 < 2 ^ k := Nat.two_pow_pos k
  have hlog : m.log2 + 1 ≤ 24 + k := by
    unfold lastPlace at hk
    omega
  have hlt : m / 2 ^ k < 2 ^ 24 := by
    rw [Nat.div_lt_iff_lt_mul hpow, ← Nat.pow_add]
    exact Nat.lt_log2_self.trans_le (Nat.pow_le_pow_right (by decide) hlog)
  by_cases hleast : lastPlace m e = -149
  · -- there are no digits below the least exponent
    obtain rfl : k = 0 := by omega
    exact ⟨by simpa using hm, hlt, .inr (by omega)⟩
  · have hlog : m.log2 = 23 + k := by
      unfold lastPlace at hk hleast
      omega
    have hle : 2 ^ 23 ≤ m / 2 ^ k := by
      rw [Nat.le_div_iff_mul_le hpow, ← Nat.pow_add, ← hlog]
      exact Nat.log2_self_le hm.ne'
    exact ⟨by omega, hlt, .inl hle⟩

/-- A carry into a digit of its own moves the exponent. -/
theorem carried_bounds {m : Nat} {e : Int} (hm : 0 < m) (hle : m ≤ 2 ^ 24) (he : -149 ≤ e)
    (hleast : 2 ^ 23 ≤ m ∨ e = -149) :
    0 < m / 2 ^ (lastPlace m e - e).toNat ∧ m / 2 ^ (lastPlace m e - e).toNat < 2 ^ 24
      ∧ -149 ≤ e + (lastPlace m e - e).toNat
      ∧ (2 ^ 23 ≤ m / 2 ^ (lastPlace m e - e).toNat ∨ e + (lastPlace m e - e).toNat = -149) := by
  rcases hle.lt_or_eq with hlt | rfl
  · have hlog : m.log2 < 24 := (Nat.log2_lt hm.ne').mpr hlt
    have hzero : (lastPlace m e - e).toNat = 0 := by
      unfold lastPlace
      omega
    rw [hzero, pow_zero, Nat.div_one]
    exact ⟨hm, hlt, by omega, hleast.imp id (by omega)⟩
  · have hone : (lastPlace (2 ^ 24) e - e).toNat = 1 := by
      unfold lastPlace
      rw [Nat.log2_two_pow]
      omega
    rw [hone]
    exact ⟨by decide, by decide, by omega, .inl (by decide)⟩

/-- A number of a sign in canonical form. -/
def CanonicalOf (sign : Sign) (u : UnpackedFloat) : Prop :=
  ∃ m e hm, u = .finite sign m e hm ∧ Canonical u

theorem roundWithAccuracy_canonical (sign : Sign) {m : Nat} {e : Int} (hm : 0 < m) (he : -149 ≤ e)
    (hplace : e ≤ lastPlace m e) :
    CanonicalOf sign (UnpackedFloat.roundWithAccuracy .binary32 sign m e .exact) := by
  obtain ⟨hpos, hlt, hleast⟩ := kept_bounds hm he hplace
  rw [← shiftToTargetExponent_mantissa] at hpos hlt hleast
  have hexponent :
      (UnpackedFloat.shiftToTargetExponent .binary32 m e .exact).2 = lastPlace m e := by
    rw [shiftToTargetExponent_exponent]
    omega
  unfold UnpackedFloat.roundWithAccuracy
  generalize UnpackedFloat.shiftToTargetExponent .binary32 m e .exact = shifted at *
  obtain ⟨em, place⟩ := shifted
  dsimp only at hpos hlt hleast hexponent ⊢
  -- rounding adds at most one to what was kept
  obtain ⟨hlow, hhigh⟩ := roundedMantissa_bounds em
  have hnormal : 2 ^ 23 ≤ em.roundedMantissa ∨ place = -149 :=
    hleast.imp hlow.trans' hexponent.trans
  obtain ⟨hpos, hlt, hplace, hleast⟩ := carried_bounds (hpos.trans_le hlow) (by omega)
    (by rw [hexponent]; exact le_max_right _ _) hnormal
  rw [← shiftToTargetExponent_mantissa] at hpos hlt hleast
  rw [dif_neg hpos.ne']
  exact ⟨_, _, _, rfl, hlt, hplace, hleast⟩

theorem log2_shiftLeft {m : Nat} (hm : 0 < m) (k : Nat) : (m <<< k).log2 = m.log2 + k := by
  have hpow : 0 < 2 ^ k := Nat.two_pow_pos k
  rw [Nat.shiftLeft_eq, Nat.log2_eq_iff (Nat.mul_pos hm hpow).ne', Nat.pow_add]
  constructor
  · exact Nat.mul_le_mul_right _ (Nat.log2_self_le hm.ne')
  · rw [Nat.add_right_comm, Nat.pow_add]
    exact Nat.mul_lt_mul_of_pos_right Nat.lt_log2_self hpow

/-- **Rounding** a number that does not vanish yields one that does not. -/
theorem round_canonical (sign : Sign) {m : Nat} {e : Int} (hm : 0 < m) (he : -149 ≤ e) :
    CanonicalOf sign (UnpackedFloat.round .binary32 sign m e) := by
  unfold UnpackedFloat.round
  rw [targetExponent_eq]
  unfold decreaseExponent
  dsimp only
  have hlog := log2_shiftLeft hm (e - lastPlace m e).toNat
  apply roundWithAccuracy_canonical
  · rw [Nat.shiftLeft_eq]
    exact Nat.mul_pos hm (Nat.two_pow_pos _)
  · have hplace : -149 ≤ lastPlace m e := le_max_right _ _
    omega
  · -- the digits only change their names
    unfold lastPlace at hlog ⊢
    omega

/-! ## Packing -/

theorem positive_unpack_packComponents {exponent : BitVec 8} {mantissa : BitVec 23}
    (hnumber : exponent ≠ -1#8 ∨ mantissa = 0#23) (hpos : exponent ≠ 0#8 ∨ mantissa ≠ 0#23) :
    Positive (UnpackedFloat.unpack .binary32
      (packComponents .binary32 .positive exponent mantissa)) := by
  rcases unpack_packComponents_cases .positive exponent mantissa rfl with
    ⟨-, -, heq⟩ | ⟨hones, hzero, -⟩ | ⟨hleast, hzero, -⟩ | ⟨-, -, m, e, hm, heq⟩
  · rw [heq]
    rfl
  · exact absurd hnumber (not_or.mpr ⟨not_not.mpr hones, hzero⟩)
  · exact absurd hpos (not_or.mpr ⟨not_not.mpr hleast, not_not.mpr hzero⟩)
  · rw [heq]
    rfl

theorem positive_unpack_pack_finite {m : Nat} {e : Int} (hm : 0 < m) (hlt : m < 2 ^ 24)
    (he : -149 ≤ e) : Positive (UnpackedFloat.unpack .binary32
      (UnpackedFloat.pack .binary32 (.finite .positive m e hm))) := by
  rw [UnpackedFloat.pack]
  dsimp only
  split
  · exact positive_unpack_packComponents (.inr rfl) (.inl (by decide))
  · next hexponent =>
    have hbias : (Float.Model.Format.exponentBias .binary32 : Int) = 127 := by decide
    have hbits : Float.Model.Format.mantissaBits .binary32 = 24 := by decide
    have hpos : 0 < (e + (Float.Model.Format.exponentBias .binary32 : Int) + (23 : Nat)).toNat := by
      omega
    generalize (e + (Float.Model.Format.exponentBias .binary32 : Int) + (23 : Nat)).toNat = biased
      at hexponent hpos ⊢
    split
    · -- the exponent lies between zero and ones
      have hnat : (BitVec.ofNat 8 biased).toNat = biased := by
        rw [BitVec.toNat_ofNat, Nat.mod_eq_of_lt (by omega)]
      have hones : (-1#8).toNat = 255 := by decide
      refine positive_unpack_packComponents (.inl fun heq => ?_) (.inl fun heq => ?_)
      · rw [← hnat, heq, hones] at hexponent
        omega
      · rw [← hnat, heq] at hpos
        exact absurd hpos (by decide)
    · next hlog =>
      -- there is no leading one, so that all digits are kept
      refine positive_unpack_packComponents (.inl (by decide)) (.inr fun heq => ?_)
      have hlog : m.log2 < 23 := by
        have hlog' := (Nat.log2_lt hm.ne').mpr hlt
        omega
      have hsmall : m < 2 ^ 23 := (Nat.log2_lt hm.ne').mp hlog
      have hnat := congrArg BitVec.toNat heq
      rw [BitVec.toNat_ofNat, Nat.mod_eq_of_lt hsmall] at hnat
      exact hm.ne' hnat

theorem positive_unpack_pack {u : UnpackedFloat} (h : Positive u) (hu : Canonical u) :
    Positive (UnpackedFloat.unpack .binary32 (UnpackedFloat.pack .binary32 u)) := by
  cases u with
  | notANumber => exact h.elim
  | zero sign => exact h.elim
  | infinity sign =>
    obtain rfl : sign = .positive := h
    exact positive_unpack_packComponents (.inr rfl) (.inl (by decide))
  | finite sign m e hm =>
    obtain rfl : sign = .positive := h
    exact positive_unpack_pack_finite hm hu.1 hu.2.1

theorem sign_of_positive {sign : Sign} {exponent : BitVec 8} {mantissa : BitVec 23}
    (h : Positive (UnpackedFloat.unpack .binary32
      (packComponents .binary32 sign exponent mantissa))) : sign = .positive := by
  rcases unpack_packComponents_cases sign exponent mantissa rfl with
    ⟨-, -, heq⟩ | ⟨-, -, heq⟩ | ⟨-, -, heq⟩ | ⟨-, -, m, e, hm, heq⟩ <;> rw [heq] at h
  · exact h
  · exact h.elim
  · exact h.elim
  · exact h

theorem positive_of_unpack_pack {u : UnpackedFloat}
    (h : Positive (UnpackedFloat.unpack .binary32 (UnpackedFloat.pack .binary32 u))) :
    Positive u := by
  cases u with
  | notANumber => simp [UnpackedFloat.pack, Positive] at h
  | zero sign => simp [UnpackedFloat.pack, Positive] at h
  | infinity sign => exact sign_of_positive h
  | finite sign m e hm =>
    rw [UnpackedFloat.pack] at h
    dsimp only at h
    split at h
    · exact sign_of_positive h
    · split at h <;> exact sign_of_positive h

/-! ## Differences -/

theorem decreaseExponent_pos {m : Nat} (hm : 0 < m) (e place : Int) :
    0 < (decreaseExponent m e place).1 := by
  simp only [decreaseExponent, Nat.shiftLeft_eq]
  exact Nat.mul_pos hm (Nat.two_pow_pos _)

theorem aligned_sub_pos {s s' : Sign} {m m' : Nat} {e e' : Int} {hm : 0 < m} {hm' : 0 < m'}
    (ha : Canonical (.finite s m e hm)) (hb : Canonical (.finite s' m' e' hm'))
    (hlt : UnpackedFloat.lt (.finite s m e hm) (.finite s' m' e' hm') = true) :
    0 < s'.apply (decreaseExponent m' e' (min e' e)).1
      - s.apply (decreaseExponent m e (min e' e)).1 := by
  have hpos := decreaseExponent_pos hm e (min e' e)
  have hpos' := decreaseExponent_pos hm' e' (min e' e)
  cases s <;> cases s' <;>
    simp only [UnpackedFloat.lt, UnpackedFloat.compare, Sign.apply, beq_iff_eq, Option.some.injEq,
      reduceCtorEq] at hlt ⊢
  case negative.positive => omega
  case positive.positive =>
    have haligned := aligned_lt ⟨ha.1, ha.2.1⟩ hb.2.2 hlt
    rw [min_comm] at haligned
    omega
  case negative.negative =>
    -- of two negative numbers the one with the smaller significand is the larger
    have hswap : (compare e' e).then (compare m' m)
        = ((compare e e').then (compare m m')).swap := by
      rw [Ordering.swap_then, ← Std.OrientedCmp.eq_swap, ← Std.OrientedCmp.eq_swap]
    rw [← hswap] at hlt
    have haligned := aligned_lt ⟨hb.1, hb.2.1⟩ ha.2.2 hlt
    omega

theorem positive_normalize {d e : Int} (hd : 0 < d) (he : -149 ≤ e) (sign : Sign) :
    Positive (UnpackedFloat.normalize .binary32 d e sign)
      ∧ Canonical (UnpackedFloat.normalize .binary32 d e sign) := by
  rw [UnpackedFloat.normalize, compare_gt_iff_gt.mpr hd]
  dsimp only
  obtain ⟨m, e, hm, heq, hcanonical⟩ := round_canonical .positive (m := d.toNat) (by omega) he
  rw [heq] at hcanonical ⊢
  exact ⟨rfl, hcanonical⟩

theorem sign_of_positive_round {sign : Sign} {m : Nat} {e : Int}
    (h : Positive (UnpackedFloat.round .binary32 sign m e)) : sign = .positive := by
  unfold UnpackedFloat.round UnpackedFloat.roundWithAccuracy at h
  dsimp only at h
  split at h
  · exact h.elim
  · exact h

theorem pos_of_positive_normalize {d e : Int} {sign : Sign}
    (h : Positive (UnpackedFloat.normalize .binary32 d e sign)) : 0 < d := by
  unfold UnpackedFloat.normalize at h
  split at h
  · cases sign_of_positive_round h
  · exact h.elim
  · next hgt => exact compare_gt_iff_gt.mp hgt

theorem positive_sub {a b : UnpackedFloat} (ha : Canonical a) (hb : Canonical b)
    (hlt : a.lt b = true) :
    Positive (UnpackedFloat.sub .binary32 b a) ∧ Canonical (UnpackedFloat.sub .binary32 b a) := by
  -- where not both numbers are finite, the difference is one of them or its opposite
  cases a with
  | notANumber => simp [UnpackedFloat.lt, UnpackedFloat.compare] at hlt
  | infinity sign =>
    cases b with
    | infinity sign' =>
      cases sign <;> cases sign' <;>
        simp_all [UnpackedFloat.lt, UnpackedFloat.compare, UnpackedFloat.sub, Positive, Canonical]
    | _ =>
      cases sign <;>
        simp_all [UnpackedFloat.lt, UnpackedFloat.compare, UnpackedFloat.sub, Positive, Canonical]
  | zero sign =>
    cases b with
    | infinity sign' | finite sign' =>
      cases sign' <;>
        simp_all [UnpackedFloat.lt, UnpackedFloat.compare, UnpackedFloat.sub, Positive, Canonical]
    | _ => simp [UnpackedFloat.lt, UnpackedFloat.compare] at hlt
  | finite sign m e hm =>
    cases b with
    | notANumber => simp [UnpackedFloat.lt, UnpackedFloat.compare] at hlt
    | infinity sign' =>
      cases sign' <;>
        simp_all [UnpackedFloat.lt, UnpackedFloat.compare, UnpackedFloat.sub, Positive, Canonical]
    | zero sign' =>
      cases sign <;>
        simp_all [UnpackedFloat.lt, UnpackedFloat.compare, UnpackedFloat.sub, Positive, Canonical]
    | finite sign' m' e' hm' =>
      exact positive_normalize (aligned_sub_pos ha hb hlt) (le_min hb.2.1 ha.2.1) _

theorem lt_of_positive_sub {a b : UnpackedFloat} (ha : Canonical a) (hb : Canonical b)
    (h : Positive (UnpackedFloat.sub .binary32 b a)) : a.lt b = true := by
  cases a with
  | notANumber => cases b <;> exact h.elim
  | infinity sign =>
    cases b with
    | notANumber => exact h.elim
    | infinity sign' =>
      cases sign <;> cases sign' <;> first | rfl | exact h.elim | cases h
    | _ =>
      cases sign <;> simp_all [UnpackedFloat.lt, UnpackedFloat.compare, UnpackedFloat.sub, Positive]
  | zero sign =>
    cases b with
    | notANumber => exact h.elim
    | zero sign' =>
      rw [UnpackedFloat.sub] at h
      split at h <;> exact h.elim
    | infinity sign' | finite sign' =>
      cases sign' <;>
        simp_all [UnpackedFloat.lt, UnpackedFloat.compare, UnpackedFloat.sub, Positive]
  | finite sign m e hm =>
    cases b with
    | notANumber => exact h.elim
    | infinity sign' =>
      cases sign' <;>
        simp_all [UnpackedFloat.lt, UnpackedFloat.compare, UnpackedFloat.sub, Positive]
    | zero sign' =>
      cases sign <;>
        simp_all [UnpackedFloat.lt, UnpackedFloat.compare, UnpackedFloat.sub, Positive]
    | finite sign' m' e' hm' =>
      have hpos : 0 < sign'.apply (decreaseExponent m' e' (min e' e)).1
          - sign.apply (decreaseExponent m e (min e' e)).1 := pos_of_positive_normalize h
      by_contra hle
      have hdiff := aligned_sub_nonneg ha hb (Bool.not_eq_true _ ▸ hle)
      rw [min_comm] at hdiff
      omega

/-- **A difference is positive** when the first number is larger, however close the two are. -/
theorem sub_pos_iff (a b : Float32) : 0 < b - a ↔ a < b := by
  rw [zero_lt_iff, lt_iff]
  constructor
  · intro h
    exact lt_of_positive_sub (canonical_unpack _) (canonical_unpack _) (positive_of_unpack_pack h)
  · intro h
    obtain ⟨hpositive, hcanonical⟩ := positive_sub (canonical_unpack _) (canonical_unpack _) h
    exact positive_unpack_pack hpositive hcanonical

end Bouquet.Binary32
