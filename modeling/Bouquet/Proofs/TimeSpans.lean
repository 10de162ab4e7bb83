import Bouquet.Schedule.Instant
import Mathlib.Logic.Basic
import Mathlib.Tactic.SplitIfs

/-!
# Spans of Time

Spans are counted in whole seconds, and what is less than a second counts as none, on both sides of
zero.

A leap second prolongs the second before it, so that instants in it come before the next second but
lie as many nanoseconds after the epoch as instants in that one. The span between two instants
counts a leap second only by the time of day. Spans can therefore be off by a second or two: this
module bounds them, and shows that they are exact outside of leap seconds.

## Main statements

- `Span.seconds_nonneg_iff`, `Span.le_seconds_iff`: whole seconds against a bound
- `Instant.since_of_not_isLeap`: spans outside of leap seconds
- `Instant.neg_lt_since`, `Instant.since_lt`: spans against the order of their ends
- `Instant.nanos_later`: the instant some seconds later
- `Instant.le_since_later`: what is left of a span after a part of it
- `Instant.since_anti`, `Instant.since_lt_add`: spans up to a fixed instant
-/

namespace Bouquet

/-! ## Whole seconds -/

namespace Span

variable {s : Span}

/-- Whole seconds are counted from zero outward. -/
theorem seconds_eq (s : Span) :
    s.seconds = if 0 ≤ s.nanos then s.nanos / nanosPerSecond
      else -(-s.nanos / nanosPerSecond) := by
  unfold seconds
  split
  · next hnonneg => exact Int.tdiv_eq_ediv_of_nonneg hnonneg
  · next hneg =>
    have hopposite : 0 ≤ -s.nanos := by omega
    rw [← Int.tdiv_eq_ediv_of_nonneg hopposite, Int.neg_tdiv, Int.neg_neg]

/-- Less than a second below zero counts as no second. -/
theorem seconds_nonneg_iff (s : Span) : 0 ≤ s.seconds ↔ -nanosPerSecond < s.nanos := by
  rw [seconds_eq, nanosPerSecond]
  split <;> omega

/-- Above zero a second counts when it is full. -/
theorem le_seconds_iff (s : Span) {count : Int} (hpos : 0 < count) :
    count ≤ s.seconds ↔ count * nanosPerSecond ≤ s.nanos := by
  rw [seconds_eq, nanosPerSecond]
  split <;> omega

theorem seconds_le_iff (s : Span) {count : Int} (hnonneg : 0 ≤ count) :
    s.seconds ≤ count ↔ s.nanos < (count + 1) * nanosPerSecond := by
  have hnext := s.le_seconds_iff (Int.lt_add_one_of_le hnonneg)
  rw [← Int.not_lt, ← Int.add_one_le_iff, hnext, Int.not_le]

/-- Below zero the same holds on the other side. -/
theorem neg_le_seconds_iff (s : Span) {count : Int} (hnonneg : 0 ≤ count) :
    -count ≤ s.seconds ↔ -(count + 1) * nanosPerSecond < s.nanos := by
  rw [seconds_eq, nanosPerSecond]
  split <;> omega

theorem seconds_pos_iff (s : Span) : 0 < s.seconds ↔ nanosPerSecond ≤ s.nanos := by
  have hone := s.le_seconds_iff Int.one_pos
  rwa [Int.one_mul] at hone

/-- A second more comes to one second more at most. -/
theorem seconds_le_add_one {s r : Span} (h : r.nanos ≤ s.nanos + nanosPerSecond) :
    r.seconds ≤ s.seconds + 1 := by
  rw [nanosPerSecond] at h
  rw [seconds_eq, seconds_eq, nanosPerSecond]
  -- the two may lie on different sides of zero
  split <;> split <;> omega

end Span

namespace Instant

variable {t u v : Instant} {s : Span}

/-! ## The order of instants -/

/-- Instants are in the order of their seconds, and within a second in that of their fractions. -/
instance : LE Instant where
  le t u := t.second < u.second ∨ t.second = u.second ∧ t.fraction.val ≤ u.fraction.val

instance : LT Instant where
  lt t u := t.second < u.second ∨ t.second = u.second ∧ t.fraction.val < u.fraction.val

instance (t u : Instant) : Decidable (t ≤ u) :=
  inferInstanceAs (Decidable (_ ∨ _))

instance (t u : Instant) : Decidable (t < u) :=
  inferInstanceAs (Decidable (_ ∨ _))

theorem le_iff : t ≤ u ↔
    t.second < u.second ∨ t.second = u.second ∧ t.fraction.val ≤ u.fraction.val :=
  Iff.rfl

theorem lt_iff : t < u ↔
    t.second < u.second ∨ t.second = u.second ∧ t.fraction.val < u.fraction.val :=
  Iff.rfl

protected theorem not_le : ¬ t ≤ u ↔ u < t := by
  rw [le_iff, lt_iff]
  omega

protected theorem not_lt : ¬ t < u ↔ u ≤ t := by
  rw [← Instant.not_le, not_not]

protected theorem lt_trans (htu : t < u) (huv : u < v) : t < v := by
  rw [lt_iff] at *
  omega

protected theorem le_of_lt (h : t < u) : t ≤ u := by
  rw [lt_iff] at h
  rw [le_iff]
  omega

/-! ## Nanoseconds -/

theorem nanos_eq (t : Instant) : t.nanos = t.second * 1000000000 + t.fraction.val := rfl

theorem isLeap_iff : t.isLeap = true ↔ 1000000000 ≤ t.fraction.val := by
  rw [isLeap, nanosPerSecond, decide_eq_true_iff]
  omega

theorem not_isLeap_iff : t.isLeap = false ↔ t.fraction.val < 1000000000 := by
  rw [← Bool.not_eq_true, isLeap_iff, Nat.not_le]

/-- Outside of leap seconds instants have the order of their nanoseconds. -/
theorem le_iff_nanos_le (ht : t.isLeap = false) (hu : u.isLeap = false) :
    t ≤ u ↔ t.nanos ≤ u.nanos := by
  rw [not_isLeap_iff] at ht hu
  rw [le_iff, nanos_eq, nanos_eq]
  omega

theorem lt_iff_nanos_lt (ht : t.isLeap = false) (hu : u.isLeap = false) :
    t < u ↔ t.nanos < u.nanos := by
  rw [← Instant.not_le, le_iff_nanos_le hu ht, Int.not_le]

/-! ## Spans -/

/-- What a leap second adds to a span, by the time of day of both ends. -/
theorem leapBetween_cases (t u : Instant) :
    t.leapBetween u = 1 ∧ u.secondOfDay < t.secondOfDay ∧ u.isLeap = true ∨
      t.leapBetween u = -1 ∧ t.secondOfDay < u.secondOfDay ∧ t.isLeap = true ∨
      t.leapBetween u = 0 ∧ (u.secondOfDay < t.secondOfDay → u.isLeap = false) := by
  unfold leapBetween
  split_ifs with hpassed hahead
  · exact .inl ⟨rfl, hpassed⟩
  · exact .inr (.inl ⟨rfl, hahead⟩)
  · exact .inr (.inr ⟨rfl, fun h => Bool.eq_false_iff.mpr fun hu => hpassed ⟨h, hu⟩⟩)

theorem nanos_since (t u : Instant) :
    (t.since u).nanos = t.nanos - u.nanos + t.leapBetween u * 1000000000 := rfl

/-- **Outside of leap seconds** a span is the difference of the nanoseconds. -/
theorem since_of_not_isLeap (ht : t.isLeap = false) (hu : u.isLeap = false) :
    (t.since u).nanos = t.nanos - u.nanos := by
  have hnone : t.leapBetween u = 0 := by
    rcases leapBetween_cases t u with ⟨-, -, h⟩ | ⟨-, -, h⟩ | ⟨h, -⟩
    · exact absurd hu (by rw [h]; decide)
    · exact absurd ht (by rw [h]; decide)
    · exact h
  rw [nanos_since, hnone]
  omega

/-- A span that leads forward is less than a second below zero. -/
theorem neg_lt_since (h : u ≤ t) : -nanosPerSecond < (t.since u).nanos := by
  have ht := t.fraction.isLt
  have hu := u.fraction.isLt
  rw [le_iff] at h
  rw [nanos_since, nanos_eq, nanos_eq, nanosPerSecond]
  -- at one second of the day both ends lie in one second, or a day apart
  rcases leapBetween_cases t u with ⟨hadd, hday, hleap⟩ | ⟨hadd, hday, hleap⟩ | ⟨hadd, hday⟩ <;>
    simp only [secondOfDay, isLeap_iff, not_isLeap_iff] at * <;> omega

/-- From the middle of a leap second it is half a second to the next one. At midnight the leap second
is not counted, and the same way leads back. -/
example : (since (ofParts 60 0) (ofParts 59 1500000000)).nanos = 500000000 ∧
    (since (ofParts 86400 0) (ofParts 86399 1500000000)).nanos = -500000000 := by decide

/-- A span that leads back is less than two seconds above zero. -/
theorem since_lt (h : t < u) : (t.since u).nanos < 2 * nanosPerSecond := by
  have ht := t.fraction.isLt
  have hu := u.fraction.isLt
  rw [lt_iff] at h
  rw [nanos_since, nanos_eq, nanos_eq, nanosPerSecond]
  rcases leapBetween_cases t u with ⟨hadd, -⟩ | ⟨hadd, -⟩ | ⟨hadd, -⟩ <;> omega

/-! ## Some seconds later -/

theorem isLeap_ofNanos (nanos : Int) : (ofNanos nanos).isLeap = false := by
  rw [not_isLeap_iff]
  simp only [ofNanos, ofParts, nanosPerSecond, Fin.ofNat]
  omega

theorem nanos_ofNanos (nanos : Int) : (ofNanos nanos).nanos = nanos := by
  rw [nanos_eq]
  simp only [ofNanos, ofParts, nanosPerSecond, Fin.ofNat]
  omega

theorem later_of_not_isLeap (h : t.isLeap = false) (s : Span) :
    t.later s = ofNanos (t.nanos + s.nanos) := by
  rw [later, if_neg (by rw [h]; decide)]

theorem later_of_isLeap (h : t.isLeap = true) (hs : nanosPerSecond ≤ s.nanos) :
    t.later s = ofNanos (t.nanos - nanosPerSecond + s.nanos) := by
  rw [later, if_pos h, if_pos (.inl (s.seconds_pos_iff.mpr hs))]

/-- Some seconds lead out of a leap second and not into another one. -/
theorem isLeap_later (hs : nanosPerSecond ≤ s.nanos) : (t.later s).isLeap = false := by
  cases h : t.isLeap with
  | false => rw [later_of_not_isLeap h, isLeap_ofNanos]
  | true => rw [later_of_isLeap h hs, isLeap_ofNanos]

/-- **Some seconds later**: from a leap second on, one of them has passed already. -/
theorem nanos_later (hs : nanosPerSecond ≤ s.nanos) :
    (t.later s).nanos = t.nanos + s.nanos - if t.isLeap then nanosPerSecond else 0 := by
  cases h : t.isLeap with
  | false => rw [later_of_not_isLeap h, nanos_ofNanos]; simp
  | true => rw [later_of_isLeap h hs, nanos_ofNanos, if_pos rfl]; omega

/-- A second after the middle of a leap second is the middle of the second after it. -/
example : later (ofParts 59 1500000000) ⟨nanosPerSecond⟩ = ofParts 60 500000000 := by decide

/-- A span of any length leads as far as it is long, or a second less. -/
theorem nanos_later_bounds (t : Instant) (s : Span) :
    t.nanos + s.nanos - nanosPerSecond ≤ (t.later s).nanos ∧
      (t.later s).nanos ≤ t.nanos + s.nanos := by
  have hunit : 0 ≤ nanosPerSecond := by decide
  unfold later
  split_ifs with hleap hforth hback
  · rw [nanos_ofNanos]
    omega
  · rw [nanos_ofNanos]
    omega
  · -- a span without a full second stays in the leap second
    have hrest : s.rest = s.nanos - nanosPerSecond * s.seconds := Int.tmod_def _ _
    have hlower : -nanosPerSecond < s.rest := Int.lt_tmod_of_pos _ (by decide)
    have hseconds : s.seconds = 0 := by omega
    rw [isLeap_iff] at hleap
    rw [hseconds, Int.mul_zero, Int.sub_zero] at hrest
    rw [nanosPerSecond] at hlower ⊢
    rw [nanos_eq, nanos_eq]
    simp only [ofParts, Fin.ofNat]
    omega
  · rw [nanos_ofNanos]
    omega

theorem lt_later (hs : nanosPerSecond ≤ s.nanos) : t < t.later s := by
  have hlater := nanos_later (t := t) hs
  have hplain := not_isLeap_iff.mp (isLeap_later (t := t) hs)
  rw [nanos_eq, nanos_eq] at hlater
  rw [nanosPerSecond] at hs hlater
  rw [lt_iff]
  split at hlater
  · next hleap => rw [isLeap_iff] at hleap; omega
  · omega

/-- When a part of a span has passed, the rest of it is left, less two seconds at worst. -/
theorem le_since_later (hs : nanosPerSecond ≤ s.nanos) :
    s.nanos - (u.since t).nanos - 2 * nanosPerSecond ≤ ((t.later s).since u).nanos := by
  have hlater := nanos_later (t := t) hs
  have hplain := isLeap_later (t := t) hs
  rw [nanos_since, nanos_since, hlater, nanosPerSecond]
  have hback : 0 ≤ (t.later s).leapBetween u := by
    rcases leapBetween_cases (t.later s) u with ⟨h, -⟩ | ⟨-, -, h⟩ | ⟨h, -⟩
    · omega
    · exact absurd h (by rw [hplain]; decide)
    · omega
  have hforth : -1 ≤ u.leapBetween t := by
    rcases leapBetween_cases u t with ⟨h, -⟩ | ⟨h, -⟩ | ⟨h, -⟩ <;> omega
  split <;> omega

/-! ## Up to a fixed instant -/

theorem leapBetween_of_not_isLeap (ht : t.isLeap = false) (u : Instant) :
    t.leapBetween u = if u.secondOfDay < t.secondOfDay ∧ u.isLeap then 1 else 0 := by
  unfold leapBetween
  split
  · rfl
  · rw [if_neg (by rw [ht]; simp)]

/-- **As time goes by, less is left** up to an instant outside of leap seconds. Two instants that
are less than a second apart have to be outside of leap seconds as well. -/
theorem since_anti (ht : t.isLeap = false) (h : u ≤ v)
    (hplain : u.isLeap = false ∧ v.isLeap = false ∨ u.nanos + nanosPerSecond ≤ v.nanos) :
    (t.since v).nanos ≤ (t.since u).nanos := by
  rcases hplain with ⟨hu, hv⟩ | hfar
  · have hnanos := (le_iff_nanos_le hu hv).mp h
    rw [since_of_not_isLeap ht hv, since_of_not_isLeap ht hu]
    omega
  · -- a leap second adds no more than the two lie apart
    rw [nanosPerSecond] at hfar
    rw [nanos_since, nanos_since, leapBetween_of_not_isLeap ht, leapBetween_of_not_isLeap ht]
    split <;> split <;> omega

/-- Up to an instant outside of leap seconds, at most a second more is left later. -/
theorem since_lt_add (ht : t.isLeap = false) (h : u ≤ v) :
    (t.since v).nanos < (t.since u).nanos + nanosPerSecond := by
  have hu := u.fraction.isLt
  have hv := v.fraction.isLt
  rw [le_iff] at h
  rw [nanos_since, nanos_since, nanosPerSecond, nanos_eq u, nanos_eq v,
    leapBetween_of_not_isLeap ht, leapBetween_of_not_isLeap ht]
  simp only [secondOfDay, isLeap_iff]
  -- a leap second that is counted at `v` alone lies behind `u`, so that less than it is gained
  split <;> split <;> omega

end Instant

end Bouquet
