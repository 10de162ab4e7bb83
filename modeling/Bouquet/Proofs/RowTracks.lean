import Bouquet.Proofs.Strides

/-!
# Moves Row by Row

A move repeats steps until it has taken as many as it was asked for or none is left to take. Where
the steps lead from each row to the next one, a move goes as many rows as it was asked for, or to
the last row on its way.

## Main definitions

- `Listing.MoveLoop`: a move as a loop that may end early
- `Listing.Track`: rows that the steps lead along
- `rowSteps`: the rows that a move leaves and reaches

## Main statements

- `Listing.moveLoop_iff`: the loop ends, and it ends as the move does
- `Listing.Track.move`: how far a move goes along a track, and what it reports
-/

namespace Bouquet

/-- The rows that a move from a row leaves and reaches, step by step. -/
def rowSteps (row : Nat) (moved : Int) : List (Nat × Nat) :=
  if 0 ≤ moved then (List.range' row moved.natAbs).map fun i => (i, i + 1)
  else (List.range' (row - moved.natAbs) moved.natAbs).reverse.map fun i => (i + 1, i)

theorem rowSteps_forward (row count : Nat) :
    rowSteps row count = (List.range' row count).map fun i => (i, i + 1) := by
  simp [rowSteps]

theorem rowSteps_backward (row count : Nat) :
    rowSteps row (-(count : Int))
      = (List.range' (row - count) count).reverse.map fun i => (i + 1, i) := by
  cases count with
  | zero => simp [rowSteps]
  | succ count => rw [rowSteps, if_neg (by omega), Int.natAbs_neg, Int.natAbs_natCast]

namespace Listing

/-! ## The loop of a move -/

/-- The loop of a move by `count`: from a listing and the rows counted so far to the listing and
the rows with which it ends, and what it reports on the way. -/
inductive MoveLoop (count : Int) : Listing → Int → Listing → Int → List Notice → Prop where
  /-- It ends when it has counted far enough. -/
  | reached (l : Listing) : MoveLoop count l count l count []
  /-- It ends where no step can be taken. -/
  | halted {l : Listing} {moved : Int} (hmore : moved ≠ count) (hstop : stepToward count l = none) :
      MoveLoop count l moved l moved []
  /-- Otherwise it takes a step, counts it, and goes on. -/
  | stepped {l next last : Listing} {moved total : Int} {notices later : List Notice}
      (hmore : moved ≠ count) (hstep : stepToward count l = some (next, notices))
      (hrest : MoveLoop count next (moved + count.sign) last total later) :
      MoveLoop count l moved last total (notices ++ later)

variable {count : Int} {l : Listing}

/-- The steps that are left to take are taken by the loop. -/
theorem moveLoop_steps (hcount : count ≠ 0) (left : Nat) (l : Listing) (moved : Int)
    (hleft : moved + count.sign * left = count) :
    MoveLoop count l moved (steps (stepToward count) left l).1
      (moved + count.sign * ((steps (stepToward count) left l).2.1 : Int))
      (steps (stepToward count) left l).2.2 := by
  induction left generalizing l moved with
  | zero =>
    obtain rfl : moved = count := by simpa using hleft
    have hreached : MoveLoop moved l moved l moved [] := .reached l
    simpa [steps] using hreached
  | succ left ih =>
    rw [Int.natCast_succ, Int.mul_add, Int.mul_one] at hleft
    -- with a step left to take the count is not reached yet, in either direction
    have hmore : moved ≠ count := by
      rintro rfl
      have hzero : moved.sign * (left + 1 : Int) = 0 := by rw [Int.mul_add, Int.mul_one]; omega
      rcases Int.mul_eq_zero.mp hzero with hsign | hsucc
      · exact hcount (Int.sign_eq_zero_iff_zero.mp hsign)
      · omega
    cases hstep : stepToward count l with
    | none =>
      rw [steps_succ_of_none hstep]
      simpa using MoveLoop.halted hmore hstep
    | some result =>
      obtain ⟨next, notices⟩ := result
      have hrest := ih next (moved + count.sign) (by omega)
      have htotal : moved + count.sign
          + count.sign * ((steps (stepToward count) left next).2.1 : Int)
          = moved + count.sign * ((steps (stepToward count) left next).2.1 + 1 : Nat) := by
        rw [Int.natCast_succ, Int.mul_add, Int.mul_one]
        omega
      rw [htotal] at hrest
      rw [steps_succ_of_some hstep]
      exact .stepped hmore hstep hrest

/-- A loop ends in one way only. -/
theorem MoveLoop.unique {moved total total' : Int} {last last' : Listing}
    {notices notices' : List Notice} (h : MoveLoop count l moved last total notices)
    (h' : MoveLoop count l moved last' total' notices') :
    last = last' ∧ total = total' ∧ notices = notices' := by
  induction h generalizing last' total' notices' with
  | reached l =>
    cases h' with
    | reached => exact ⟨rfl, rfl, rfl⟩
    | halted hmore => exact absurd rfl hmore
    | stepped hmore => exact absurd rfl hmore
  | halted hmore hstop =>
    cases h' with
    | reached => exact absurd rfl hmore
    | halted => exact ⟨rfl, rfl, rfl⟩
    | stepped _ hstep => simp [hstop] at hstep
  | stepped hmore hstep _ ih =>
    cases h' with
    | reached => exact absurd rfl hmore
    | halted _ hstop => simp [hstep] at hstop
    | stepped _ hstep' hrest =>
      have hsame := hstep.symm.trans hstep'
      rw [Option.some.injEq, Prod.mk.injEq] at hsame
      obtain ⟨rfl, rfl⟩ := hsame
      obtain ⟨rfl, rfl, rfl⟩ := ih hrest
      exact ⟨rfl, rfl, rfl⟩

/-- **The loop of a move** ends, and it ends as the move does. -/
theorem moveLoop_iff {last : Listing} {moved : Int} {notices : List Notice} :
    MoveLoop count l 0 last moved notices ↔ l.move count = (last, moved, notices) := by
  have hloop : MoveLoop count l 0 (l.move count).1 (l.move count).2.1 (l.move count).2.2 := by
    rw [move_eq_steps]
    -- a move by no rows is at its end before any step
    by_cases hcount : count = 0
    · subst hcount
      exact MoveLoop.reached l
    · have hsteps := moveLoop_steps hcount count.natAbs l 0
        (by rw [Int.zero_add, Int.sign_mul_natAbs])
      have hsign : count.sign = if 0 ≤ count then 1 else -1 := by
        split
        · exact Int.sign_eq_one_of_pos (by omega)
        · exact Int.sign_eq_neg_one_of_neg (by omega)
      rwa [Int.zero_add, hsign] at hsteps
  constructor
  · intro h
    obtain ⟨h₁, h₂, h₃⟩ := hloop.unique h
    exact Prod.ext h₁ (Prod.ext h₂ h₃)
  · intro h
    rwa [h] at hloop

/-- The loop ends in no other way than the move. -/
theorem moveLoop_iff_of_move_eq {l' : Listing} {moved : Int} {notices : List Notice}
    (h : l.move count = (l', moved, notices)) (last : Listing) (total : Int)
    (later : List Notice) :
    MoveLoop count l 0 last total later ↔ last = l' ∧ total = moved ∧ later = notices := by
  rw [moveLoop_iff, h, Prod.mk.injEq, Prod.mk.injEq, eq_comm, @eq_comm _ moved,
    @eq_comm _ notices]

/-! ## Tracks -/

/-- Listings that a step forward takes to the next row and a step backward to the one before, from
row `0` to row `last`. The report of a step tells the row that it leaves and the one it reaches. -/
structure Track (At : Nat → Listing → Prop) (last : Nat) (report : Nat → Nat → List Notice) :
    Prop where
  forward : ∀ {row l}, At row l → row < last →
    ∃ next, l.stepForward = some (next, report row (row + 1)) ∧ At (row + 1) next
  backward : ∀ {row l}, At (row + 1) l →
    ∃ next, l.stepBackward = some (next, report (row + 1) row) ∧ At row next
  last_stop : ∀ {l}, At last l → l.stepForward = none
  first_stop : ∀ {l}, At 0 l → l.stepBackward = none

variable {At : Nat → Listing → Prop} {last row : Nat} {report : Nat → Nat → List Notice}

/-- Forward a track is followed to its last row. -/
theorem Track.steps_forward (h : Track At last report) (hl : At row l) (hrow : row ≤ last)
    (count : Nat) :
    ∃ l', steps stepForward count l = (l', min count (last - row),
        (List.range' row (min count (last - row))).flatMap fun i => report i (i + 1)) ∧
      At (row + min count (last - row)) l' := by
  induction count generalizing row l with
  | zero => exact ⟨l, by simp [steps], by simpa using hl⟩
  | succ count ih =>
    -- before the last row the step can be taken, at it the move ends with steps left
    rcases Nat.lt_or_eq_of_le hrow with hlt | rfl
    · obtain ⟨next, hstep, hnext⟩ := h.forward hl hlt
      obtain ⟨l', hsteps, hl'⟩ := ih hnext hlt
      have hmin : min (count + 1) (last - row) = min count (last - (row + 1)) + 1 := by omega
      refine ⟨l', ?_, ?_⟩
      · rw [steps_succ_of_some hstep, hsteps, hmin, List.range'_succ]
        rfl
      · rw [hmin]
        rwa [Nat.add_assoc, Nat.add_comm 1] at hl'
    · exact ⟨l, by simp [steps_succ_of_none (h.last_stop hl)], by simpa using hl⟩

/-- Backward a track is followed to its first row. -/
theorem Track.steps_backward (h : Track At last report) (hl : At row l) (count : Nat) :
    ∃ l', steps stepBackward count l = (l', min count row,
        (List.range' (row - min count row) (min count row)).reverse.flatMap
          fun i => report (i + 1) i) ∧
      At (row - min count row) l' := by
  induction count generalizing row l with
  | zero => exact ⟨l, by simp [steps], by simpa using hl⟩
  | succ count ih =>
    cases row with
    | zero => exact ⟨l, by simp [steps_succ_of_none (h.first_stop hl)], by simpa using hl⟩
    | succ row =>
      obtain ⟨next, hstep, hnext⟩ := h.backward hl
      obtain ⟨l', hsteps, hl'⟩ := ih hnext
      have hmin : min (count + 1) (row + 1) = min count row + 1 := by omega
      have hback : row + 1 - (min count row + 1) = row - min count row := by omega
      refine ⟨l', ?_, ?_⟩
      · rw [steps_succ_of_some hstep, hsteps, hmin, hback, List.range'_concat]
        have hend : row - min count row + min count row = row := by omega
        simp [hend]
      · rwa [hmin, hback]

/-- **A move along a track** goes as many rows as it was asked for, or to the last row on its way,
and makes a report at every step. -/
theorem Track.move (h : Track At last report) (hl : At row l) (hrow : row ≤ last) (count : Int) :
    ∃ l', l.move count = (l', max (-(row : Int)) (min count (last - row)),
        (rowSteps row (max (-(row : Int)) (min count (last - row)))).flatMap
          fun s => report s.1 s.2) ∧
      At ((row : Int) + max (-(row : Int)) (min count (last - row))).toNat l' := by
  rw [move_eq_steps]
  -- only one of the two bounds counts: forward the last row, backward the first
  by_cases hcount : 0 ≤ count
  · obtain ⟨l', hsteps, hl'⟩ := h.steps_forward hl hrow count.natAbs
    have hmoved : max (-(row : Int)) (min count (last - row))
        = (min count.natAbs (last - row) : Nat) := by omega
    refine ⟨l', ?_, ?_⟩
    · rw [stepToward, if_pos hcount, if_pos hcount, hsteps, hmoved, rowSteps_forward,
        List.flatMap_map, Int.one_mul]
    · rwa [hmoved, ← Int.natCast_add, Int.toNat_natCast]
  · obtain ⟨l', hsteps, hl'⟩ := h.steps_backward hl count.natAbs
    have hmoved : max (-(row : Int)) (min count (last - row))
        = -((min count.natAbs row : Nat) : Int) := by omega
    refine ⟨l', ?_, ?_⟩
    · rw [stepToward, if_neg hcount, if_neg hcount, hsteps, hmoved, rowSteps_backward,
        List.flatMap_map, Int.neg_one_mul]
    · have hrows : ((row : Int) + -((min count.natAbs row : Nat) : Int)).toNat
          = row - min count.natAbs row := by omega
      rwa [hmoved, hrows]

end Listing

end Bouquet
