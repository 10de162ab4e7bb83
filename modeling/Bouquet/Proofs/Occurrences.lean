import Bouquet.Proofs.Effects

/-!
# Following Entries

Entries may look the same, so an entry is followed by the place where it stands and not by what it
is. Every operation takes the entry at an ordinal to another ordinal or drops it. What it keeps it
keeps unaltered and apart from the others, and in order unless the list is sorted or an entry is
dragged.

## Main definitions

- `Carries`, `InOrder`: laws of a map from old to new ordinals
- `Listing.follow?`, `Listing.followRun?`: where an operation or a run takes an entry
- `Listing.Drops`, `Listing.Reorders`: the steps that drop an entry or change the order

## Main statements

- `Listing.carries_followRun`: a run keeps entries unaltered and apart
- `Listing.followRun?_eq_none_iff`: it drops an entry exactly if one of its steps does
- `Listing.inOrder_followRun`: it keeps them in order as long as no step reorders
-/

namespace Bouquet

/-! ## Maps of ordinals -/

/-- A map from the ordinals of a list to those of another takes every entry that it keeps to itself
and no two of them to the same place. -/
structure Carries (entries others : List Reference) (place : Nat → Option Nat) : Prop where
  unaltered : ∀ i k, i < entries.length → place i = some k → others[k]? = entries[i]?
  apart : ∀ i j k, i < entries.length → j < entries.length → place i = some k → place j = some k → i = j

/-- A map of the first `size` ordinals keeps their order. -/
def InOrder (size : Nat) (place : Nat → Option Nat) : Prop :=
  ∀ i j i' j', i < j → j < size → place i = some i' → place j = some j' → i' < j'

/-- What is kept has a place in the other list. -/
theorem Carries.lt_length {entries others : List Reference} {place : Nat → Option Nat}
    (h : Carries entries others place) {i k : Nat} (hi : i < entries.length) (hk : place i = some k) :
    k < others.length := by
  have hentry := h.unaltered i k hi hk
  rw [List.getElem?_eq_getElem hi] at hentry
  exact (List.getElem?_eq_some_iff.mp hentry).1

theorem carries_some (entries : List Reference) : Carries entries entries some := by
  constructor
  · rintro i k - hk
    rw [Option.some.inj hk]
  · intro i j k _ _ hik hjk
    exact Option.some.inj (hik.trans hjk.symm)

theorem inOrder_some (size : Nat) : InOrder size some := by
  intro i j i' j' hij _ hi hj
  cases hi
  cases hj
  exact hij

theorem Carries.bind {entries others later : List Reference} {place next : Nat → Option Nat}
    (h : Carries entries others place) (h' : Carries others later next) :
    Carries entries later fun i => (place i).bind next := by
  constructor
  · intro i k hi hk
    obtain ⟨m, hm, hmk⟩ := Option.bind_eq_some_iff.mp hk
    rw [h'.unaltered m k (h.lt_length hi hm) hmk, h.unaltered i m hi hm]
  · intro i j k hi hj hik hjk
    obtain ⟨m, hm, hmk⟩ := Option.bind_eq_some_iff.mp hik
    obtain ⟨n, hn, hnk⟩ := Option.bind_eq_some_iff.mp hjk
    -- they are at one place at the end, so at one place halfway
    obtain rfl := h'.apart m n k (h.lt_length hi hm) (h.lt_length hj hn) hmk hnk
    exact h.apart i j m hi hj hm hn

theorem InOrder.bind {entries others : List Reference} {place next : Nat → Option Nat}
    (hcarries : Carries entries others place) (h : InOrder entries.length place)
    (h' : InOrder others.length next) :
    InOrder entries.length fun i => (place i).bind next := by
  intro i j i' j' hij hj hi' hj'
  obtain ⟨m, hm, hmi⟩ := Option.bind_eq_some_iff.mp hi'
  obtain ⟨n, hn, hnj⟩ := Option.bind_eq_some_iff.mp hj'
  exact h' m n i' j' (h i j m n hij hj hm hn) (hcarries.lt_length hj hn) hmi hnj

/-- An insertion makes room behind its ordinal. -/
theorem carries_insertIdx (entries : List Reference) (ordinal : Nat) (r : Reference) :
    Carries entries (entries.insertIdx ordinal r)
      fun i => some (if ordinal ≤ i then i + 1 else i) := by
  constructor
  · intro i k _ hk
    obtain rfl := Option.some.inj hk
    by_cases hle : ordinal ≤ i
    · rw [if_pos hle, List.getElem?_insertIdx_of_gt (by omega)]
      rfl
    · rw [if_neg hle, List.getElem?_insertIdx_of_lt (by omega)]
  · intro i j k _ _ hik hjk
    simp only [Option.some.injEq] at hik hjk
    split at hik <;> split at hjk <;> omega

/-- A removal closes the gap at its ordinal. -/
theorem carries_eraseIdx (entries : List Reference) (ordinal : Nat) :
    Carries entries (entries.eraseIdx ordinal)
      fun i => if ordinal = i then none else some (if ordinal < i then i - 1 else i) := by
  constructor
  · intro i k _ hk
    by_cases heq : ordinal = i
    · simp [heq] at hk
    · simp only [heq, if_false, Option.some.injEq] at hk
      by_cases hlt : ordinal < i
      · obtain rfl : i - 1 = k := by rwa [if_pos hlt] at hk
        rw [List.getElem?_eraseIdx_of_ge (by omega)]
        congr 1
        omega
      · obtain rfl : i = k := by rwa [if_neg hlt] at hk
        rw [List.getElem?_eraseIdx_of_lt (by omega)]
  · intro i j k _ _ hik hjk
    simp only [Option.ite_none_left_eq_some, Option.some.injEq] at hik hjk
    obtain ⟨hi, hik⟩ := hik
    obtain ⟨hj, hjk⟩ := hjk
    split at hik <;> split at hjk <;> omega

/-- An exchange takes two entries to the place of each other. -/
theorem carries_swapped {entries : List Reference} {i j : Nat} (hi : i < entries.length)
    (hj : j < entries.length) :
    Carries entries (swapped entries i j) fun k => some (Equiv.swap i j k) := by
  constructor
  · intro k k' _ hk
    obtain rfl := Option.some.inj hk
    rw [getElem?_swapped hi hj, Equiv.swap_apply_self]
  · intro k k' m _ _ hk hk'
    exact (Equiv.swap i j).injective (Option.some.inj (hk.trans hk'.symm))

namespace Listing

/-! ## Operations -/

/-- Where the entry at an ordinal goes in a sequence of steps. -/
def followSteps (step : Listing → Option (Listing × List Notice)) :
    Nat → Listing → Nat → Option Nat
  | 0, _, ordinal => some ordinal
  | count + 1, l, ordinal =>
    match step l with
    | none => some ordinal
    | some (l', _) =>
      followSteps step count l'
        (if l.dragging && l.isOnEntry then Equiv.swap l.cursor l'.cursor ordinal else ordinal)

/-- Where an operation takes the entry at an ordinal, unless it drops it. -/
def follow? (sources : Sources) (op : ListingOp) (l : Listing) (ordinal : Nat) : Option Nat :=
  match op with
  | .load _ rootOnly => if rootOnly then some ordinal else none
  | .add _ before => some (if l.insertionPoint before ≤ ordinal then ordinal + 1 else ordinal)
  | .removeCurrent =>
    if l.cursor = ordinal then none
    else some (if l.cursor < ordinal then ordinal - 1 else ordinal)
  | .sort => some (sortedOrdinal sources.order l.entries ordinal)
  | .move count => followSteps (stepToward count) count.natAbs l ordinal
  | _ => some ordinal

/-- The steps that drop the entry at an ordinal: it is removed, or another list is loaded. -/
def Drops (l : Listing) (op : ListingOp) (ordinal : Nat) : Prop :=
  match op with
  | .load _ rootOnly => rootOnly = false
  | .removeCurrent => l.cursor = ordinal
  | _ => False

/-- The steps that may change the order of entries: sorting, and a drag by one step or more. -/
def Reorders (l : Listing) : ListingOp → Prop
  | .sort => True
  | .move count => l.dragging = true ∧ (l.move count).2.1 ≠ 0
  | _ => False

/-- A stride carries the entries along. -/
theorem Stride.carries {l l' : Listing} {notices : List Notice} (h : Stride l l' notices) :
    Carries l.entries l'.entries fun ordinal =>
      some (if l.dragging && l.isOnEntry then Equiv.swap l.cursor l'.cursor ordinal
        else ordinal) := by
  cases h with
  | drag target hdragging hentry htarget _ _ =>
    simp only [hdragging, (isOnEntry_iff l).mpr hentry, Bool.and_true, if_true]
    exact carries_swapped hentry htarget.lt_length
  | walk target hfree _ =>
    -- no entry goes along when the cursor walks
    have hno : (l.dragging && l.isOnEntry) = false := by
      rcases hfree with hfree | hfree
      · simp [hfree]
      · simp [mt (isOnEntry_iff l).mp (Nat.not_lt.mpr hfree)]
    simp only [hno]
    exact carries_some l.entries

theorem carries_followSteps {step : Listing → Option (Listing × List Notice)}
    (hstep : ∀ l l' notices, step l = some (l', notices) → Stride l l' notices) (count : Nat)
    (l : Listing) :
    Carries l.entries (steps step count l).1.entries (followSteps step count l) := by
  induction count generalizing l with
  | zero => exact carries_some l.entries
  | succ count ih =>
    cases h : step l with
    | none =>
      have hfollow : followSteps step (count + 1) l = some := by
        funext ordinal
        simp [followSteps, h]
      rw [steps_succ_of_none h, hfollow]
      exact carries_some l.entries
    | some result =>
      obtain ⟨l', notices⟩ := result
      have hfollow : followSteps step (count + 1) l = fun ordinal =>
          (some (if l.dragging && l.isOnEntry then Equiv.swap l.cursor l'.cursor ordinal
            else ordinal)).bind (followSteps step count l') := by
        funext ordinal
        simp [followSteps, h]
      rw [steps_succ_of_some h, hfollow]
      exact (hstep l l' notices h).carries.bind (ih l')

theorem followSteps_ne_none (step : Listing → Option (Listing × List Notice)) (count : Nat)
    (l : Listing) (ordinal : Nat) : followSteps step count l ordinal ≠ none := by
  induction count generalizing l ordinal with
  | zero => simp [followSteps]
  | succ count ih =>
    simp only [followSteps]
    split
    · simp
    · exact ih _ _

/-- Without a drag no step takes an entry anywhere. -/
theorem followSteps_of_not_dragging {step : Listing → Option (Listing × List Notice)}
    (hstep : ∀ l l' notices, step l = some (l', notices) → Stride l l' notices) (count : Nat)
    {l : Listing} (h : l.dragging = false) : followSteps step count l = some := by
  induction count generalizing l with
  | zero => rfl
  | succ count ih =>
    funext ordinal
    cases hl : step l with
    | none => simp [followSteps, hl]
    | some result =>
      obtain ⟨l', notices⟩ := result
      -- no stride begins a drag
      have h' : l'.dragging = false := by
        cases hstep l l' notices hl <;> exact h
      simp [followSteps, hl, h, ih h']

/-- Nor does a drag without a step. -/
theorem followSteps_of_none_taken {step : Listing → Option (Listing × List Notice)} {count : Nat}
    {l : Listing} (h : (steps step count l).2.1 = 0) : followSteps step count l = some := by
  funext ordinal
  cases count with
  | zero => rfl
  | succ count =>
    cases hl : step l with
    | none => simp [followSteps, hl]
    | some result => simp [steps, hl] at h

/-- **One operation** keeps entries unaltered and apart. -/
theorem carries_follow (sources : Sources) (op : ListingOp) (l : Listing) :
    Carries l.entries (perform sources op l).listing.entries (follow? sources op l) := by
  rw [perform_entries]
  cases op with
  | load root rootOnly =>
    cases rootOnly with
    | true => exact carries_some l.entries
    | false =>
      -- nothing is kept, so there is nothing to compare
      constructor <;> intros <;> simp_all [follow?]
  | add entry before => exact carries_insertIdx l.entries (l.insertionPoint before) entry
  | append entry =>
    constructor
    · rintro i k hi hk
      obtain rfl : i = k := Option.some.inj hk
      exact List.getElem?_append_left hi
    · exact (carries_some l.entries).apart
  | removeCurrent => exact carries_eraseIdx l.entries l.cursor
  | sort =>
    -- sorting goes by old ordinals, so it tells apart what looks the same
    constructor
    · intro i k hi hk
      obtain rfl := Option.some.inj hk
      exact getElem?_sortedOrdinal hi
    · intro i j k hi hj hik hjk
      exact sortedOrdinal_injective hi hj (Option.some.inj (hik.trans hjk.symm))
  | move count =>
    simp only [move_eq_steps]
    exact carries_followSteps (fun _ _ _ => stride_of_stepToward) count.natAbs l
  | _ => exact carries_some l.entries

/-- An operation that does not reorder keeps entries in order. -/
theorem inOrder_follow {l : Listing} {op : ListingOp} (h : ¬ Reorders l op) (sources : Sources) :
    InOrder l.entries.length (follow? sources op l) := by
  cases op with
  | load root rootOnly =>
    cases rootOnly with
    | true => exact inOrder_some _
    | false =>
      intro i j i' j' _ _ hi
      simp [follow?] at hi
  | add entry before =>
    intro i j i' j' hij _ hi hj
    simp only [follow?, Option.some.injEq] at hi hj
    split at hi <;> split at hj <;> omega
  | removeCurrent =>
    intro i j i' j' hij _ hi hj
    simp only [follow?, Option.ite_none_left_eq_some, Option.some.injEq] at hi hj
    obtain ⟨hine, hi⟩ := hi
    obtain ⟨hjne, hj⟩ := hj
    split at hi <;> split at hj <;> omega
  | sort => exact absurd trivial h
  | move count =>
    -- a move that does not reorder takes no entry along, for want of a drag or of a step
    have hstill : followSteps (stepToward count) count.natAbs l = some := by
      by_cases hdragging : l.dragging = true
      · have htaken : (l.move count).2.1 = 0 := by
          by_contra hne
          exact h ⟨hdragging, hne⟩
        simp only [move_eq_steps] at htaken
        refine followSteps_of_none_taken ?_
        split at htaken <;> omega
      · exact followSteps_of_not_dragging (fun _ _ _ => stride_of_stepToward) _
          (by simpa using hdragging)
    have hfollow : follow? sources (.move count) l = some := hstill
    rw [hfollow]
    exact inOrder_some _
  | _ => exact inOrder_some _

theorem follow?_eq_none_iff (sources : Sources) (op : ListingOp) (l : Listing) (ordinal : Nat) :
    follow? sources op l ordinal = none ↔ Drops l op ordinal := by
  cases op with
  | load root rootOnly => cases rootOnly <;> simp [follow?, Drops]
  | removeCurrent => simp [follow?, Drops]
  | move count =>
    exact iff_of_false (followSteps_ne_none (stepToward count) count.natAbs l ordinal) id
  | _ => simp [follow?, Drops]

/-! ## Runs -/

/-- Where a run takes the entry at an ordinal, unless it drops it. -/
def followRun? : List (Sources × ListingOp) → Listing → Nat → Option Nat
  | [], _, ordinal => some ordinal
  | (sources, op) :: steps, l, ordinal =>
    (follow? sources op l ordinal).bind (followRun? steps (perform sources op l).listing)

/-- A run keeps entries unaltered and apart. -/
theorem carries_followRun (steps : List (Sources × ListingOp)) (l : Listing) :
    Carries l.entries (runSteps steps l).entries (followRun? steps l) := by
  induction steps generalizing l with
  | nil => exact carries_some l.entries
  | cons step steps ih =>
    obtain ⟨sources, op⟩ := step
    exact (carries_follow sources op l).bind (ih _)

/-- A run without sorting and drags keeps entries in order. -/
theorem inOrder_followRun {steps : List (Sources × ListingOp)} {l : Listing}
    (h : EveryStep (fun l _ op => ¬ Reorders l op) steps l) :
    InOrder l.entries.length (followRun? steps l) := by
  induction steps generalizing l with
  | nil => exact inOrder_some _
  | cons step steps ih =>
    obtain ⟨sources, op⟩ := step
    rw [everyStep_cons] at h
    exact InOrder.bind (carries_follow sources op l) (inOrder_follow h.1 sources) (ih h.2)

/-- A run drops an entry exactly if one of its steps drops it from where it stands by then. -/
theorem followRun?_eq_none_iff (steps : List (Sources × ListingOp)) (l : Listing) (ordinal : Nat) :
    followRun? steps l ordinal = none ↔
      ∃ before sources op after now, steps = before ++ (sources, op) :: after ∧
        followRun? before l ordinal = some now ∧ Drops (runSteps before l) op now := by
  induction steps generalizing l ordinal with
  | nil => simp [followRun?]
  | cons step steps ih =>
    obtain ⟨sources, op⟩ := step
    constructor
    · intro hnone
      -- the first step drops the entry, or takes it to where a later step drops it
      cases hnext : follow? sources op l ordinal with
      | none =>
        exact ⟨[], sources, op, steps, ordinal, rfl, rfl,
          (follow?_eq_none_iff sources op l ordinal).mp hnext⟩
      | some next =>
        have hrest : followRun? steps (perform sources op l).listing next = none := by
          simpa [followRun?, hnext] using hnone
        obtain ⟨before, s, o, after, now, rfl, hnow, hdrops⟩ := (ih _ _).mp hrest
        exact ⟨(sources, op) :: before, s, o, after, now, rfl, by simp [followRun?, hnext, hnow],
          hdrops⟩
    · rintro ⟨before, s, o, after, now, hsplit, hnow, hdrops⟩
      cases before with
      | nil =>
        obtain ⟨hstep, -⟩ := List.cons.inj hsplit
        obtain ⟨rfl, rfl⟩ := Prod.mk.inj hstep
        obtain rfl : ordinal = now := Option.some.inj hnow
        have hnone := (follow?_eq_none_iff sources op l ordinal).mpr hdrops
        simp [followRun?, hnone]
      | cons first before =>
        obtain ⟨rfl, hrest⟩ := List.cons.inj hsplit
        obtain ⟨next, hnext, hnow⟩ := Option.bind_eq_some_iff.mp hnow
        have hnone := (ih (perform sources op l).listing next).mpr
          ⟨before, s, o, after, now, hrest, hnow, hdrops⟩
        simp [followRun?, hnext, hnone]

end Listing

end Bouquet
