import Bouquet.Listing.Edit
import Bouquet.Proofs.RowOrdinals

/-!
# Guarded Access to Lists

An entry can be read, removed or exchanged only at an ordinal at which one stands, and inserted only
at one that does not leave a gap. A guarded access fails elsewhere, and a guarded search looks at
the entries of a list one by one through such accesses. In this way of searching nothing fails, and
it finds what the searches of `Bouquet.Listing.Rows` find.

## Main definitions

- `OutOfRange`, `Guarded`: how an access fails, and what may fail so
- `Guarded.entryAt`, `Guarded.front`, `Guarded.inserted`, `Guarded.removed`, `Guarded.exchanged`:
  access to a list
- `Guarded.difference`, `Guarded.remainder`, `Guarded.ranked`: arithmetic and sorting
- `Guarded.scan`: a search through guarded accesses

## Main statements

- `Guarded.scan_eq`: a search among ordinals in range
- `Guarded.firstVisibleFrom_eq`, `Guarded.nextVisible?_eq`, `Guarded.lastVisibleBefore?_eq`,
  `Guarded.rowOf_eq`: guarded searches and row numbers
-/

namespace Bouquet

/-- Why an access to a list or a computation with ordinals fails. -/
inductive OutOfRange where
  /-- No entry stands at the ordinal. -/
  | entry (ordinal size : Nat)
  /-- The list has no front part of so many entries. -/
  | front (count size : Nat)
  /-- An insertion would leave a gap. -/
  | insertion (ordinal size : Nat)
  /-- There is no entry to remove. -/
  | removal (ordinal size : Nat)
  /-- There are no two entries to exchange. -/
  | exchange (i j size : Nat)
  /-- A difference would be below zero. -/
  | difference (a b : Nat)
  /-- There is no remainder by zero. -/
  | remainder (a : Nat)
  /-- The order does not rank the entries that are to be sorted by it. -/
  | ranking
  deriving DecidableEq

/-- What fails where an ordinal is out of range. -/
abbrev Guarded := Except OutOfRange

/-- An order ranks the entries of a list: any two of them compare one way, and ranks add up. -/
def Ranks (order : Reference → Reference → Ordering) (entries : List Reference) : Prop :=
  ∀ a ∈ entries, ∀ b ∈ entries, order a b = (order b a).swap ∧
    ∀ c ∈ entries, (order a b).isLE = true → (order b c).isLE = true → (order a c).isLE = true

instance (order : Reference → Reference → Ordering) (entries : List Reference) :
    Decidable (Ranks order entries) :=
  inferInstanceAs (Decidable (∀ a ∈ entries, ∀ b ∈ entries, _))

/-- An order of all references ranks those of every list. -/
theorem ranks_of_transCmp (order : Reference → Reference → Ordering) [Std.TransCmp order]
    (entries : List Reference) : Ranks order entries :=
  fun _ _ _ _ => ⟨Std.OrientedCmp.eq_swap, fun _ _ => Std.TransCmp.isLE_trans⟩

namespace Guarded

/-! ## Access -/

/-- The entry at an ordinal. -/
def entryAt (entries : List Reference) (ordinal : Nat) : Guarded Reference :=
  match entries[ordinal]? with
  | some e => return e
  | none => throw (.entry ordinal entries.length)

/-- The first entries. -/
def front (entries : List Reference) (count : Nat) : Guarded (List Reference) :=
  if count ≤ entries.length then return entries.take count
  else throw (.front count entries.length)

/-- The entries with one inserted. -/
def inserted (entries : List Reference) (ordinal : Nat) (r : Reference) :
    Guarded (List Reference) :=
  if ordinal ≤ entries.length then return entries.insertIdx ordinal r
  else throw (.insertion ordinal entries.length)

/-- The entries with one removed. -/
def removed (entries : List Reference) (ordinal : Nat) : Guarded (List Reference) :=
  if ordinal < entries.length then return entries.eraseIdx ordinal
  else throw (.removal ordinal entries.length)

/-- The entries with two exchanged. -/
def exchanged (entries : List Reference) (i j : Nat) : Guarded (List Reference) :=
  if i < entries.length ∧ j < entries.length then return swapped entries i j
  else throw (.exchange i j entries.length)

/-- The difference of two numbers. -/
def difference (a b : Nat) : Guarded Nat :=
  if b ≤ a then return a - b else throw (.difference a b)

/-- The remainder of a division. -/
def remainder (a b : Nat) : Guarded Nat :=
  if b = 0 then throw (.remainder a) else return a % b

/-- The entries with their ordinals, stably sorted by an order that ranks them. -/
def ranked (order : Reference → Reference → Ordering) (entries : List Reference) :
    Guarded (List (Reference × Nat)) :=
  if Ranks order entries then return Listing.sortedPairs order entries else throw .ranking

variable {entries : List Reference}

theorem entryAt_eq {ordinal : Nat} {e : Reference} (h : entries[ordinal]? = some e) :
    entryAt entries ordinal = pure e := by
  rw [entryAt, h]

theorem front_eq {count : Nat} (h : count ≤ entries.length) :
    front entries count = pure (entries.take count) :=
  if_pos h

theorem inserted_eq {ordinal : Nat} (h : ordinal ≤ entries.length) (r : Reference) :
    inserted entries ordinal r = pure (entries.insertIdx ordinal r) :=
  if_pos h

theorem removed_eq {ordinal : Nat} (h : ordinal < entries.length) :
    removed entries ordinal = pure (entries.eraseIdx ordinal) :=
  if_pos h

theorem exchanged_eq {i j : Nat} (hi : i < entries.length) (hj : j < entries.length) :
    exchanged entries i j = pure (swapped entries i j) :=
  if_pos ⟨hi, hj⟩

theorem difference_eq {a b : Nat} (h : b ≤ a) : difference a b = pure (a - b) :=
  if_pos h

theorem remainder_eq {b : Nat} (a : Nat) (h : b ≠ 0) : remainder a b = pure (a % b) :=
  if_neg h

theorem ranked_eq {order : Reference → Reference → Ordering} (h : Ranks order entries) :
    ranked order entries = pure (Listing.sortedPairs order entries) :=
  if_pos h

/-! ## Searches -/

/-- Computes one ordinal after the other and looks at its entry, up to the first that passes a
test. -/
def scan (entries : List Reference) (test : Reference → Bool) (ordinalOf : Nat → Guarded Nat) :
    List Nat → Guarded (Option Nat)
  | [] => return none
  | k :: ks => do
    let ordinal ← ordinalOf k
    let e ← entryAt entries ordinal
    if test e then return some ordinal else scan entries test ordinalOf ks

/-- A search whose ordinals are all in range finds the first entry that passes the test. -/
theorem scan_eq (test : Reference → Bool) {ordinalOf : Nat → Guarded Nat} (place : Nat → Nat)
    {ks : List Nat} (h : ∀ k ∈ ks, ordinalOf k = pure (place k) ∧ place k < entries.length) :
    scan entries test ordinalOf ks
      = pure ((ks.map place).find? fun ordinal => (entries[ordinal]?).any test) := by
  induction ks with
  | nil => rfl
  | cons k ks ih =>
    obtain ⟨hk, hks⟩ := List.forall_mem_cons.mp h
    have hentry := List.getElem?_eq_getElem hk.2
    rw [scan, hk.1, pure_bind, entryAt_eq hentry, pure_bind, ih hks, List.map_cons, List.find?_cons,
      hentry, Option.any_some]
    cases test entries[place k] <;> rfl

/-- A search among ordinals as they are. -/
theorem scan_pure (test : Reference → Bool) {ordinals : List Nat}
    (h : ∀ ordinal ∈ ordinals, ordinal < entries.length) :
    scan entries test pure ordinals
      = pure (ordinals.find? fun ordinal => (entries[ordinal]?).any test) := by
  have hordinals : ∀ k ∈ ordinals, (pure k : Guarded Nat) = pure (id k) ∧ id k < entries.length :=
    fun k hk => ⟨rfl, h k hk⟩
  rw [scan_eq test id hordinals, List.map_id]

/-! ## Visible entries -/

/-- The first visible ordinal at or after `start`, or the end of the list. -/
def firstVisibleFrom (entries : List Reference) (start : Nat) : Guarded Nat := do
  let found ← scan entries Reference.isVisible pure
    (List.range' start (entries.length - start))
  return found.getD entries.length

/-- The first visible ordinal after `ordinal`. -/
def nextVisible? (entries : List Reference) (ordinal : Nat) : Guarded (Option Nat) :=
  scan entries Reference.isVisible pure
    (List.range' (ordinal + 1) (entries.length - (ordinal + 1)))

/-- The last visible ordinal before `ordinal`. -/
def lastVisibleBefore? (entries : List Reference) (ordinal : Nat) : Guarded (Option Nat) :=
  scan entries Reference.isVisible pure (List.range (min ordinal entries.length)).reverse

/-- The number of visible entries before an ordinal. -/
def rowOf (entries : List Reference) (ordinal : Nat) : Guarded Nat := do
  let before ← front entries (min ordinal entries.length)
  return before.countP Reference.isVisible

/-- The search for a visible entry from an ordinal to the end of the list. -/
theorem scan_visible (entries : List Reference) (start : Nat) :
    scan entries Reference.isVisible pure (List.range' start (entries.length - start))
      = pure (if Bouquet.firstVisibleFrom entries start < entries.length
          then some (Bouquet.firstVisibleFrom entries start) else none) := by
  rw [scan_pure _ fun ordinal hordinal => by rw [List.mem_range'_1] at hordinal; omega]
  split
  case isTrue hlt =>
    have hstart : start ≤ entries.length := by
      by_contra hle
      rw [firstVisibleFrom_of_length_le (by omega)] at hlt
      exact Nat.lt_irrefl _ hlt
    congr 1
    rw [List.find?_range'_eq_some, ← visibleAt_iff_any, List.mem_range'_1]
    refine ⟨visibleAt_firstVisibleFrom hlt, ⟨le_firstVisibleFrom hstart, by omega⟩, ?_⟩
    intro k hk hkt
    simpa [visibleAt_iff_any] using not_visibleAt_of_lt_firstVisibleFrom hk hkt
  case isFalse hge =>
    congr 1
    rw [List.find?_range'_eq_none]
    intro k hk hkt
    simpa [visibleAt_iff_any] using not_visibleAt_of_lt_firstVisibleFrom hk (by omega)

theorem firstVisibleFrom_eq (entries : List Reference) (start : Nat) :
    firstVisibleFrom entries start = pure (Bouquet.firstVisibleFrom entries start) := by
  rw [firstVisibleFrom, scan_visible, pure_bind]
  split
  case isTrue => rfl
  case isFalse hge =>
    have hend : entries.length = Bouquet.firstVisibleFrom entries start :=
      Nat.le_antisymm (Nat.not_lt.mp hge) (firstVisibleFrom_le_length entries start)
    rw [Option.getD_none, hend]

theorem nextVisible?_eq (entries : List Reference) (ordinal : Nat) :
    nextVisible? entries ordinal = pure (Bouquet.nextVisible? entries ordinal) :=
  scan_visible entries (ordinal + 1)

/-- Going back one ordinal at a time finds the last visible entry before. -/
theorem find?_reverse_range (entries : List Reference) (ordinal : Nat) :
    (List.range ordinal).reverse.find? (fun k => (entries[k]?).any Reference.isVisible)
      = Bouquet.lastVisibleBefore? entries ordinal := by
  induction ordinal with
  | zero => simp [Bouquet.lastVisibleBefore?_eq]
  | succ ordinal ih =>
    rw [List.range_succ, List.reverse_append, List.reverse_singleton, List.singleton_append,
      List.find?_cons, ih]
    have hlast := Bouquet.lastVisibleBefore?_eq entries (ordinal + 1)
    rw [rowOf_succ] at hlast
    by_cases hv : VisibleAt entries ordinal
    · -- the entry just before is visible, so it is the last one
      rw [(visibleAt_iff_any entries ordinal).mp hv, hlast, if_pos hv,
        if_neg (Nat.succ_ne_zero _), Nat.add_sub_cancel, rowOrdinal_rowOf hv]
    · have hany : (entries[ordinal]?).any Reference.isVisible = false := by
        simpa [visibleAt_iff_any] using hv
      rw [hany, hlast, if_neg hv]
      exact Bouquet.lastVisibleBefore?_eq entries ordinal

theorem rowOf_min (entries : List Reference) (ordinal : Nat) :
    Bouquet.rowOf entries (min ordinal entries.length) = Bouquet.rowOf entries ordinal := by
  by_cases h : ordinal ≤ entries.length
  · rw [Nat.min_eq_left h]
  · rw [Nat.min_eq_right (by omega), rowOf_of_length_le (Nat.le_refl _),
      rowOf_of_length_le (by omega)]

theorem lastVisibleBefore?_eq (entries : List Reference) (ordinal : Nat) :
    lastVisibleBefore? entries ordinal = pure (Bouquet.lastVisibleBefore? entries ordinal) := by
  rw [lastVisibleBefore?, scan_pure _ fun k hk => by simp at hk; omega, find?_reverse_range,
    Bouquet.lastVisibleBefore?_eq, Bouquet.lastVisibleBefore?_eq, rowOf_min]

theorem rowOf_eq (entries : List Reference) (ordinal : Nat) :
    rowOf entries ordinal = pure (Bouquet.rowOf entries ordinal) := by
  rw [rowOf, front_eq (Nat.min_le_right _ _), pure_bind, ← rowOf_min]
  rfl

end Guarded

end Bouquet
