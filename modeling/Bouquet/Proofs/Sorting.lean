import Bouquet.Listing.Edit

/-!
# Where Sorting Takes an Entry

Sorting carries every entry together with its old ordinal, so that an entry is told from others
that look the same. The place of an old ordinal among the sorted pairs is where its entry stands
afterwards.

## Main definitions

- `Listing.sortedOrdinal`: the new ordinal of the entry at an old one

## Main statements

- `Listing.sorted_perm`: sorting permutes the entries
- `Listing.getElem?_sortedOrdinal`: the entry is found at its new ordinal
-/

namespace Bouquet.Listing

variable (order : Reference → Reference → Ordering) (entries : List Reference)

/-- Where the entry at an ordinal stands after sorting. -/
def sortedOrdinal (ordinal : Nat) : Nat :=
  (sortedPairs order entries).findIdx fun entry => entry.2 == ordinal

@[simp]
theorem length_sortedPairs : (sortedPairs order entries).length = entries.length := by
  simp [sortedPairs]

variable {order entries}

theorem mem_sortedPairs {pair : Reference × Nat} :
    pair ∈ sortedPairs order entries ↔ entries[pair.2]? = some pair.1 := by
  rw [sortedPairs, List.mem_mergeSort, List.mem_zipIdx_iff_getElem?]

variable (order entries) in
/-- Sorting permutes the entries. -/
theorem sorted_perm : ((sortedPairs order entries).map (·.1)).Perm entries := by
  have hperm : (sortedPairs order entries).Perm entries.zipIdx := List.mergeSort_perm ..
  simpa using hperm.map (·.1)

private theorem exists_pair_of_lt {ordinal : Nat} (h : ordinal < entries.length) :
    ∃ pair ∈ sortedPairs order entries, (pair.2 == ordinal) = true :=
  ⟨(entries[ordinal], ordinal), mem_sortedPairs.mpr (List.getElem?_eq_getElem h), by simp⟩

theorem sortedOrdinal_lt {ordinal : Nat} (h : ordinal < entries.length) :
    sortedOrdinal order entries ordinal < entries.length := by
  rw [← length_sortedPairs order entries]
  exact List.findIdx_lt_length_of_exists (exists_pair_of_lt h)

/-- At its new ordinal an entry stands with its old ordinal. -/
theorem getElem?_sortedPairs_sortedOrdinal {ordinal : Nat} (h : ordinal < entries.length) :
    (sortedPairs order entries)[sortedOrdinal order entries ordinal]?
      = (entries[ordinal]?).map fun e => (e, ordinal) := by
  -- the pair found carries the old ordinal, and pairs are entries with their old ordinals
  have hlt : sortedOrdinal order entries ordinal < (sortedPairs order entries).length := by
    rw [length_sortedPairs]
    exact sortedOrdinal_lt h
  have hfound : ((sortedPairs order entries)[sortedOrdinal order entries ordinal]).2 = ordinal :=
    beq_iff_eq.mp (List.findIdx_getElem (w := hlt))
  have hentry := mem_sortedPairs.mp (List.getElem_mem hlt)
  rw [hfound] at hentry
  rw [List.getElem?_eq_getElem hlt, hentry, Option.map_some]
  exact congrArg some (Prod.ext rfl hfound)

/-- An entry is found at its new ordinal. -/
theorem getElem?_sortedOrdinal {ordinal : Nat} (h : ordinal < entries.length) :
    ((sortedPairs order entries).map (·.1))[sortedOrdinal order entries ordinal]?
      = entries[ordinal]? := by
  rw [List.getElem?_map, getElem?_sortedPairs_sortedOrdinal h, List.getElem?_eq_getElem h]
  rfl

/-- Different entries come to stand at different ordinals. -/
theorem sortedOrdinal_injective {i j : Nat} (hi : i < entries.length) (hj : j < entries.length)
    (h : sortedOrdinal order entries i = sortedOrdinal order entries j) : i = j := by
  -- at one place there is one pair, and with it one old ordinal
  have hpair : (entries[i]?).map (fun e => (e, i)) = (entries[j]?).map fun e => (e, j) := by
    rw [← getElem?_sortedPairs_sortedOrdinal hi, h, getElem?_sortedPairs_sortedOrdinal hj]
  rw [List.getElem?_eq_getElem hi, List.getElem?_eq_getElem hj] at hpair
  simpa using congrArg (Option.map Prod.snd) hpair

/-- The end of the list stays the end of the list. -/
theorem sortedOrdinal_of_length_le {ordinal : Nat} (h : entries.length ≤ ordinal) :
    sortedOrdinal order entries ordinal = entries.length := by
  rw [sortedOrdinal, List.findIdx_eq_length_of_false, length_sortedPairs]
  -- no pair carries an ordinal beyond the list
  intro pair hpair
  have hlt := (List.getElem?_eq_some_iff.mp (mem_sortedPairs.mp hpair)).1
  simp
  omega

end Bouquet.Listing
