import Bouquet.Proofs.Occurrences
import Mathlib.Data.List.Nodup
import Mathlib.Data.List.Sigma

/-!
# Sorting is Stable

Sorting by an order that ranks all entries puts them in this order, and leaves those of one rank as
they stood. Where an entry comes to stand is therefore known from the list alone, also among entries
that look the same and rank the same, and the cursor goes to that place.

## Main statements

- `Listing.sortedOrdinal_lt_iff`: which of two entries comes first after sorting
- `Listing.sortedPairs_of_pairwise`: sorting leaves an ordered list alone
- `Listing.sort_stable`: the laws of sorting
-/

namespace Bouquet.Listing

open Std (OrientedCmp TransCmp)

variable {order : Reference → Reference → Ordering} {entries : List Reference}

/-! ## Ranks -/

section Ranks

variable [TransCmp order]

theorem ne_gt_trans {a b c : Reference} (hab : order a b ≠ .gt) (hbc : order b c ≠ .gt) :
    order a c ≠ .gt := by
  rw [ne_eq, Ordering.ne_gt_iff_isLE] at hab hbc ⊢
  exact TransCmp.isLE_trans hab hbc

theorem ne_gt_total (a b : Reference) : order a b ≠ .gt ∨ order b a ≠ .gt := by
  have hswap : order b a = (order a b).swap := OrientedCmp.eq_swap
  rw [hswap]
  cases order a b <;> simp

end Ranks

/-! ## Places of pairs -/

theorem nodup_sortedPairs (order : Reference → Reference → Ordering) (entries : List Reference) :
    (sortedPairs order entries).Nodup := by
  have hperm : (sortedPairs order entries).Perm entries.zipIdx := List.mergeSort_perm ..
  rw [hperm.nodup_iff]
  exact List.Nodup.of_map _ (List.nodup_zipIdx_map_snd entries)

/-- An entry stands where its old ordinal is found. -/
theorem sortedOrdinal_eq {ordinal place : Nat} {e : Reference}
    (h : (sortedPairs order entries)[place]? = some (e, ordinal)) :
    sortedOrdinal order entries ordinal = place := by
  have hentry : entries[ordinal]? = some e := mem_sortedPairs.mp (List.mem_of_getElem? h)
  have hlt := (List.getElem?_eq_some_iff.mp hentry).1
  -- the pair is also found where its ordinal leads, and no pair stands twice
  have hfound : (sortedPairs order entries)[sortedOrdinal order entries ordinal]?
      = (entries[ordinal]?).map fun e => (e, ordinal) := getElem?_sortedPairs_sortedOrdinal hlt
  rw [hentry, Option.map_some, ← h] at hfound
  refine (List.getElem?_inj ?_ (nodup_sortedPairs order entries)).mp hfound
  rw [length_sortedPairs]
  exact sortedOrdinal_lt hlt

section Ordered

variable [TransCmp order]

variable (order entries) in
theorem pairwise_sortedPairs :
    (sortedPairs order entries).Pairwise fun a b => order a.1 b.1 ≠ .gt := by
  have hpairwise : (sortedPairs order entries).Pairwise fun a b => order a.1 b.1 != .gt :=
    List.pairwise_mergeSort (fun a b c => by simpa using ne_gt_trans)
      (fun a b => by simpa using ne_gt_total a.1 b.1) entries.zipIdx
  exact hpairwise.imp fun h => by simpa using h

/-- An entry stays before a later one that does not rank below it. -/
theorem sortedOrdinal_lt_of_ne_gt {i j : Nat} {a b : Reference} (hij : i < j)
    (hi : entries[i]? = some a) (hj : entries[j]? = some b) (hle : order a b ≠ .gt) :
    sortedOrdinal order entries i < sortedOrdinal order entries j := by
  obtain ⟨hilt, rfl⟩ := List.getElem?_eq_some_iff.mp hi
  obtain ⟨hjlt, rfl⟩ := List.getElem?_eq_some_iff.mp hj
  -- the two pairs stand in this order before sorting, and so after it
  have hbefore : [(entries[i], i), (entries[j], j)].Sublist entries.zipIdx := by
    have hplaces : ([⟨i, by simpa using hilt⟩, ⟨j, by simpa using hjlt⟩] :
        List (Fin entries.zipIdx.length)).Pairwise (· < ·) := by simpa using hij
    simpa using List.map_getElem_sublist hplaces
  have hafter : [(entries[i], i), (entries[j], j)].Sublist (sortedPairs order entries) :=
    List.pair_sublist_mergeSort (fun a b c => by simpa using ne_gt_trans)
      (fun a b => by simpa using ne_gt_total a.1 b.1) (by simpa using hle) hbefore
  -- a sublist has ascending places, and with its ordinal a pair has only one
  obtain ⟨places, hplaces, hpairwise⟩ := List.sublist_eq_map_getElem hafter
  obtain ⟨k, rest, rfl, hk, hrest⟩ := List.map_eq_cons_iff.mp hplaces.symm
  obtain ⟨m, _, rfl, hm, -⟩ := List.map_eq_cons_iff.mp hrest
  have hki : sortedOrdinal order entries i = k :=
    sortedOrdinal_eq (List.getElem?_eq_some_iff.mpr ⟨k.isLt, hk⟩)
  have hmj : sortedOrdinal order entries j = m :=
    sortedOrdinal_eq (List.getElem?_eq_some_iff.mpr ⟨m.isLt, hm⟩)
  rw [hki, hmj]
  exact (List.pairwise_cons.mp hpairwise).1 m (by simp)

/-- Of two entries the one that stood first comes first after sorting, unless the other one ranks
below it. -/
theorem sortedOrdinal_lt_iff {i j : Nat} {a b : Reference} (hij : i < j)
    (hi : entries[i]? = some a) (hj : entries[j]? = some b) :
    sortedOrdinal order entries i < sortedOrdinal order entries j ↔ order a b ≠ .gt := by
  refine ⟨fun hlt => ?_, sortedOrdinal_lt_of_ne_gt hij hi hj⟩
  have hilt := (List.getElem?_eq_some_iff.mp hi).1
  have hjlt := (List.getElem?_eq_some_iff.mp hj).1
  have hpi : (sortedPairs order entries)[sortedOrdinal order entries i]? = some (a, i) := by
    rw [getElem?_sortedPairs_sortedOrdinal hilt, hi, Option.map_some]
  have hpj : (sortedPairs order entries)[sortedOrdinal order entries j]? = some (b, j) := by
    rw [getElem?_sortedPairs_sortedOrdinal hjlt, hj, Option.map_some]
  obtain ⟨hpilt, hpi⟩ := List.getElem?_eq_some_iff.mp hpi
  obtain ⟨hpjlt, hpj⟩ := List.getElem?_eq_some_iff.mp hpj
  have hranked :=
    List.pairwise_iff_getElem.mp (pairwise_sortedPairs order entries) _ _ hpilt hpjlt hlt
  rwa [hpi, hpj] at hranked

end Ordered

/-! ## Ordered lists -/

variable (order) in
/-- An ordered list stays as it is. -/
theorem sortedPairs_of_pairwise (h : entries.Pairwise fun a b => order a b ≠ .gt) :
    sortedPairs order entries = entries.zipIdx := by
  refine List.mergeSort_of_pairwise ?_
  have hzip : (entries.zipIdx.map Prod.fst).Pairwise fun a b => order a b ≠ .gt := by
    rwa [List.zipIdx_map_fst]
  rw [List.pairwise_map] at hzip
  exact hzip.imp fun hab => by simpa using hab

/-- In an ordered list every entry stays in its place, and the end of the list stays the end. -/
theorem sortedOrdinal_of_pairwise (h : entries.Pairwise fun a b => order a b ≠ .gt) {ordinal : Nat}
    (hle : ordinal ≤ entries.length) : sortedOrdinal order entries ordinal = ordinal := by
  rcases Nat.lt_or_eq_of_le hle with hlt | rfl
  · refine sortedOrdinal_eq (e := entries[ordinal]) ?_
    rw [sortedPairs_of_pairwise order h]
    simp [hlt]
  · exact sortedOrdinal_of_length_le (Nat.le_refl _)

/-! ## The laws of sorting -/

/-- **Sorting** by an order that ranks all entries permutes them into this order. Every entry has a
place of its own afterwards, and of two entries the one that stood first comes first unless the
other one ranks below it, so entries of one rank keep their order. The cursor goes to the place of
the entry that it was on, or stays at the end of the list. The view is told once that the list has
changed, nothing else changes, and sorting again changes nothing at all. -/
theorem sort_stable (sources : Sources) [TransCmp sources.order] (l : Listing) :
    let reply := perform sources .sort l
    let l' := reply.listing
    l'.entries.Perm l.entries ∧
      l'.entries.Pairwise (fun a b => sources.order a b ≠ .gt) ∧
      (∃ place : Nat → Nat,
        Carries l.entries l'.entries (fun ordinal => some (place ordinal)) ∧
        (∀ i j a b, i < j → l.entries[i]? = some a → l.entries[j]? = some b →
          (place i < place j ↔ sources.order a b ≠ .gt)) ∧
        (l.cursor < l.size → l'.cursor = place l.cursor)) ∧
      (l.size ≤ l.cursor → l'.cursor = l'.size) ∧
      rowCount l'.entries = rowCount l.entries ∧
      l' = { l with entries := l'.entries, cursor := l'.cursor } ∧
      reply.notices = [.reset false] ∧ reply.moves = [] ∧
      (perform sources .sort l').listing = l' := by
  intro reply l'
  have hperm : l'.entries.Perm l.entries := sorted_perm sources.order l.entries
  have hpairwise : l'.entries.Pairwise fun a b => sources.order a b ≠ .gt :=
    List.pairwise_map.mpr (pairwise_sortedPairs sources.order l.entries)
  have hend : l.size ≤ l.cursor → l'.cursor = l'.size := by
    intro hle
    rw [size, hperm.length_eq]
    exact sortedOrdinal_of_length_le hle
  have hcarries := carries_follow sources .sort l
  refine ⟨hperm, hpairwise, ⟨sortedOrdinal sources.order l.entries, hcarries,
    fun i j a b => sortedOrdinal_lt_iff, fun _ => rfl⟩, hend, hperm.countP_eq _, rfl, rfl, rfl, ?_⟩
  -- in the sorted list every entry has its place, the one at the cursor as well
  have hcursor : l'.cursor ≤ l'.entries.length := by
    by_cases hlt : l.cursor < l.entries.length
    · rw [hperm.length_eq]
      exact Nat.le_of_lt (sortedOrdinal_lt hlt)
    · exact Nat.le_of_eq (hend (Nat.not_lt.mp hlt))
  have hentries : (sortedPairs sources.order l'.entries).map (·.1) = l'.entries := by
    rw [sortedPairs_of_pairwise sources.order hpairwise, List.zipIdx_map_fst]
  have hplace := sortedOrdinal_of_pairwise hpairwise hcursor
  show { l' with
      entries := (sortedPairs sources.order l'.entries).map (·.1)
      cursor := sortedOrdinal sources.order l'.entries l'.cursor } = l'
  rw [hentries, hplace]

/-- Sources that order entries by their channel numbers, those without one first. -/
def byNumber : Sources :=
  { Sources.silent with order := compareOn Reference.number }

instance : TransCmp byNumber.order :=
  inferInstanceAs (TransCmp (compareOn Reference.number))

/-- One service listed three times, once with a channel number. The cursor is on the last one. -/
def amongDuplicates : Listing :=
  { empty with
    entries := [{ shownEntry with number := some 7 }, shownEntry, hiddenEntry, shownEntry]
    cursor := 3 }

theorem sortedPairs_amongDuplicates :
    sortedPairs byNumber.order amongDuplicates.entries
      = [(shownEntry, 1), (hiddenEntry, 2), (shownEntry, 3),
        ({ shownEntry with number := some 7 }, 0)] := by
  simp [sortedPairs, amongDuplicates, List.mergeSort, byNumber, compareOn, shownEntry, hiddenEntry,
    compare, compareOfLessAndEq, Reference.plain]

/-- The cursor stays on the second of two entries that cannot be told apart by what they are. -/
theorem sort_stable_amongDuplicates :
    TransCmp byNumber.order ∧
      let l' := (perform byNumber .sort amongDuplicates).listing
      l'.entries.Pairwise (fun a b => byNumber.order a b ≠ .gt) ∧
        l'.entries = [shownEntry, hiddenEntry, shownEntry, { shownEntry with number := some 7 }] ∧
        l'.cursor = 2 ∧ (perform byNumber .sort l').listing = l' := by
  obtain ⟨-, hpairwise, -, -, -, -, -, -, hagain⟩ := sort_stable byNumber amongDuplicates
  refine ⟨inferInstance, hpairwise, ?_, ?_, hagain⟩
  · show (sortedPairs byNumber.order amongDuplicates.entries).map (·.1) = _
    rw [sortedPairs_amongDuplicates]
    rfl
  · show (sortedPairs byNumber.order amongDuplicates.entries).findIdx (fun pair => pair.2 == 3) = 2
    rw [sortedPairs_amongDuplicates]
    rfl

end Bouquet.Listing
