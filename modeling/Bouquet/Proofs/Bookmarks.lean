import Bouquet.Listing.Bookmark
import Bouquet.Proofs.ReferenceOrder
import Bouquet.Proofs.Rows

/-!
# Laws of Bookmarks

What is read back after a bookmark was kept or used up, and where a bookmark leads in a list that
may have been edited since.

## Main definitions

- `Bookmark.Leads`: the four cases of going back

## Main statements

- `Bookmarks.get?_put`, `Bookmarks.get?_use`: the kept bookmarks as a table
- `Bookmark.resolve_eq_iff`: a bookmark is resolved by these four cases and no other
-/

namespace Bouquet

/-! ## References that name the same entry -/

/-- Visibility belongs to the identity. -/
theorem Reference.isVisible_of_same {r s : Reference} (h : r.same s = true) :
    s.isVisible = r.isVisible := by
  rw [Reference.same_iff] at h
  simp [Reference.isVisible, Reference.isInvisible, Reference.flags, h]

namespace Bookmarks

/-! ## The table -/

@[simp]
theorem get?_empty (key : BookmarkKey) : empty.get? key = none := by
  cases key <;> rfl

private theorem find?_line_filter_ne {number other : Int} (h : other ≠ number)
    (lines : List (Int × Bookmark)) :
    (lines.filter fun kept => kept.1 != number).find? (fun kept => kept.1 == other)
      = lines.find? fun kept => kept.1 == other := by
  rw [List.find?_filter]
  congr 1
  funext kept
  -- the lines that were filtered out are not those that are looked for
  by_cases hkept : kept.1 = other
  · simp [hkept, h]
  · simp [hkept]

/-- The last bookmark kept under a key is the one under it, and no other key is affected. -/
theorem get?_put (b : Bookmarks) (mark : Bookmark) (key other : BookmarkKey) :
    (b.put mark key).get? other = if other = key then some mark else b.get? other := by
  cases key with
  | single =>
    cases other with
    | single => simp [put, get?]
    | line other => simp [put, get?]
  | line number =>
    cases other with
    | single => simp [put, get?]
    | line other =>
      by_cases h : other = number
      · simp [put, get?, h]
      · -- the new bookmark stands first but under the other line
        have hfirst : (number == other) = false := by simpa using Ne.symm h
        simp only [put, get?, List.find?_cons, hfirst, find?_line_filter_ne h,
          BookmarkKey.line.injEq, h, if_false]

/-- Going back uses up the bookmark without a line and no other. -/
theorem get?_use (b : Bookmarks) (key other : BookmarkKey) :
    (b.use key).get? other
      = if key = .single ∧ other = .single then none else b.get? other := by
  cases key with
  | single => cases other <;> simp [use, get?]
  | line number => simp [use]

end Bookmarks

namespace Bookmark

/-! ## Where a bookmark leads -/

/-- A bookmark of the end of the list leads to the end of the list. -/
theorem resolve_of_end {mark : Bookmark} (h : mark.entry = none) (entries : List Reference) :
    mark.resolve entries = entries.length := by
  simp [resolve, h]

/-- An entry that stands where it was kept is found there. -/
theorem resolve_of_stays {mark : Bookmark} {e x : Reference} {entries : List Reference}
    (he : mark.entry = some e) (hx : entries[mark.ordinal]? = some x) (hsame : e.same x = true) :
    mark.resolve entries = mark.ordinal := by
  simp [resolve, he, hx, hsame]

/-- An entry that left its ordinal is found at its first place. -/
theorem resolve_of_moved {mark : Bookmark} {e x : Reference} {entries : List Reference} {i : Nat}
    (he : mark.entry = some e)
    (hleft : ∀ y, entries[mark.ordinal]? = some y → e.same y = false)
    (hx : entries[i]? = some x) (hsame : e.same x = true)
    (hfirst : ∀ k y, k < i → entries[k]? = some y → e.same y = false) :
    mark.resolve entries = i := by
  have hstay : (entries[mark.ordinal]?).any e.same = false := by
    cases hy : entries[mark.ordinal]? with
    | none => rfl
    | some y => exact hleft y hy
  obtain ⟨hi, rfl⟩ := List.getElem?_eq_some_iff.mp hx
  have hfind : entries.findIdx? e.same = some i := by
    rw [List.findIdx?_eq_some_iff_getElem]
    refine ⟨hi, hsame, fun k hk => ?_⟩
    simp [hfirst k entries[k] hk (List.getElem?_eq_getElem (by omega))]
  simp [resolve, he, hstay, hfind]

/-- An entry that is no longer listed leaves its ordinal, or the end of a list that is shorter. -/
theorem resolve_of_lost {mark : Bookmark} {e : Reference} {entries : List Reference}
    (he : mark.entry = some e) (hlost : ∀ x ∈ entries, e.same x = false) :
    mark.resolve entries = min mark.ordinal entries.length := by
  have hstay : (entries[mark.ordinal]?).any e.same = false := by
    cases hy : entries[mark.ordinal]? with
    | none => rfl
    | some y => exact hlost y (List.mem_of_getElem? hy)
  have hfind : entries.findIdx? e.same = none := by
    rw [List.findIdx?_eq_none_iff]
    exact hlost
  simp [resolve, he, hstay, hfind]

/-- Where a bookmark leads in a list. -/
inductive Leads (mark : Bookmark) (entries : List Reference) : Nat → Prop where
  /-- From the end of the list to the end of the list. -/
  | toEnd (hend : mark.entry = none) : Leads mark entries entries.length
  /-- To the same ordinal while the entry stands there. -/
  | stays (e x : Reference) (he : mark.entry = some e) (hx : entries[mark.ordinal]? = some x)
      (hsame : e.same x = true) : Leads mark entries mark.ordinal
  /-- To the first place of the entry once it has left its ordinal. -/
  | moved (e x : Reference) (i : Nat) (he : mark.entry = some e)
      (hleft : ∀ y, entries[mark.ordinal]? = some y → e.same y = false)
      (hx : entries[i]? = some x) (hsame : e.same x = true)
      (hfirst : ∀ k y, k < i → entries[k]? = some y → e.same y = false) : Leads mark entries i
  /-- To the same ordinal, but not beyond the end, once the entry is gone. -/
  | lost (e : Reference) (he : mark.entry = some e) (hlost : ∀ x ∈ entries, e.same x = false) :
      Leads mark entries (min mark.ordinal entries.length)

/-- A bookmark is resolved to the one place where it leads. -/
theorem resolve_eq_iff (mark : Bookmark) (entries : List Reference) (ordinal : Nat) :
    mark.resolve entries = ordinal ↔ mark.Leads entries ordinal := by
  constructor
  · rintro rfl
    cases he : mark.entry with
    | none =>
      rw [resolve_of_end he]
      exact .toEnd he
    | some e =>
      by_cases hlisted : ∃ x ∈ entries, e.same x = true
      · by_cases hstay : (entries[mark.ordinal]?).any e.same = true
        · obtain ⟨x, hx, hsame⟩ := (Option.any_eq_true ..).mp hstay
          rw [resolve_of_stays he hx hsame]
          exact .stays e x he hx hsame
        · -- the entry is listed elsewhere, and the search finds the first such place
          have hfind := List.findIdx?_eq_some_of_exists hlisted
          obtain ⟨hlt, hsame, hbefore⟩ := List.findIdx?_eq_some_iff_getElem.mp hfind
          have hresolve : mark.resolve entries = entries.findIdx e.same := by
            simp [resolve, he, hstay, hfind]
          rw [hresolve]
          refine .moved e _ _ he (fun y hy => ?_) (List.getElem?_eq_getElem hlt) hsame ?_
          · simpa [hy] using hstay
          · intro k y hk hy
            obtain ⟨hklt, rfl⟩ := List.getElem?_eq_some_iff.mp hy
            simpa using hbefore k hk
      · have hlost : ∀ x ∈ entries, e.same x = false := by simpa using hlisted
        rw [resolve_of_lost he hlost]
        exact .lost e he hlost
  · intro hleads
    cases hleads with
    | toEnd hend => exact resolve_of_end hend entries
    | stays e x he hx hsame => exact resolve_of_stays he hx hsame
    | moved e x i he hleft hx hsame hfirst => exact resolve_of_moved he hleft hx hsame hfirst
    | lost e he hlost => exact resolve_of_lost he hlost

end Bookmark

end Bouquet
