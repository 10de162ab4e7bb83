import Bouquet.Listing.Rows
import Mathlib.Data.List.InsertIdx
import Mathlib.Logic.Equiv.Basic

/-!
# Rows of a List

The searches of `Bouquet.Listing.Rows` find the nearest visible ordinal, and `rowOf` numbers the
visible ordinals by their place among the visible entries.

## Main definitions

- `VisibleAt`: a visible entry stands at an ordinal

## Main statements

- `nextVisible?_eq_some`, `lastVisibleBefore?_eq_some`: what the searches find
- `getElem?_visibleEntries_rowOf`: the row of a visible entry is its place among the visible ones
- `visibleEntries_insertIdx_of_visible`, `visibleEntries_eraseIdx_of_visible`,
  `visibleEntries_set_of_visible`: an edit at a visible entry is the same edit at its row
-/

namespace Bouquet

/-! ## Visible ordinals -/

/-- A visible entry stands at an ordinal. -/
def VisibleAt (entries : List Reference) (ordinal : Nat) : Prop :=
  ∃ e, entries[ordinal]? = some e ∧ e.isVisible = true

theorem visibleAt_iff_any (entries : List Reference) (ordinal : Nat) :
    VisibleAt entries ordinal ↔ (entries[ordinal]?).any Reference.isVisible = true := by
  simp [VisibleAt, Option.any_eq_true]

instance (entries : List Reference) (ordinal : Nat) : Decidable (VisibleAt entries ordinal) :=
  decidable_of_iff _ (visibleAt_iff_any entries ordinal).symm

theorem VisibleAt.lt_length {entries : List Reference} {ordinal : Nat}
    (h : VisibleAt entries ordinal) : ordinal < entries.length := by
  obtain ⟨e, he, -⟩ := h
  exact (List.getElem?_eq_some_iff.mp he).1

theorem visibleAt_of_getElem? {entries : List Reference} {ordinal : Nat} {e : Reference}
    (he : entries[ordinal]? = some e) : VisibleAt entries ordinal ↔ e.isVisible = true := by
  simp [VisibleAt, he]

@[simp]
theorem not_visibleAt_nil (ordinal : Nat) : ¬ VisibleAt [] ordinal := by
  simp [VisibleAt]

@[simp]
theorem visibleAt_cons_zero (e : Reference) (rest : List Reference) :
    VisibleAt (e :: rest) 0 ↔ e.isVisible = true := by
  simp [VisibleAt]

@[simp]
theorem visibleAt_cons_succ (e : Reference) (rest : List Reference) (ordinal : Nat) :
    VisibleAt (e :: rest) (ordinal + 1) ↔ VisibleAt rest ordinal := by
  simp [VisibleAt]

/-- A service that is listed and not shown. -/
def hiddenEntry : Reference :=
  { identity := ⟨.service, "hidden", none, ⟨true, false⟩⟩, name := "hidden", number := none }

/-- A service that is shown. -/
def shownEntry : Reference := .plain .service "shown" "shown"

/-! ## The first visible ordinal -/

theorem firstVisibleFrom_le_length (entries : List Reference) (start : Nat) :
    firstVisibleFrom entries start ≤ entries.length := by
  -- the search first skips `start` entries and then looks at each, so the cases are on both
  induction entries generalizing start with
  | nil => simp [firstVisibleFrom]
  | cons e rest ih =>
    cases start with
    | zero =>
      simp only [firstVisibleFrom, List.length_cons]
      split
      · omega
      · exact Nat.succ_le_succ (ih 0)
    | succ start => exact Nat.succ_le_succ (ih start)

theorem le_firstVisibleFrom {entries : List Reference} {start : Nat}
    (h : start ≤ entries.length) : start ≤ firstVisibleFrom entries start := by
  induction entries generalizing start with
  | nil => simp_all
  | cons e rest ih =>
    cases start with
    | zero => omega
    | succ start => exact Nat.succ_le_succ (ih (Nat.le_of_succ_le_succ h))

/-- Beyond the list nothing is found. -/
theorem firstVisibleFrom_of_length_le {entries : List Reference} {start : Nat}
    (h : entries.length ≤ start) : firstVisibleFrom entries start = entries.length := by
  induction entries generalizing start with
  | nil => simp [firstVisibleFrom]
  | cons e rest ih =>
    cases start with
    | zero => simp at h
    | succ start => exact congrArg (· + 1) (ih (Nat.le_of_succ_le_succ h))

theorem visibleAt_firstVisibleFrom {entries : List Reference} {start : Nat}
    (h : firstVisibleFrom entries start < entries.length) :
    VisibleAt entries (firstVisibleFrom entries start) := by
  induction entries generalizing start with
  | nil => simp at h
  | cons e rest ih =>
    cases start with
    | zero =>
      by_cases hv : e.isVisible = true
      · simp [firstVisibleFrom, hv]
      · simp only [firstVisibleFrom, hv, List.length_cons] at h ⊢
        simpa using @ih 0 (by simpa using h)
    | succ start =>
      simp only [firstVisibleFrom, List.length_cons] at h ⊢
      simpa using ih (by omega)

theorem not_visibleAt_of_lt_firstVisibleFrom {entries : List Reference} {start ordinal : Nat}
    (hle : start ≤ ordinal) (hlt : ordinal < firstVisibleFrom entries start) :
    ¬ VisibleAt entries ordinal := by
  induction entries generalizing start ordinal with
  | nil => simp
  | cons e rest ih =>
    cases start with
    | zero =>
      by_cases hv : e.isVisible = true
      · simp [firstVisibleFrom, hv] at hlt
      · cases ordinal with
        | zero => simpa using hv
        | succ ordinal =>
          simp only [firstVisibleFrom, hv] at hlt
          simpa using @ih 0 ordinal (Nat.zero_le _) (by simpa using hlt)
    | succ start =>
      cases ordinal with
      | zero => omega
      | succ ordinal =>
        simp only [firstVisibleFrom] at hlt
        simpa using ih (Nat.le_of_succ_le_succ hle) (by omega)

/-- The search stops at once where a visible entry stands. -/
theorem firstVisibleFrom_of_visibleAt {entries : List Reference} {start : Nat}
    (h : VisibleAt entries start) : firstVisibleFrom entries start = start := by
  have hle := le_firstVisibleFrom (Nat.le_of_lt h.lt_length)
  by_contra hne
  -- otherwise the search would have passed a visible entry
  exact not_visibleAt_of_lt_firstVisibleFrom (Nat.le_refl _) (by omega) h

/-! ## The neighbours of an ordinal -/

/-- The next visible ordinal is the nearest visible one after the given one. -/
theorem nextVisible?_eq_some {entries : List Reference} {ordinal target : Nat}
    (h : nextVisible? entries ordinal = some target) :
    ordinal < target ∧ VisibleAt entries target ∧
      ∀ k, ordinal < k → k < target → ¬ VisibleAt entries k := by
  simp only [nextVisible?] at h
  split at h
  case isTrue hlt =>
    obtain rfl := Option.some.inj h
    have hv := visibleAt_firstVisibleFrom hlt
    refine ⟨?_, hv, fun k hk hkt => not_visibleAt_of_lt_firstVisibleFrom hk hkt⟩
    -- a search that starts beyond the list would have found nothing
    by_cases hle : ordinal + 1 ≤ entries.length
    · exact le_firstVisibleFrom hle
    · rw [firstVisibleFrom_of_length_le (by omega)] at hlt
      omega
  case isFalse => simp at h

theorem nextVisible?_eq_none {entries : List Reference} {ordinal : Nat}
    (h : nextVisible? entries ordinal = none) (k : Nat) (hk : ordinal < k) :
    ¬ VisibleAt entries k := by
  simp only [nextVisible?] at h
  split at h
  case isTrue => simp at h
  case isFalse hlt =>
    intro hv
    -- the search reached the end of the list, so it passed `k`
    have hlen := hv.lt_length
    have hbefore : k < firstVisibleFrom entries (ordinal + 1) := by omega
    exact not_visibleAt_of_lt_firstVisibleFrom hk hbefore hv

theorem lastVisibleBefore?_eq_none {entries : List Reference} {ordinal : Nat}
    (h : lastVisibleBefore? entries ordinal = none) (k : Nat) (hk : k < ordinal) :
    ¬ VisibleAt entries k := by
  induction entries generalizing ordinal k with
  | nil => simp
  | cons e rest ih =>
    cases ordinal with
    | zero => omega
    | succ ordinal =>
      simp only [lastVisibleBefore?] at h
      cases hlast : lastVisibleBefore? rest ordinal with
      | some last => simp [hlast] at h
      | none =>
        -- neither the head nor anything behind it was found
        cases k with
        | zero => simpa [hlast] using h
        | succ k => simpa using ih hlast k (by omega)

/-- The last visible ordinal before another is the nearest one before it. -/
theorem lastVisibleBefore?_eq_some {entries : List Reference} {ordinal target : Nat}
    (h : lastVisibleBefore? entries ordinal = some target) :
    target < ordinal ∧ VisibleAt entries target ∧
      ∀ k, target < k → k < ordinal → ¬ VisibleAt entries k := by
  induction entries generalizing ordinal target with
  | nil => simp [lastVisibleBefore?] at h
  | cons e rest ih =>
    cases ordinal with
    | zero => simp [lastVisibleBefore?] at h
    | succ ordinal =>
      simp only [lastVisibleBefore?] at h
      cases hlast : lastVisibleBefore? rest ordinal with
      | some last =>
        -- what was found behind the head is nearer than the head
        rw [hlast] at h
        obtain rfl := Option.some.inj h
        obtain ⟨hlt, hv, hbetween⟩ := ih hlast
        refine ⟨by omega, by simpa using hv, fun k hk hkt => ?_⟩
        cases k with
        | zero => omega
        | succ k => simpa using hbetween k (by omega) (by omega)
      | none =>
        -- nothing visible follows, so the head itself was found
        rw [hlast] at h
        by_cases hv : e.isVisible = true
        · simp only [hv, if_true, Option.some.injEq] at h
          subst h
          refine ⟨by omega, by simpa using hv, fun k hk hkt => ?_⟩
          cases k with
          | zero => omega
          | succ k => simpa using lastVisibleBefore?_eq_none hlast k (by omega)
        · simp [hv] at h

/-! ## Row numbers -/

theorem length_visibleEntries (entries : List Reference) :
    (visibleEntries entries).length = rowCount entries := by
  rw [rowCount, List.countP_eq_length_filter, visibleEntries]

@[simp]
theorem rowOf_zero (entries : List Reference) : rowOf entries 0 = 0 := by
  simp [rowOf]

theorem rowOf_cons_succ (e : Reference) (rest : List Reference) (ordinal : Nat) :
    rowOf (e :: rest) (ordinal + 1) = rowOf rest ordinal + if e.isVisible then 1 else 0 := by
  simp [rowOf, List.countP_cons]

theorem rowOf_of_length_le {entries : List Reference} {ordinal : Nat}
    (h : entries.length ≤ ordinal) : rowOf entries ordinal = rowCount entries := by
  rw [rowOf, rowCount, List.take_of_length_le h]

/-- Going one ordinal on passes a row exactly if a visible entry stands there. -/
theorem rowOf_succ (entries : List Reference) (ordinal : Nat) :
    rowOf entries (ordinal + 1)
      = rowOf entries ordinal + if VisibleAt entries ordinal then 1 else 0 := by
  induction entries generalizing ordinal with
  | nil => simp [rowOf]
  | cons e rest ih =>
    cases ordinal with
    | zero => simp [rowOf]
    | succ ordinal =>
      rw [rowOf_cons_succ, rowOf_cons_succ, ih]
      simp only [visibleAt_cons_succ]
      omega

theorem rowOf_mono {entries : List Reference} {i j : Nat} (h : i ≤ j) :
    rowOf entries i ≤ rowOf entries j := by
  induction h with
  | refl => exact Nat.le_refl _
  | step _ ih => exact Nat.le_trans ih (by rw [Nat.succ_eq_add_one, rowOf_succ]; omega)

theorem rowOf_le_rowCount (entries : List Reference) (ordinal : Nat) :
    rowOf entries ordinal ≤ rowCount entries := by
  by_cases h : entries.length ≤ ordinal
  · exact Nat.le_of_eq (rowOf_of_length_le h)
  · rw [← rowOf_of_length_le (Nat.le_refl entries.length)]
    exact rowOf_mono (by omega)

theorem rowOf_lt_of_visibleAt {entries : List Reference} {i j : Nat}
    (hv : VisibleAt entries i) (h : i < j) : rowOf entries i < rowOf entries j := by
  have hsucc := rowOf_succ entries i
  rw [if_pos hv] at hsucc
  have hmono : rowOf entries (i + 1) ≤ rowOf entries j := rowOf_mono h
  omega

/-- A visible entry has a row. -/
theorem rowOf_lt_rowCount {entries : List Reference} {ordinal : Nat}
    (hv : VisibleAt entries ordinal) : rowOf entries ordinal < rowCount entries := by
  rw [← rowOf_of_length_le (Nat.le_refl entries.length)]
  exact rowOf_lt_of_visibleAt hv hv.lt_length

/-- No row begins on a stretch without visible entries. -/
theorem rowOf_eq_of_none_visible {entries : List Reference} {i j : Nat} (h : i ≤ j)
    (hnone : ∀ k, i ≤ k → k < j → ¬ VisibleAt entries k) :
    rowOf entries j = rowOf entries i := by
  induction h with
  | refl => rfl
  | @step j hij ih =>
    rw [Nat.succ_eq_add_one, rowOf_succ, if_neg (hnone j hij (Nat.lt_succ_self j))]
    exact ih fun k hk hkj => hnone k hk (Nat.lt_succ_of_lt hkj)

/-- The number of an ordinal's row depends only on where visible entries stand before it. -/
theorem rowOf_congr {entries others : List Reference} {ordinal : Nat}
    (h : ∀ k, k < ordinal → (VisibleAt entries k ↔ VisibleAt others k)) :
    rowOf entries ordinal = rowOf others ordinal := by
  induction ordinal with
  | zero => simp
  | succ ordinal ih =>
    -- both numbers grow at the same ordinals
    rw [rowOf_succ, rowOf_succ, ih fun k hk => h k (by omega)]
    simp only [h ordinal (Nat.lt_succ_self ordinal)]

/-- A visible entry stands among the visible entries at its row. -/
theorem getElem?_visibleEntries_rowOf {entries : List Reference} {ordinal : Nat} {e : Reference}
    (he : entries[ordinal]? = some e) (hv : e.isVisible = true) :
    (visibleEntries entries)[rowOf entries ordinal]? = some e := by
  induction entries generalizing ordinal with
  | nil => simp at he
  | cons d rest ih =>
    cases ordinal with
    | zero =>
      obtain rfl : d = e := by simpa using he
      simp [visibleEntries, hv]
    | succ ordinal =>
      have hrest : (visibleEntries rest)[rowOf rest ordinal]? = some e := ih (by simpa using he)
      -- a visible head takes the first row and moves all others down by one
      by_cases hd : d.isVisible = true
      · simpa [rowOf_cons_succ, visibleEntries, hd] using hrest
      · simpa [rowOf_cons_succ, visibleEntries, hd] using hrest

/-! ## Edits -/

theorem visibleEntries_append (front back : List Reference) :
    visibleEntries (front ++ back) = visibleEntries front ++ visibleEntries back :=
  List.filter_append ..

theorem visibleEntries_cons (e : Reference) (rest : List Reference) :
    visibleEntries (e :: rest)
      = if e.isVisible then e :: visibleEntries rest else visibleEntries rest :=
  List.filter_cons ..

/-- A visible entry that is inserted is inserted at its row. -/
theorem visibleEntries_insertIdx_of_visible {entries : List Reference} {ordinal : Nat}
    {e : Reference} (hv : e.isVisible = true) (h : ordinal ≤ entries.length) :
    visibleEntries (entries.insertIdx ordinal e)
      = (visibleEntries entries).insertIdx (rowOf entries ordinal) e := by
  induction entries generalizing ordinal with
  | nil =>
    obtain rfl : ordinal = 0 := by simpa using h
    simp [visibleEntries, hv]
  | cons d rest ih =>
    cases ordinal with
    | zero => simp [visibleEntries_cons, hv]
    | succ ordinal =>
      rw [List.insertIdx_succ_cons, visibleEntries_cons, visibleEntries_cons, rowOf_cons_succ,
        ih (Nat.le_of_succ_le_succ h)]
      by_cases hd : d.isVisible = true
      · simp [hd]
      · simp [hd]

/-- An invisible entry that is inserted changes no row. -/
theorem visibleEntries_insertIdx_of_invisible {entries : List Reference} {ordinal : Nat}
    {e : Reference} (hv : e.isInvisible = true) (h : ordinal ≤ entries.length) :
    visibleEntries (entries.insertIdx ordinal e) = visibleEntries entries := by
  induction entries generalizing ordinal with
  | nil =>
    obtain rfl : ordinal = 0 := by simpa using h
    simp [visibleEntries, Reference.isVisible, hv]
  | cons d rest ih =>
    cases ordinal with
    | zero => simp [visibleEntries_cons, Reference.isVisible, hv]
    | succ ordinal =>
      rw [List.insertIdx_succ_cons, visibleEntries_cons, visibleEntries_cons,
        ih (Nat.le_of_succ_le_succ h)]

/-- What is inserted at an ordinal leaves the rows before it alone. -/
theorem rowOf_insertIdx {entries : List Reference} {ordinal : Nat} (e : Reference) :
    rowOf (entries.insertIdx ordinal e) ordinal = rowOf entries ordinal := by
  rw [rowOf, rowOf, List.take_insertIdx_eq_take_of_le _ _ _ _ (Nat.le_refl _)]

/-- A visible entry that is removed is removed at its row. -/
theorem visibleEntries_eraseIdx_of_visible {entries : List Reference} {ordinal : Nat}
    (h : VisibleAt entries ordinal) :
    visibleEntries (entries.eraseIdx ordinal)
      = (visibleEntries entries).eraseIdx (rowOf entries ordinal) := by
  induction entries generalizing ordinal with
  | nil => simp at h
  | cons d rest ih =>
    cases ordinal with
    | zero =>
      have hd : d.isVisible = true := by simpa using h
      simp [visibleEntries_cons, hd]
    | succ ordinal =>
      rw [List.eraseIdx_cons_succ, visibleEntries_cons, visibleEntries_cons, rowOf_cons_succ,
        ih (by simpa using h)]
      by_cases hd : d.isVisible = true
      · simp [hd]
      · simp [hd]

/-- An invisible entry that is removed takes no row with it. -/
theorem visibleEntries_eraseIdx_of_invisible {entries : List Reference} {ordinal : Nat}
    (h : ¬ VisibleAt entries ordinal) :
    visibleEntries (entries.eraseIdx ordinal) = visibleEntries entries := by
  induction entries generalizing ordinal with
  | nil => simp
  | cons d rest ih =>
    cases ordinal with
    | zero =>
      have hd : d.isVisible = false := by simpa using h
      simp [visibleEntries_cons, hd]
    | succ ordinal =>
      rw [List.eraseIdx_cons_succ, visibleEntries_cons, visibleEntries_cons,
        ih (by simpa using h)]

/-- A visible entry in place of another takes over its row. -/
theorem visibleEntries_set_of_visible {entries : List Reference} {ordinal : Nat} {e : Reference}
    (h : VisibleAt entries ordinal) (hv : e.isVisible = true) :
    visibleEntries (entries.set ordinal e)
      = (visibleEntries entries).set (rowOf entries ordinal) e := by
  induction entries generalizing ordinal with
  | nil => simp at h
  | cons d rest ih =>
    cases ordinal with
    | zero =>
      have hd : d.isVisible = true := by simpa using h
      simp [visibleEntries_cons, hd, hv]
    | succ ordinal =>
      rw [List.set_cons_succ, visibleEntries_cons, visibleEntries_cons, rowOf_cons_succ,
        ih (by simpa using h)]
      by_cases hd : d.isVisible = true
      · simp [hd]
      · simp [hd]

/-! ## Exchanges -/

theorem swapped_eq_set {entries : List Reference} {i j : Nat} {a b : Reference}
    (hi : entries[i]? = some a) (hj : entries[j]? = some b) :
    swapped entries i j = (entries.set i b).set j a := by
  simp [swapped, hi, hj]

/-- An exchange finds at every ordinal what stood at its partner. -/
theorem getElem?_swapped {entries : List Reference} {i j : Nat} (hi : i < entries.length)
    (hj : j < entries.length) (k : Nat) :
    (swapped entries i j)[k]? = entries[Equiv.swap i j k]? := by
  rw [swapped_eq_set (List.getElem?_eq_getElem hi) (List.getElem?_eq_getElem hj),
    Equiv.swap_apply_def]
  by_cases hkj : k = j
  · subst hkj
    by_cases hki : k = i
    · subst hki
      simp [hj]
    · simp [hki, hj, hi]
  · by_cases hki : k = i
    · subst hki
      simp [Ne.symm hkj, hi, hj]
    · simp [hkj, hki, Ne.symm hkj, Ne.symm hki]

@[simp]
theorem length_swapped (entries : List Reference) (i j : Nat) :
    (swapped entries i j).length = entries.length := by
  simp only [swapped]
  split
  · simp
  · rfl

theorem visibleAt_swapped {entries : List Reference} {i j : Nat} (hi : i < entries.length)
    (hj : j < entries.length) (k : Nat) :
    VisibleAt (swapped entries i j) k ↔ VisibleAt entries (Equiv.swap i j k) := by
  simp only [VisibleAt, getElem?_swapped hi hj]

/-- Exchanging two visible entries keeps every row number. -/
theorem rowOf_swapped {entries : List Reference} {i j : Nat} (hi : VisibleAt entries i)
    (hj : VisibleAt entries j) (ordinal : Nat) :
    rowOf (swapped entries i j) ordinal = rowOf entries ordinal := by
  apply rowOf_congr
  intro k _
  rw [visibleAt_swapped hi.lt_length hj.lt_length, Equiv.swap_apply_def]
  split
  · simp_all
  · split
    · simp_all
    · rfl

/-- Exchanging two visible entries exchanges their rows. -/
theorem visibleEntries_swapped {entries : List Reference} {i j : Nat} {a b : Reference}
    (hi : entries[i]? = some a) (hj : entries[j]? = some b) (ha : a.isVisible = true)
    (hb : b.isVisible = true) :
    visibleEntries (swapped entries i j)
      = ((visibleEntries entries).set (rowOf entries i) b).set (rowOf entries j) a := by
  have hvi : VisibleAt entries i := ⟨a, hi, ha⟩
  have hvj : VisibleAt entries j := ⟨b, hj, hb⟩
  -- after the first of the two writes there are visible entries at the same ordinals as before
  have hpattern : ∀ k, VisibleAt (entries.set i b) k ↔ VisibleAt entries k := by
    intro k
    by_cases hk : k = i
    · subst hk
      exact iff_of_true ⟨b, by simp [hvi.lt_length], hb⟩ hvi
    · simp [VisibleAt, List.getElem?_set_ne (Ne.symm hk)]
  rw [swapped_eq_set hi hj, visibleEntries_set_of_visible ((hpattern j).mpr hvj) ha,
    visibleEntries_set_of_visible hvi hb, rowOf_congr fun k _ => hpattern k]

/-- Two entries part a list into what is before, between and behind them. -/
private theorem exists_parts {entries : List Reference} {i j : Nat} {a b : Reference} (hij : i < j)
    (hi : entries[i]? = some a) (hj : entries[j]? = some b) :
    ∃ front middle back, entries = front ++ a :: (middle ++ b :: back) ∧ front.length = i ∧
      front.length + 1 + middle.length = j := by
  obtain ⟨hilt, rfl⟩ := List.getElem?_eq_some_iff.mp hi
  obtain ⟨hjlt, rfl⟩ := List.getElem?_eq_some_iff.mp hj
  refine ⟨entries.take i, (entries.drop (i + 1)).take (j - (i + 1)), entries.drop (j + 1),
    ?_, ?_, ?_⟩
  · have hback : entries.drop j = entries[j] :: entries.drop (j + 1) :=
      List.drop_eq_getElem_cons hjlt
    have hmiddle : (entries.drop (i + 1)).drop (j - (i + 1)) = entries.drop j := by
      rw [List.drop_drop]
      congr 1
      omega
    rw [← hback, ← hmiddle, List.take_append_drop, ← List.drop_eq_getElem_cons hilt,
      List.take_append_drop]
  · simp
    omega
  · simp
    omega

private theorem set_parts {front middle back : List Reference} {a b c d : Reference} {i j : Nat}
    (hi : front.length = i) (hj : front.length + 1 + middle.length = j) :
    ((front ++ a :: (middle ++ b :: back)).set i c).set j d
      = front ++ c :: (middle ++ d :: back) := by
  subst hi hj
  simp [Nat.add_assoc, Nat.add_comm 1]

/-- Exchanging a visible entry with an invisible one keeps the visible entries in order, as long
as nothing visible lies between them. -/
theorem visibleEntries_swapped_of_lt {entries : List Reference} {i j : Nat} {a b : Reference}
    (hij : i < j) (hi : entries[i]? = some a) (hj : entries[j]? = some b)
    (hone : a.isVisible ≠ b.isVisible)
    (hbetween : ∀ k, i < k → k < j → ¬ VisibleAt entries k) :
    visibleEntries (swapped entries i j) = visibleEntries entries := by
  obtain ⟨front, middle, back, hparts, hfront, hmiddle⟩ := exists_parts hij hi hj
  -- the part between them has no visible entries, so the visible one does not pass any other
  have hnone : visibleEntries middle = [] := by
    rw [visibleEntries, List.filter_eq_nil_iff]
    intro e he hv
    obtain ⟨k, hk, rfl⟩ := List.getElem_of_mem he
    refine hbetween (front.length + 1 + k) (by omega) (by omega) ⟨middle[k], ?_, hv⟩
    rw [hparts, List.getElem?_append_right (by omega)]
    simp [Nat.add_assoc, Nat.add_comm 1, List.getElem?_append_left hk]
  rw [swapped_eq_set hi hj, hparts, set_parts hfront hmiddle]
  simp only [visibleEntries_append, visibleEntries_cons, hnone]
  cases ha : a.isVisible <;> cases hb : b.isVisible <;> simp_all

/-- An exchange permutes the entries. -/
theorem swapped_perm (entries : List Reference) (i j : Nat) :
    (swapped entries i j).Perm entries := by
  simp only [swapped]
  split
  case h_1 a b hi hj =>
    obtain ⟨hilt, rfl⟩ := List.getElem?_eq_some_iff.mp hi
    obtain ⟨hjlt, rfl⟩ := List.getElem?_eq_some_iff.mp hj
    exact List.set_set_perm hilt hjlt
  case h_2 => exact List.Perm.refl _

theorem rowCount_swapped (entries : List Reference) (i j : Nat) :
    rowCount (swapped entries i j) = rowCount entries :=
  (swapped_perm entries i j).countP_eq _

theorem swapped_comm (entries : List Reference) (i j : Nat) :
    swapped entries i j = swapped entries j i := by
  by_cases hij : i = j
  · rw [hij]
  · cases hi : entries[i]? <;> cases hj : entries[j]? <;>
      simp [swapped, hi, hj, List.set_comm _ _ hij]

/-- An invisible entry that changes places with its visible neighbour changes no row. -/
theorem visibleEntries_swapped_of_hidden {entries : List Reference} {i j : Nat}
    (hi : i < entries.length) (hhidden : ¬ VisibleAt entries i) (hj : VisibleAt entries j)
    (hbetween : ∀ k, min i j < k → k < max i j → ¬ VisibleAt entries k) :
    visibleEntries (swapped entries i j) = visibleEntries entries := by
  obtain ⟨b, hb, hbv⟩ := hj
  have ha : entries[i]? = some entries[i] := List.getElem?_eq_getElem hi
  rw [visibleAt_of_getElem? ha] at hhidden
  -- the exchange is the same in both directions, but its lemma wants the lower ordinal first
  rcases Nat.lt_trichotomy i j with hij | rfl | hji
  · refine visibleEntries_swapped_of_lt hij ha hb (by simp_all) fun k hk hkj => ?_
    exact hbetween k (by omega) (by omega)
  · simp_all
  · rw [swapped_comm]
    refine visibleEntries_swapped_of_lt hji hb ha (by simp_all) fun k hk hkj => ?_
    exact hbetween k (by omega) (by omega)

/-- The rows at both ends of an exchange of an invisible entry with a visible one behind it. -/
theorem rowOf_swapped_of_lt {entries : List Reference} {i j : Nat} (hij : i < j)
    (hi : ¬ VisibleAt entries i) (hj : VisibleAt entries j)
    (hbetween : ∀ k, i < k → k < j → ¬ VisibleAt entries k) :
    rowOf (swapped entries i j) i = rowOf entries i ∧
      rowOf (swapped entries i j) j = rowOf entries i + 1 ∧ rowOf entries j = rowOf entries i := by
  have hswapped := visibleAt_swapped (Nat.lt_trans hij hj.lt_length) hj.lt_length
  have hfirst : rowOf (swapped entries i j) i = rowOf entries i := by
    refine rowOf_congr fun k hk => ?_
    rw [hswapped, Equiv.swap_apply_of_ne_of_ne (by omega) (by omega)]
  have hnow : VisibleAt (swapped entries i j) i := by
    rwa [hswapped, Equiv.swap_apply_left]
  -- the visible entry takes the row at `i`, and nothing else on the way to `j` has a row
  refine ⟨hfirst, ?_, rowOf_eq_of_none_visible (Nat.le_of_lt hij) fun k hk hkj => ?_⟩
  · rw [rowOf_eq_of_none_visible (Nat.succ_le_of_lt hij), Nat.succ_eq_add_one, rowOf_succ,
      if_pos hnow, hfirst]
    intro k hk hkj
    rw [hswapped, Equiv.swap_apply_of_ne_of_ne (by omega) (by omega)]
    exact hbetween k hk hkj
  · rcases Nat.eq_or_lt_of_le hk with rfl | hlt
    · exact hi
    · exact hbetween k hlt hkj

end Bouquet
