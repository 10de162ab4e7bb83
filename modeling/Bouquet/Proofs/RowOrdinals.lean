import Bouquet.Proofs.DragSession

/-!
# Ordinals of Rows

Rows and ordinals are two numberings of the same places. `rowOf` goes from an ordinal to its row,
and `rowOrdinal` from a row to the ordinal of its visible entry. Every search for a visible entry is
a look at a neighbouring row.

## Main definitions

- `rowOrdinal`: the ordinal of a row

## Main statements

- `rowOf_rowOrdinal`, `rowOrdinal_rowOf`: the two numberings undo each other
- `firstVisibleFrom_eq`, `nextVisible?_eq`, `lastVisibleBefore?_eq`: the searches by row
-/

namespace Bouquet

/-- The ordinal of a row, or the end of the list when there are not that many rows. -/
def rowOrdinal : List Reference → Nat → Nat
  | [], _ => 0
  | e :: rest, row =>
    -- every entry takes an ordinal, but only a visible one takes a row
    if e.isVisible then
      match row with
      | 0 => 0
      | row + 1 => rowOrdinal rest row + 1
    else rowOrdinal rest row + 1

/-! ## From rows to ordinals and back -/

variable {entries : List Reference} {row : Nat}

theorem rowOrdinal_cons_visible_zero {e : Reference} (rest : List Reference)
    (hv : e.isVisible = true) : rowOrdinal (e :: rest) 0 = 0 := by
  simp [rowOrdinal, hv]

theorem rowOrdinal_cons_visible_succ {e : Reference} (rest : List Reference)
    (hv : e.isVisible = true) (row : Nat) :
    rowOrdinal (e :: rest) (row + 1) = rowOrdinal rest row + 1 := by
  simp [rowOrdinal, hv]

theorem rowOrdinal_cons_invisible {e : Reference} (rest : List Reference)
    (hv : ¬ e.isVisible = true) (row : Nat) :
    rowOrdinal (e :: rest) row = rowOrdinal rest row + 1 := by
  simp [rowOrdinal, hv]

theorem rowCount_cons (e : Reference) (rest : List Reference) :
    rowCount (e :: rest) = rowCount rest + if e.isVisible then 1 else 0 := by
  simp [rowCount, List.countP_cons]

/-- Behind the last row there is only the end of the list. -/
theorem rowOrdinal_of_rowCount_le (h : rowCount entries ≤ row) :
    rowOrdinal entries row = entries.length := by
  induction entries generalizing row with
  | nil => rfl
  | cons e rest ih =>
    rw [rowCount_cons] at h
    by_cases hv : e.isVisible = true
    · cases row with
      | zero => simp [hv] at h
      | succ row =>
        rw [rowOrdinal_cons_visible_succ rest hv, ih (by simpa [hv] using h), List.length_cons]
    · rw [rowOrdinal_cons_invisible rest hv, ih (by simpa [hv] using h), List.length_cons]

/-- At the ordinal of a row stands a visible entry. -/
theorem visibleAt_rowOrdinal (h : row < rowCount entries) :
    VisibleAt entries (rowOrdinal entries row) := by
  induction entries generalizing row with
  | nil => simp [rowCount] at h
  | cons e rest ih =>
    rw [rowCount_cons] at h
    -- the row is that of the first entry, or one of the rest
    by_cases hv : e.isVisible = true
    · cases row with
      | zero => simpa [rowOrdinal_cons_visible_zero rest hv] using hv
      | succ row =>
        rw [rowOrdinal_cons_visible_succ rest hv, visibleAt_cons_succ]
        exact ih (by simpa [hv] using h)
    · rw [rowOrdinal_cons_invisible rest hv, visibleAt_cons_succ]
      exact ih (by simpa [hv] using h)

/-- The ordinal of a row has this row; the end of the list has the number of rows. -/
theorem rowOf_rowOrdinal (h : row ≤ rowCount entries) :
    rowOf entries (rowOrdinal entries row) = row := by
  induction entries generalizing row with
  | nil =>
    have hrow : row = 0 := by simpa [rowCount] using h
    rw [hrow]
    rfl
  | cons e rest ih =>
    rw [rowCount_cons] at h
    by_cases hv : e.isVisible = true
    · cases row with
      | zero => simp [rowOrdinal_cons_visible_zero rest hv]
      | succ row =>
        rw [rowOrdinal_cons_visible_succ rest hv, rowOf_cons_succ, if_pos hv,
          ih (by simpa [hv] using h)]
    · rw [rowOrdinal_cons_invisible rest hv, rowOf_cons_succ, if_neg hv,
        ih (by simpa [hv] using h), Nat.add_zero]

/-- The search for a visible entry finds the first row that does not begin before its start. -/
theorem firstVisibleFrom_eq (entries : List Reference) (start : Nat) :
    firstVisibleFrom entries start = rowOrdinal entries (rowOf entries start) := by
  induction entries generalizing start with
  | nil => rfl
  | cons e rest ih =>
    by_cases hv : e.isVisible = true
    · cases start with
      | zero => simp [firstVisibleFrom, hv, rowOrdinal_cons_visible_zero rest hv]
      | succ start =>
        rw [rowOf_cons_succ, if_pos hv, rowOrdinal_cons_visible_succ rest hv, ← ih]
        rfl
    · rw [rowOrdinal_cons_invisible rest hv]
      cases start with
      | zero =>
        -- the search passes over an invisible entry, and no row begins behind it
        have hrest := ih 0
        rw [rowOf_zero] at hrest ⊢
        simp [firstVisibleFrom, hv, hrest]
      | succ start =>
        have hrow : rowOf (e :: rest) (start + 1) = rowOf rest start := by
          simp [rowOf_cons_succ, hv]
        rw [hrow, ← ih]
        rfl

/-- A visible entry stands at the ordinal of its row. -/
theorem rowOrdinal_rowOf {ordinal : Nat} (h : VisibleAt entries ordinal) :
    rowOrdinal entries (rowOf entries ordinal) = ordinal := by
  rw [← firstVisibleFrom_eq, firstVisibleFrom_of_visibleAt h]

theorem rowOrdinal_lt_length_iff :
    rowOrdinal entries row < entries.length ↔ row < rowCount entries := by
  constructor
  · intro hlt
    by_contra hrow
    rw [rowOrdinal_of_rowCount_le (Nat.not_lt.mp hrow)] at hlt
    exact Nat.lt_irrefl _ hlt
  · exact fun hrow => (visibleAt_rowOrdinal hrow).lt_length

/-- A row is known by a visible ordinal that it has. -/
theorem eq_rowOrdinal {ordinal : Nat} (h : VisibleAt entries ordinal)
    (hrow : rowOf entries ordinal = row) : ordinal = rowOrdinal entries row := by
  rw [← hrow, rowOrdinal_rowOf h]

/-! ## Neighbours by row -/

/-- The next visible entry has the row that begins behind the ordinal. -/
theorem nextVisible?_eq (entries : List Reference) (ordinal : Nat) :
    nextVisible? entries ordinal
      = if rowOf entries (ordinal + 1) < rowCount entries
        then some (rowOrdinal entries (rowOf entries (ordinal + 1))) else none := by
  simp only [nextVisible?, firstVisibleFrom_eq, rowOrdinal_lt_length_iff]

/-- The last visible entry before an ordinal has the row before. -/
theorem lastVisibleBefore?_eq (entries : List Reference) (ordinal : Nat) :
    lastVisibleBefore? entries ordinal
      = if rowOf entries ordinal = 0 then none
        else some (rowOrdinal entries (rowOf entries ordinal - 1)) := by
  cases h : lastVisibleBefore? entries ordinal with
  | none =>
    -- without a visible entry before the ordinal its row is the first one
    have hzero : rowOf entries ordinal = rowOf entries 0 :=
      rowOf_eq_of_none_visible (Nat.zero_le _) fun k _ hk => lastVisibleBefore?_eq_none h k hk
    rw [rowOf_zero] at hzero
    rw [if_pos hzero]
  | some target =>
    obtain ⟨hlt, hvisible, hnone⟩ := lastVisibleBefore?_eq_some h
    have hrow := rowOf_eq_succ hvisible hlt hnone
    rw [if_neg (by omega), hrow, Nat.add_sub_cancel, rowOrdinal_rowOf hvisible]

end Bouquet
