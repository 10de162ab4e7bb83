import Bouquet.Proofs.CursorPlacement
import Bouquet.Proofs.RowOrdinals
import Bouquet.Proofs.RowTracks

/-!
# Moves of a Free Cursor

While no entry is dragged, a move takes the cursor along the rows, with the end of the list as one
more row behind the last. It goes as far as it was asked to or as there are rows, and nothing else
changes.

## Main definitions

- `Listing.atRow`: the listing with its cursor at a row

## Main statements

- `Listing.track_of_free`: the steps of a free cursor lead along the rows
- `Listing.move_eq_of_free`: where a move leads
- `Listing.free_moves`: the laws of moves
-/

namespace Bouquet.Listing

/-- The listing with its cursor at a row; behind the last row that is the end of the list. -/
def atRow (l : Listing) (row : Nat) : Listing :=
  { l with cursor := rowOrdinal l.entries row }

variable {l : Listing} {row : Nat}

@[simp]
theorem atRow_entries (l : Listing) (row : Nat) : (l.atRow row).entries = l.entries := rfl

@[simp]
theorem atRow_cursor (l : Listing) (row : Nat) :
    (l.atRow row).cursor = rowOrdinal l.entries row := rfl

@[simp]
theorem atRow_dragging (l : Listing) (row : Nat) : (l.atRow row).dragging = l.dragging := rfl

@[simp]
theorem atRow_atRow (l : Listing) (row other : Nat) : (l.atRow row).atRow other = l.atRow other :=
  rfl

theorem cursorRow_atRow (h : row ≤ rowCount l.entries) : (l.atRow row).cursorRow = row :=
  rowOf_rowOrdinal h

/-- A cursor at a row, or behind the last one, is in its place. -/
theorem cursorPlaced_atRow (l : Listing) (row : Nat) : (l.atRow row).CursorPlaced := by
  by_cases h : row < rowCount l.entries
  · exact Or.inr (visibleAt_rowOrdinal h)
  · exact Or.inl (rowOrdinal_of_rowCount_le (Nat.not_lt.mp h))

/-- A cursor in its place is at its row. -/
theorem CursorPlaced.eq_atRow (h : l.CursorPlaced) : l = l.atRow l.cursorRow := by
  have hcursor : l.cursor = rowOrdinal l.entries l.cursorRow := by
    rcases h with hend | hvisible
    · have hrow : l.cursorRow = rowCount l.entries := rowOf_of_length_le (Nat.le_of_eq hend.symm)
      rw [hrow, rowOrdinal_of_rowCount_le (Nat.le_refl _)]
      exact hend
    · exact (rowOrdinal_rowOf hvisible).symm
  rw [atRow, ← hcursor]

theorem home_eq_atRow (l : Listing) : l.home = l.atRow 0 := by
  rw [home, firstVisibleFrom_eq, rowOf_zero, atRow]

theorem cursorRow_le (l : Listing) : l.cursorRow ≤ rowCount l.entries :=
  rowOf_le_rowCount l.entries l.cursor

theorem isOnEntry_atRow_iff : (l.atRow row).isOnEntry = true ↔ row < rowCount l.entries := by
  rw [isOnEntry_iff]
  exact rowOrdinal_lt_length_iff

/-! ## Steps -/

/-- Behind a row comes the next one. -/
theorem nextVisible?_rowOrdinal {entries : List Reference} (h : row < rowCount entries) :
    nextVisible? entries (rowOrdinal entries row)
      = if row + 1 < rowCount entries then some (rowOrdinal entries (row + 1)) else none := by
  rw [nextVisible?_eq, rowOf_succ, if_pos (visibleAt_rowOrdinal h),
    rowOf_rowOrdinal (Nat.le_of_lt h)]

theorem lastVisibleBefore?_rowOrdinal {entries : List Reference} (h : row ≤ rowCount entries) :
    lastVisibleBefore? entries (rowOrdinal entries row)
      = if row = 0 then none else some (rowOrdinal entries (row - 1)) := by
  rw [lastVisibleBefore?_eq, rowOf_rowOrdinal h]

/-- The steps of a free cursor lead along the rows to the end of the list, and report nothing. -/
theorem track_of_free (hfree : l.dragging = false) :
    Track (fun row m => row ≤ rowCount l.entries ∧ m = l.atRow row) (rowCount l.entries)
      fun _ _ => [] where
  forward := by
    rintro row _ ⟨-, rfl⟩ hrow
    refine ⟨l.atRow (row + 1), ?_, hrow, rfl⟩
    simp only [stepForward, isOnEntry_atRow_iff.mpr hrow, if_true, atRow_entries, atRow_cursor,
      nextVisible?_rowOrdinal hrow]
    by_cases hnext : row + 1 < rowCount l.entries
    · simp only [hnext, if_true, travel_of_free (l := l.atRow row) (Or.inl hfree)]
      rfl
    · -- behind the last row comes the end of the list
      have hend : l.atRow (row + 1) = { l.atRow row with cursor := (l.atRow row).size } := by
        rw [atRow, rowOrdinal_of_rowCount_le (Nat.not_lt.mp hnext)]
        rfl
      simp only [hnext, if_false, atRow_dragging, hfree, Bool.false_eq_true,
        travel_of_free (l := l.atRow row) (Or.inl hfree), hend]
  backward := by
    rintro row _ ⟨hrow, rfl⟩
    refine ⟨l.atRow row, ?_, Nat.le_of_succ_le hrow, rfl⟩
    simp only [stepBackward, atRow_entries, atRow_cursor, lastVisibleBefore?_rowOrdinal hrow,
      Nat.add_one_ne_zero, if_false, Nat.add_sub_cancel, Option.map_some,
      travel_of_free (l := l.atRow (row + 1)) (Or.inl hfree)]
    rfl
  last_stop := by
    rintro _ ⟨-, rfl⟩
    rw [stepForward, if_neg (mt isOnEntry_atRow_iff.mp (Nat.lt_irrefl _))]
  first_stop := by
    rintro _ ⟨hrow, rfl⟩
    simp [stepBackward, lastVisibleBefore?_rowOrdinal hrow]

/-! ## Moves -/

/-- **Where a move leads** a free cursor: as many rows on or back as it was asked for, or to the
end of the list or the first row on its way. -/
theorem move_eq_of_free (hplaced : l.CursorPlaced) (hfree : l.dragging = false) (count : Int) :
    l.move count
      = (l.atRow (l.cursorRow
            + max (-(l.cursorRow : Int)) (min count (rowCount l.entries - l.cursorRow))).toNat,
          max (-(l.cursorRow : Int)) (min count (rowCount l.entries - l.cursorRow)), []) := by
  obtain ⟨l', hmove, -, rfl⟩ := (track_of_free hfree).move
    ⟨l.cursorRow_le, hplaced.eq_atRow⟩ l.cursorRow_le count
  rw [hmove, List.flatMap_eq_nil_iff.mpr fun _ _ => rfl]

/-- Moves in one direction add up. -/
theorem move_move (hplaced : l.CursorPlaced) (hfree : l.dragging = false) {a b : Int}
    (hsign : 0 ≤ a ∧ 0 ≤ b ∨ a ≤ 0 ∧ b ≤ 0) :
    ((l.move a).1.move b).1 = (l.move (a + b)).1 ∧
      (l.move a).2.1 + ((l.move a).1.move b).2.1 = (l.move (a + b)).2.1 := by
  have hrow := l.cursorRow_le
  rw [move_eq_of_free hplaced hfree a, move_eq_of_free hplaced hfree (a + b)]
  -- the second move sets out from the row that the first one reached
  generalize hreached : (l.cursorRow
    + max (-(l.cursorRow : Int)) (min a (rowCount l.entries - l.cursorRow))).toNat = reached
  have hle : reached ≤ rowCount l.entries := by omega
  rw [move_eq_of_free (cursorPlaced_atRow l reached) hfree b, cursorRow_atRow hle, atRow_atRow,
    atRow_entries]
  -- rows that one move goes short of, the other one would have gone short of as well
  refine ⟨congrArg l.atRow ?_, ?_⟩
  · omega
  · dsimp only
    omega

/-- From the first row on and from the end of the list back a move comes to the last row. -/
theorem home_move_eq_toEnd_move (hfree : l.dragging = false) :
    (l.home.move (rowCount l.entries - 1)).1 = (l.toEnd.move (-1)).1 := by
  have hend : l.toEnd = l.atRow (rowCount l.entries) := by
    rw [toEnd, size, atRow, rowOrdinal_of_rowCount_le (Nat.le_refl _)]
  rw [home_eq_atRow, hend, move_eq_of_free (cursorPlaced_atRow l _) hfree,
    move_eq_of_free (cursorPlaced_atRow l _) hfree, cursorRow_atRow (Nat.zero_le _),
    cursorRow_atRow (Nat.le_refl _)]
  simp only [atRow_entries, atRow_atRow]
  exact congrArg l.atRow (by omega)

/-! ## Neighbours of the cursor -/

theorem current?_atRow_of_le (h : rowCount l.entries ≤ row) : (l.atRow row).current? = none := by
  rw [current?, atRow_entries, atRow_cursor, rowOrdinal_of_rowCount_le h]
  exact List.getElem?_eq_none (Nat.le_refl _)

theorem next?_atRow (h : row ≤ rowCount l.entries) :
    (l.atRow row).next? = (l.atRow (row + 1)).current? := by
  -- from a row the search goes on to the next one, from the end of the list there is none
  rcases Nat.lt_or_eq_of_le h with hlt | rfl
  · rw [next?, if_pos (isOnEntry_atRow_iff.mpr hlt), atRow_entries, atRow_cursor,
      nextVisible?_rowOrdinal hlt]
    by_cases hnext : row + 1 < rowCount l.entries
    · rw [if_pos hnext]
      rfl
    · rw [if_neg hnext, current?_atRow_of_le (Nat.not_lt.mp hnext)]
      rfl
  · rw [next?, if_neg (mt isOnEntry_atRow_iff.mp (Nat.lt_irrefl _)),
      current?_atRow_of_le (Nat.le_succ _)]

theorem previous?_atRow (h : row ≤ rowCount l.entries) :
    (l.atRow row).previous? = if row = 0 then none else (l.atRow (row - 1)).current? := by
  rw [previous?, atRow_entries, atRow_cursor, lastVisibleBefore?_rowOrdinal h]
  split <;> rfl

/-- The next entry is the one that a move by one row comes to, if it goes on to an entry. -/
theorem next?_eq_of_free (hplaced : l.CursorPlaced) (hfree : l.dragging = false) :
    l.next? = if (l.move 1).2.1 = 0 ∨ (l.move 1).1.cursor = l.size then none
      else (l.move 1).1.current? := by
  have hrow := l.cursorRow_le
  have hnext : l.next? = (l.atRow (l.cursorRow + 1)).current? := by
    conv_lhs => rw [hplaced.eq_atRow]
    exact next?_atRow hrow
  rw [move_eq_of_free hplaced hfree, hnext]
  by_cases hlast : l.cursorRow + 1 < rowCount l.entries
  · have hreached : (l.cursorRow
        + max (-(l.cursorRow : Int)) (min 1 (rowCount l.entries - l.cursorRow))).toNat
        = l.cursorRow + 1 := by omega
    have hentry := rowOrdinal_lt_length_iff.mpr hlast
    simp only [hreached, atRow_cursor, size]
    rw [if_neg (by omega)]
  · -- the end of the list is reached, or the move does not set out
    rw [current?_atRow_of_le (Nat.not_lt.mp hlast), if_pos]
    dsimp only
    by_cases hmoves : l.cursorRow < rowCount l.entries
    · exact Or.inr (rowOrdinal_of_rowCount_le (by omega))
    · exact Or.inl (by omega)

/-- The previous entry is the one that a move back by one row comes to, if it sets out. -/
theorem previous?_eq_of_free (hplaced : l.CursorPlaced) (hfree : l.dragging = false) :
    l.previous? = if (l.move (-1)).2.1 = 0 then none else (l.move (-1)).1.current? := by
  have hrow := l.cursorRow_le
  have hprevious : l.previous?
      = if l.cursorRow = 0 then none else (l.atRow (l.cursorRow - 1)).current? := by
    conv_lhs => rw [hplaced.eq_atRow]
    exact previous?_atRow hrow
  rw [move_eq_of_free hplaced hfree, hprevious]
  dsimp only
  by_cases hfirst : l.cursorRow = 0
  · rw [if_pos hfirst, if_pos (by omega)]
  · have hreached : (l.cursorRow
        + max (-(l.cursorRow : Int)) (min (-1) (rowCount l.entries - l.cursorRow))).toNat
        = l.cursorRow - 1 := by omega
    rw [if_neg hfirst, if_neg (by omega), hreached]

/-! ## The laws of moves -/

/-- **Moves of a free cursor**, from the end of the list or a visible entry. The loop of a move ends
for every count. It has then gone as many rows as it was asked for, as far as there are rows; the
cursor is on the entry of the row that it reached or at the end of the list behind the last row, and
nothing else has changed or was reported. So moves in one direction add up, the last row is reached
from both ends, and the neighbours of the cursor are what a move by one row comes to. -/
theorem free_moves (l : Listing) (hplaced : l.CursorPlaced) (hfree : l.dragging = false) :
    let row := l.cursorRow
    let rows := rowCount l.entries
    (∀ count : Int,
      let moved := max (-(row : Int)) (min count (rows - row))
      ∃ cursor,
        (∀ last total notices, MoveLoop count l 0 last total notices
          ↔ last = { l with cursor := cursor } ∧ total = moved ∧ notices = []) ∧
        l.move count = ({ l with cursor := cursor }, moved, []) ∧
        (rowOf l.entries cursor : Int) = row + moved ∧
        if row + moved = rows then cursor = l.size else VisibleAt l.entries cursor) ∧
    (∀ a b : Int, (0 ≤ a ∧ 0 ≤ b ∨ a ≤ 0 ∧ b ≤ 0) →
      ((l.move a).1.move b).1 = (l.move (a + b)).1 ∧
        (l.move a).2.1 + ((l.move a).1.move b).2.1 = (l.move (a + b)).2.1) ∧
    (l.home.move (rows - 1)).1 = (l.toEnd.move (-1)).1 ∧
    (l.next? = if (l.move 1).2.1 = 0 ∨ (l.move 1).1.cursor = l.size then none
      else (l.move 1).1.current?) ∧
    l.previous? = if (l.move (-1)).2.1 = 0 then none else (l.move (-1)).1.current? := by
  intro row rows
  refine ⟨fun count => ?_, fun a b => move_move hplaced hfree, home_move_eq_toEnd_move hfree,
    next?_eq_of_free hplaced hfree, previous?_eq_of_free hplaced hfree⟩
  have hrow : row ≤ rows := l.cursorRow_le
  intro moved
  have hmove : l.move count = (l.atRow (row + moved).toNat, moved, []) :=
    move_eq_of_free hplaced hfree count
  have hreached : (row + moved).toNat ≤ rows := by omega
  refine ⟨rowOrdinal l.entries (row + moved).toNat, moveLoop_iff_of_move_eq hmove, hmove, ?_, ?_⟩
  · rw [rowOf_rowOrdinal hreached]
    omega
  · split
    · exact rowOrdinal_of_rowCount_le (by omega)
    · exact visibleAt_rowOrdinal (by omega)

/-- Two rows with invisible entries around them, and the cursor on the second. -/
def betweenHidden : Listing :=
  { empty with
    entries := [hiddenEntry, shownEntry, hiddenEntry, .marker "shown too", hiddenEntry]
    cursor := 3 }

/-- The longest moves there are take the cursor one row on, to the end of the list, and one row
back, over the invisible entry. -/
theorem free_moves_betweenHidden :
    (betweenHidden.CursorPlaced ∧ betweenHidden.dragging = false) ∧
      (betweenHidden.move Int64.maxValue.toInt).2.1 = 1 ∧
      (betweenHidden.move Int64.minValue.toInt).2.1 = -1 ∧
      betweenHidden.next? = none ∧ betweenHidden.previous? = some shownEntry := by
  have hplaced : betweenHidden.CursorPlaced := by decide
  obtain ⟨hmoves, -, -, hnext, hprevious⟩ := free_moves betweenHidden hplaced rfl
  obtain ⟨_, -, hforward, -⟩ := hmoves Int64.maxValue.toInt
  obtain ⟨_, -, hbackward, -⟩ := hmoves Int64.minValue.toInt
  refine ⟨⟨hplaced, rfl⟩, ?_, ?_, hnext.trans (by decide), hprevious.trans (by decide)⟩
  · rw [hforward]
    dsimp only
    decide
  · rw [hbackward]
    dsimp only
    decide

end Bouquet.Listing
