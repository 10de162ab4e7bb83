import Bouquet.Proofs.FreeMoves
import Mathlib.Order.Interval.Set.Defs
import Mathlib.Order.Monotone.Basic
import Mathlib.Data.Set.Function

/-!
# Rows Number the Visible Entries

Ordinals and rows are two coordinates of one list. Going up the ordinals the row never falls, and
along the visible entries it takes every value below their number once, in order. Going to an
ordinal is going to its row, whether at once or from the first row on step by step.

## Main statements

- `rowOf_strictMonoOn`, `rowOf_bijOn`: the rows of visible entries
- `Listing.set_eq_atRow`: going to an ordinal is going to its row
- `Listing.rows_number_visible`: the laws of ordinals and rows
-/

namespace Bouquet

/-! ## The rows of visible entries -/

/-- Of two visible entries the later one has the later row. -/
theorem rowOf_strictMonoOn (entries : List Reference) :
    StrictMonoOn (rowOf entries) {ordinal | VisibleAt entries ordinal} :=
  fun _ hvisible _ _ hlt => rowOf_lt_of_visibleAt hvisible hlt

/-- The visible entries have the rows below their number, each its own. -/
theorem rowOf_bijOn (entries : List Reference) :
    Set.BijOn (rowOf entries) {ordinal | VisibleAt entries ordinal}
      (Set.Iio (rowCount entries)) := by
  refine ⟨fun _ hvisible => rowOf_lt_rowCount hvisible, (rowOf_strictMonoOn entries).injOn, ?_⟩
  -- a row is that of the entry at its ordinal
  intro row hrow
  have hrow : row < rowCount entries := hrow
  exact ⟨rowOrdinal entries row, visibleAt_rowOrdinal hrow, rowOf_rowOrdinal (Nat.le_of_lt hrow)⟩

/-! ## Going to a place -/

namespace Listing

variable (l : Listing)

/-- Where an ordinal has no visible entry, its row is the one that follows. -/
theorem set_eq_atRow (ordinal : Nat) : l.set ordinal = l.atRow (rowOf l.entries ordinal) := by
  rw [set, firstVisibleFrom_eq, atRow]

theorem cursorRow_set (ordinal : Nat) : (l.set ordinal).cursorRow = rowOf l.entries ordinal := by
  rw [set_eq_atRow, cursorRow_atRow (rowOf_le_rowCount l.entries ordinal)]

/-- The place that was gone to is its own place. -/
theorem set_cursor_set (ordinal : Nat) :
    (l.set ordinal).set (l.set ordinal).cursor = l.set ordinal := by
  have hrow : rowOf (l.set ordinal).entries (l.set ordinal).cursor = rowOf l.entries ordinal :=
    l.cursorRow_set ordinal
  rw [set_eq_atRow, hrow]
  exact (l.set_eq_atRow ordinal).symm

/-- From the first row it takes as many steps to a place as its row says. -/
theorem home_move_eq_set (hfree : l.dragging = false) (ordinal : Nat) :
    l.home.move (rowOf l.entries ordinal)
      = (l.set ordinal, (rowOf l.entries ordinal : Int), []) := by
  have hle : rowOf l.entries ordinal ≤ rowCount l.entries := rowOf_le_rowCount l.entries ordinal
  rw [home_eq_atRow, set_eq_atRow, move_eq_of_free (cursorPlaced_atRow l 0) hfree,
    cursorRow_atRow (Nat.zero_le _), atRow_entries, atRow_atRow]
  -- there are at least as many rows as come before an ordinal
  have hmoved : max (-((0 : Nat) : Int))
      (min (rowOf l.entries ordinal : Int) (rowCount l.entries - (0 : Nat)))
      = rowOf l.entries ordinal := by omega
  rw [hmoved, Int.natCast_zero, Int.zero_add, Int.toNat_natCast]

/-- **Rows number the visible entries.** The row of an ordinal never falls, and from the end of the
list on it is the number of visible entries; on the ordinals of visible entries it rises strictly
and takes every value below that number. Going to any ordinal takes the cursor to the end of the
list or to a visible entry, with the row of the ordinal that was asked for. Going to where the
cursor is then changes nothing. While nothing is dragged, the first row and from there a move by the
row of an ordinal lead from any such place to where going to that ordinal does. -/
theorem rows_number_visible :
    Monotone (rowOf l.entries) ∧
    StrictMonoOn (rowOf l.entries) {ordinal | VisibleAt l.entries ordinal} ∧
    Set.BijOn (rowOf l.entries) {ordinal | VisibleAt l.entries ordinal}
      (Set.Iio (visibleEntries l.entries).length) ∧
    (∀ ordinal, l.size ≤ ordinal →
      rowOf l.entries ordinal = (visibleEntries l.entries).length) ∧
    ∀ ordinal,
      ((l.set ordinal).cursor = l.size ∨ VisibleAt l.entries (l.set ordinal).cursor) ∧
      rowOf l.entries (l.set ordinal).cursor = rowOf l.entries ordinal ∧
      (l.set ordinal).set (l.set ordinal).cursor = l.set ordinal ∧
      ∀ start, l.dragging = false →
        (l.set start).home.move (rowOf l.entries ordinal)
          = (l.set ordinal, (rowOf l.entries ordinal : Int), []) := by
  rw [length_visibleEntries]
  refine ⟨fun _ _ => rowOf_mono, rowOf_strictMonoOn l.entries, rowOf_bijOn l.entries,
    fun _ => rowOf_of_length_le, fun ordinal => ⟨l.cursorPlaced_set ordinal,
      l.cursorRow_set ordinal, l.set_cursor_set ordinal, fun start hfree => ?_⟩⟩
  -- the first row is the same from wherever the cursor sets out
  exact l.home_move_eq_set hfree ordinal

end Listing

end Bouquet
