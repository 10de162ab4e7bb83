import Bouquet.Proofs.DragSession
import Bouquet.Proofs.RowOrdinals
import Bouquet.Proofs.RowTracks

/-!
# Moves of a Dragged Entry

While an entry is dragged, a move takes it along the rows, from the first to the last. Every step
exchanges it with its neighbour and reports both rows. What a move has done is told by the row that
the entry has come to, so the move back undoes it.

## Main statements

- `Listing.track_of_drag`: the steps of a drag lead along the rows
- `Listing.Drag.eq_start`: a drag that is back at its row has changed nothing
- `Listing.dragged_moves`: the laws of moves in a drag
-/

namespace Bouquet.Listing

variable {start l : Listing} {e : Reference}

/-! ## Rows in a drag -/

theorem Drag.cursor_lt (h : Drag start e l) : l.cursor < l.entries.length :=
  (List.getElem?_eq_some_iff.mp h.current).1

/-- There are as many rows as at the beginning. -/
theorem Drag.rowCount_eq (h : Drag start e l) : rowCount l.entries = rowCount start.entries := by
  -- behind both lists all row numbers are the numbers of rows
  have hrow := h.rowOf_eq (max l.entries.length start.entries.length)
  rwa [rowOf_of_length_le (Nat.le_max_left _ _), rowOf_of_length_le (Nat.le_max_right _ _)] at hrow

/-- Invisible entries stand at their ordinals. -/
theorem Drag.getElem?_eq_iff_of_invisible (h : Drag start e l) {x : Reference}
    (hx : x.isInvisible = true) (k : Nat) :
    l.entries[k]? = some x ↔ start.entries[k]? = some x := by
  have hinvisible : ∀ {entries : List Reference}, entries[k]? = some x → ¬ VisibleAt entries k := by
    intro entries hk
    simp [visibleAt_of_getElem? hk, Reference.isVisible, hx]
  constructor
  · intro hk
    rwa [← h.fixed k (mt (h.pattern k).mpr (hinvisible hk))]
  · intro hk
    rwa [h.fixed k (hinvisible hk)]

/-- A drag that is back at the row where it began has changed nothing. -/
theorem Drag.eq_start (h : Drag start e l) (hv : e.isVisible = true)
    (hstart : start.entries[start.cursor]? = some e) (hrow : l.cursorRow = start.cursorRow) :
    l.entries = start.entries ∧ l.cursor = start.cursor := by
  have hrow' : rowOf start.entries l.cursor = rowOf start.entries start.cursor := by
    rw [← h.rowOf_eq]
    exact hrow
  constructor
  · refine eq_of_visibleEntries_eq h.pattern h.fixed ?_
    -- the entry was taken out at its row and put in again there
    rw [h.rows, hrow']
    exact (drag_begin hstart hv).rows.symm
  · rw [eq_rowOrdinal (h.visibleAt_cursor hv) hrow', rowOrdinal_rowOf ⟨e, hstart, hv⟩]

/-! ## Steps -/

/-- To go to a row is to change places with its entry. Both rows are reported, with the numbers
that they have before and after the exchange. -/
theorem Drag.travel_rowOrdinal (h : Drag start e l) (hv : e.isVisible = true) (row : Nat)
    (hrow : row < rowCount l.entries) :
    ∃ next, l.travel (rowOrdinal l.entries row)
        = (next, [.changed l.cursorRow, .changed row]) ∧ next.cursorRow = row := by
  have hcursor : VisibleAt l.entries l.cursor := ⟨e, h.current, hv⟩
  have htarget : VisibleAt l.entries (rowOrdinal l.entries row) := visibleAt_rowOrdinal hrow
  have hrows : rowOf l.entries (rowOrdinal l.entries row) = row :=
    rowOf_rowOrdinal (Nat.le_of_lt hrow)
  rw [travel_of_dragging h.dragging h.cursor_lt, rowOf_swapped hcursor htarget,
    rowOf_swapped hcursor htarget, hrows]
  exact ⟨_, rfl, (rowOf_swapped hcursor htarget _).trans hrows⟩

/-- Behind the cursor begins the row after that of the entry. -/
theorem Drag.rowOf_succ_cursor (h : Drag start e l) (hv : e.isVisible = true) :
    rowOf l.entries (l.cursor + 1) = l.cursorRow + 1 := by
  rw [rowOf_succ, if_pos ⟨e, h.current, hv⟩, cursorRow]

/-- The steps of a drag lead along the rows to the last one. Each reports the row that the entry
leaves and the one that it reaches. -/
theorem track_of_drag (hv : e.isVisible = true) :
    Track (fun row l => Drag start e l ∧ l.cursorRow = row) (rowCount start.entries - 1)
      fun i j => [.changed i, .changed j] where
  forward := by
    rintro row l ⟨h, rfl⟩ hrow
    have hlt : l.cursorRow + 1 < rowCount l.entries := by
      rw [h.rowCount_eq]
      omega
    obtain ⟨next, htravel, hnext⟩ := h.travel_rowOrdinal hv _ hlt
    have hstep : l.stepForward
        = some (next, [.changed l.cursorRow, .changed (l.cursorRow + 1)]) := by
      rw [stepForward, if_pos ((isOnEntry_iff l).mpr h.cursor_lt), nextVisible?_eq,
        h.rowOf_succ_cursor hv, if_pos hlt, ← htravel]
    exact ⟨next, hstep, h.of_stride hv (stride_of_stepForward hstep), hnext⟩
  backward := by
    rintro row l ⟨h, hrow⟩
    have hle : l.cursorRow ≤ rowCount l.entries := rowOf_le_rowCount l.entries l.cursor
    obtain ⟨next, htravel, hnext⟩ := h.travel_rowOrdinal hv row (by omega)
    have hstep : l.stepBackward = some (next, [.changed (row + 1), .changed row]) := by
      have hrowOf : rowOf l.entries l.cursor = row + 1 := hrow
      rw [stepBackward, lastVisibleBefore?_eq, hrowOf, if_neg (Nat.succ_ne_zero row),
        Nat.add_sub_cancel, Option.map_some, htravel, hrow]
    exact ⟨next, hstep, h.of_stride hv (stride_of_stepBackward hstep), hnext⟩
  last_stop := by
    rintro l ⟨h, hrow⟩
    -- no row follows, and a dragged entry does not go to the end of the list
    have hlast : ¬ l.cursorRow + 1 < rowCount l.entries := by
      rw [h.rowCount_eq]
      omega
    rw [stepForward, if_pos ((isOnEntry_iff l).mpr h.cursor_lt), nextVisible?_eq,
      h.rowOf_succ_cursor hv, if_neg hlast]
    simp [h.dragging]
  first_stop := by
    rintro l ⟨h, hrow⟩
    have hrowOf : rowOf l.entries l.cursor = 0 := hrow
    rw [stepBackward, lastVisibleBefore?_eq, hrowOf, if_pos rfl, Option.map_none]

/-! ## Moves -/

/-- What a move in a drag leads to: the drag goes on, and nothing but entries and cursor changed. -/
theorem Drag.move (h : Drag start e l) (hv : e.isVisible = true) (count : Int) :
    let row := l.cursorRow
    let moved := max (-(row : Int)) (min count (rowCount start.entries - 1 - row))
    ∃ l', l.move count
        = (l', moved, (rowSteps row moved).flatMap fun s => [.changed s.1, .changed s.2]) ∧
      Drag start e l' ∧ (l'.cursorRow : Int) = row + moved ∧
      l' = { l with entries := l'.entries, cursor := l'.cursor } := by
  intro row moved
  have hlt : row < rowCount start.entries := by
    rw [← h.rowCount_eq]
    exact rowOf_lt_rowCount ⟨e, h.current, hv⟩
  have hat : Drag start e l ∧ l.cursorRow = row := ⟨h, rfl⟩
  obtain ⟨l', hmove, hdrag, hrow⟩ := (track_of_drag hv).move hat (by omega) count
  have hmoved : max (-(row : Int)) (min count ((rowCount start.entries - 1 : Nat) - row))
      = moved := by
    omega
  rw [hmoved] at hmove hrow
  refine ⟨l', hmove, hdrag, by omega, ?_⟩
  obtain ⟨hroot, hbookmarks, hmarks, hdragging⟩ := move_frame l count
  rw [hmove] at hroot hbookmarks hmarks hdragging
  rw [← hroot, ← hbookmarks, ← hmarks, ← hdragging]

/-- **Moves of a dragged entry.** The loop of a move ends for every count. It has then taken the
entry as many rows on or back as it was asked for, as far as there are rows: among the visible
entries it is taken out at its row and put in at the row that it has come to, and invisible entries
stand at their ordinals. The cursor is on the entry, never at the end of the list, every step
has reported the row that the entry left and the one that it came to, and the move back restores
the listing. -/
theorem dragged_moves (l : Listing) (e : Reference) (hdragging : l.dragging = true)
    (he : l.current? = some e) (hv : e.isVisible = true) (count : Int) :
    let row := l.cursorRow
    let rows := rowCount l.entries
    let moved := max (-(row : Int)) (min count (rows - 1 - row))
    ∃ l' : Listing, (∀ last total notices, MoveLoop count l 0 last total notices ↔ last = l' ∧
          total = moved ∧
          notices = (rowSteps row moved).flatMap fun s => [.changed s.1, .changed s.2]) ∧
      l.move count
        = (l', moved, (rowSteps row moved).flatMap fun s => [.changed s.1, .changed s.2]) ∧
      visibleEntries l'.entries
        = ((visibleEntries l.entries).eraseIdx row).insertIdx (row + moved).toNat e ∧
      (∀ (k : Nat) (x : Reference), x.isInvisible = true →
        (l'.entries[k]? = some x ↔ l.entries[k]? = some x)) ∧
      l'.current? = some e ∧ (l'.cursorRow : Int) = row + moved ∧ l'.cursor < l'.size ∧
      l' = { l with entries := l'.entries, cursor := l'.cursor } ∧
      (l'.move (-moved)).1 = l ∧ (l'.move (-moved)).2.1 = -moved := by
  intro row rows moved
  have hstart : Drag l e l := by
    have hbegin := drag_begin he hv
    rwa [← hdragging] at hbegin
  obtain ⟨l', hmove, hdrag, hrow, hframe⟩ := hstart.move hv count
  obtain ⟨back, hback, hdragBack, hrowBack, hframeBack⟩ := hdrag.move hv (-moved)
  have hlt : row < rows := rowOf_lt_rowCount ⟨e, he, hv⟩
  have hmoved : max (-(l'.cursorRow : Int)) (min (-moved) (rows - 1 - l'.cursorRow)) = -moved := by
    omega
  -- back at its row the drag has changed nothing
  obtain ⟨hentries, hcursor⟩ := hdragBack.eq_start hv he (by omega)
  have hrestored : back = l := by
    rw [hframeBack, hframe, hentries, hcursor]
  refine ⟨l', moveLoop_iff_of_move_eq hmove, hmove, ?_, fun k x hx => ?_, hdrag.current, hrow,
    hdrag.cursor_lt, hframe, ?_, ?_⟩
  · have hreached : rowOf l.entries l'.cursor = (row + moved).toNat := by
      rw [← hdrag.rowOf_eq, ← hrow]
      rfl
    rw [hdrag.rows, hreached]
    rfl
  · exact hdrag.getElem?_eq_iff_of_invisible hx k
  · rw [hback]
    exact hrestored
  · rw [hback]
    exact hmoved

/-- An entry that is dragged, with an invisible one between it and each of its neighbours. -/
def betweenNeighbours : Listing :=
  { empty with
    entries := [.marker "first", hiddenEntry, shownEntry, hiddenEntry, .marker "last"]
    cursor := 2
    dragging := true }

/-- The longest move back takes the entry over the invisible one to the first row, and a move by one
row takes it back. -/
theorem dragged_moves_betweenNeighbours :
    (betweenNeighbours.dragging = true ∧ betweenNeighbours.current? = some shownEntry ∧
        shownEntry.isVisible = true) ∧
      (betweenNeighbours.move Int64.minValue.toInt).2 = (-1, [.changed 1, .changed 0]) ∧
      visibleEntries (betweenNeighbours.move Int64.minValue.toInt).1.entries
        = [shownEntry, .marker "first", .marker "last"] ∧
      ((betweenNeighbours.move Int64.minValue.toInt).1.move 1).1 = betweenNeighbours := by
  have hcurrent : betweenNeighbours.current? = some shownEntry := by decide
  have hvisible : shownEntry.isVisible = true := by decide
  obtain ⟨l', -, hmove, hrows, -, -, -, -, -, hback, -⟩ :=
    dragged_moves betweenNeighbours shownEntry rfl hcurrent hvisible Int64.minValue.toInt
  have hmoved : max (-(betweenNeighbours.cursorRow : Int)) (min Int64.minValue.toInt
      (rowCount betweenNeighbours.entries - 1 - betweenNeighbours.cursorRow)) = -1 := by
    decide
  have hnotices : ((rowSteps betweenNeighbours.cursorRow (-1)).flatMap fun s =>
      [Notice.changed s.1, Notice.changed s.2]) = [.changed 1, .changed 0] := by
    decide
  rw [hmoved] at hmove hrows hback
  rw [hmove, hnotices]
  exact ⟨⟨rfl, hcurrent, hvisible⟩, rfl, hrows.trans (by decide), hback⟩

end Bouquet.Listing
