import Bouquet.Proofs.FreeMoves

/-!
# Draining a List

The current entry is removed again and again. Every removal takes the entry of the same row, as the
next one moves up to it, and passes the invisible entries on its way. When the last row is gone, the
cursor is at the end of the list, and of what was listed from the cursor on only the invisible
entries are left.

## Main definitions

- `withoutRowsFrom`: a list without its rows from an ordinal on
- `Listing.drain`: a listing after a number of removals
- `Listing.Drained`: what removals have done so far

## Main statements

- `Listing.Drained.removeCurrent`, `Listing.drained_drain`: one removal, and all of them
- `Listing.drains`: how removals go on and where they end
-/

namespace Bouquet

/-! ## What is left of a list -/

/-- The entries before an ordinal, and the invisible ones from there on. -/
def withoutRowsFrom (entries : List Reference) (ordinal : Nat) : List Reference :=
  entries.take ordinal ++ (entries.drop ordinal).filter Reference.isInvisible

section

variable {entries : List Reference} {ordinal : Nat}

theorem withoutRowsFrom_cons_succ (e : Reference) (rest : List Reference) (ordinal : Nat) :
    withoutRowsFrom (e :: rest) (ordinal + 1) = e :: withoutRowsFrom rest ordinal := rfl

theorem withoutRowsFrom_of_length_le (h : entries.length ≤ ordinal) :
    withoutRowsFrom entries ordinal = entries := by
  rw [withoutRowsFrom, List.take_of_length_le h, List.drop_of_length_le h]
  exact List.append_nil entries

/-- The search for a visible entry passes only entries that are left. -/
theorem withoutRowsFrom_firstVisibleFrom (entries : List Reference) (start : Nat) :
    withoutRowsFrom entries (firstVisibleFrom entries start) = withoutRowsFrom entries start := by
  induction entries generalizing start with
  | nil => simp [withoutRowsFrom]
  | cons e rest ih =>
    cases start with
    | succ start => exact congrArg (e :: ·) (ih start)
    | zero =>
      by_cases hv : e.isVisible = true
      · simp [firstVisibleFrom, hv]
      · -- an invisible head is passed and left
        have hhidden : e.isInvisible = true := by simpa [Reference.isVisible] using hv
        have hrest := ih 0
        simp only [firstVisibleFrom, hv, Bool.false_eq_true, if_false, withoutRowsFrom_cons_succ,
          hrest]
        simp [withoutRowsFrom, hhidden]

/-- A visible entry is not left, so that it can be removed. -/
theorem withoutRowsFrom_eraseIdx (h : VisibleAt entries ordinal) :
    withoutRowsFrom (entries.eraseIdx ordinal) ordinal = withoutRowsFrom entries ordinal := by
  induction entries generalizing ordinal with
  | nil => simp at h
  | cons e rest ih =>
    cases ordinal with
    | succ ordinal => exact congrArg (e :: ·) (ih (by simpa using h))
    | zero =>
      have hv : e.isInvisible = false := by simpa [Reference.isVisible] using h
      simp [withoutRowsFrom, hv]

end

namespace Listing

variable {start l : Listing} {sources : Sources} {n : Nat}

/-! ## Removals -/

theorem removeCurrent_of_onEntry (h : l.cursor < l.entries.length) :
    l.removeCurrent
      = ({ l with
          entries := l.entries.eraseIdx l.cursor
          dragging := false
          cursor := firstVisibleFrom (l.entries.eraseIdx l.cursor) l.cursor },
        true, [.removed l.cursorRow]) := by
  rw [removeCurrent, if_pos ((isOnEntry_iff l).mpr h)]

theorem removeCurrent_of_atEnd (h : l.entries.length ≤ l.cursor) :
    l.removeCurrent = (l, false, []) := by
  rw [removeCurrent, if_neg]
  exact mt (isOnEntry_iff l).mp (Nat.not_lt.mpr h)

/-- The listing after a number of removals. -/
def drain (sources : Sources) (l : Listing) (n : Nat) : Listing :=
  l.run sources (List.replicate n .removeCurrent)

theorem drain_succ (sources : Sources) (l : Listing) (n : Nat) :
    l.drain sources (n + 1) = (perform sources .removeCurrent (l.drain sources n)).listing := by
  rw [drain, run, List.replicate_succ', List.foldl_append]
  rfl

/-! ## What removals have done -/

/-- What `n` removals from `start` have done: the rows from the cursor on have moved up by `n`, and
apart from its rows the list is still the same. -/
structure Drained (start : Listing) (n : Nat) (l : Listing) : Prop where
  placed : l.CursorPlaced
  row : l.cursorRow = start.cursorRow
  rows : (visibleEntries l.entries).drop l.cursorRow
    = (visibleEntries start.entries).drop (start.cursorRow + n)
  left : withoutRowsFrom l.entries l.cursor = withoutRowsFrom start.entries start.cursor
  frame : l = { start with
    entries := l.entries, cursor := l.cursor, dragging := start.dragging && n == 0 }

theorem Drained.zero (h : start.CursorPlaced) : Drained start 0 start where
  placed := h
  row := rfl
  rows := rfl
  left := rfl
  frame := by simp

/-- A cursor in its place is on an entry exactly if there is a row left. -/
theorem CursorPlaced.cursor_lt_iff (h : l.CursorPlaced) :
    l.cursor < l.entries.length ↔ l.cursorRow < rowCount l.entries := by
  rw [← isOnEntry_iff, ← isOnEntry_atRow_iff, ← h.eq_atRow]

/-- Removals find an entry as long as there were rows. -/
theorem Drained.cursor_lt_iff (h : Drained start n l) :
    l.cursor < l.entries.length ↔ n < rowCount start.entries - start.cursorRow := by
  have hlength := congrArg List.length h.rows
  simp only [List.length_drop, length_visibleEntries] at hlength
  rw [h.placed.cursor_lt_iff]
  omega

/-- What is current after removals was in a row further down. -/
theorem Drained.current? (h : Drained start n l) (hentry : l.cursor < l.entries.length) :
    ∃ e, l.current? = some e ∧ (visibleEntries start.entries)[start.cursorRow + n]? = some e := by
  obtain ⟨e, he, hv⟩ := h.placed.visibleAt hentry
  refine ⟨e, he, ?_⟩
  -- the first of the rows from the cursor on, now and before the removals
  have hrow : (visibleEntries l.entries)[l.cursorRow]? = some e :=
    getElem?_visibleEntries_rowOf he hv
  have hfirst := congrArg (fun rows => rows[0]?) h.rows
  simpa [hrow, eq_comm] using hfirst

/-- **One removal** takes the entry of the row of the cursor, and the next row moves up. -/
theorem Drained.removeCurrent (h : Drained start n l) (hentry : l.cursor < l.entries.length) :
    Drained start (n + 1) l.removeCurrent.1 := by
  have hvisible := h.placed.visibleAt hentry
  have hrow : l.removeCurrent.1.cursorRow = l.cursorRow := by
    rw [removeCurrent_of_onEntry hentry]
    show rowOf _ (firstVisibleFrom _ _) = rowOf l.entries l.cursor
    rw [firstVisibleFrom_eq, rowOf_rowOrdinal (rowOf_le_rowCount _ _), rowOf,
      List.take_eraseIdx_eq_take_of_le _ _ _ (Nat.le_refl _)]
    rfl
  refine ⟨cursorPlaced_removeCurrent h.placed, hrow.trans h.row, ?_, ?_, ?_⟩
  · -- the rows behind the cursor's move up by one
    have hrows : visibleEntries l.removeCurrent.1.entries
        = (visibleEntries l.entries).eraseIdx l.cursorRow := by
      rw [removeCurrent_of_onEntry hentry]
      exact visibleEntries_eraseIdx_of_visible hvisible
    have hbefore : ((visibleEntries l.entries).take l.cursorRow).length = l.cursorRow := by
      rw [List.length_take_of_le]
      exact length_visibleEntries l.entries ▸ l.cursorRow_le
    calc (visibleEntries l.removeCurrent.1.entries).drop l.removeCurrent.1.cursorRow
        = ((visibleEntries l.entries).eraseIdx l.cursorRow).drop l.cursorRow := by rw [hrows, hrow]
      _ = (visibleEntries l.entries).drop (l.cursorRow + 1) := by
        rw [List.eraseIdx_eq_take_drop_succ, List.drop_left' hbefore]
      _ = ((visibleEntries l.entries).drop l.cursorRow).drop 1 := List.drop_drop.symm
      _ = (visibleEntries start.entries).drop (start.cursorRow + (n + 1)) := by
        rw [h.rows, List.drop_drop, Nat.add_assoc]
  · -- neither what is taken nor what is passed counts among the rest
    rw [← h.left, removeCurrent_of_onEntry hentry]
    exact (withoutRowsFrom_firstVisibleFrom _ _).trans (withoutRowsFrom_eraseIdx hvisible)
  · -- all else stays, but that the drag ends
    rw [removeCurrent_of_onEntry hentry]
    conv_lhs => rw [h.frame]
    simp

/-- **All removals**: as many as there are rows from the cursor on. -/
theorem drained_drain (hplaced : l.CursorPlaced) (sources : Sources)
    (hn : n ≤ rowCount l.entries - l.cursorRow) : Drained l n (l.drain sources n) := by
  induction n with
  | zero => exact .zero hplaced
  | succ n ih =>
    have hdrained := ih (Nat.le_of_succ_le hn)
    rw [drain_succ]
    exact hdrained.removeCurrent (hdrained.cursor_lt_iff.mpr hn)

/-! ## How removals go on and end -/

/-- At the end of the list a removal does nothing. -/
theorem perform_removeCurrent_of_atEnd (h : l.entries.length ≤ l.cursor) (sources : Sources) :
    perform sources .removeCurrent l = ⟨l, .flag false, [], []⟩ := by
  rw [perform, removeCurrent_of_atEnd h]

/-- Once the cursor is at the end of the list, removals change nothing any more. -/
theorem drain_of_atEnd {m : Nat}
    (h : (l.drain sources m).entries.length ≤ (l.drain sources m).cursor) (hm : m ≤ n) :
    l.drain sources n = l.drain sources m := by
  induction hm with
  | refl => rfl
  | step _ ih => rw [drain_succ, ih, perform_removeCurrent_of_atEnd h]

/-- **Draining.** With the cursor at the end of the list or on a visible entry, as many removals
find an entry as there are rows from the cursor on. Each of them takes the current entry, which is
the next one of these rows, and nothing else from the list, and tells the view the row of the
cursor, which is always the same. From then on removals find nothing, change nothing and tell
nothing. What is left are the entries before the cursor and the invisible ones from there on, with
the cursor at the end of the list. -/
theorem drains (sources : Sources) (l : Listing) (hplaced : l.CursorPlaced) :
    let row := (l.entries.take l.cursor).countP Reference.isVisible
    let rows := l.entries.countP Reference.isVisible - row
    let left := l.entries.take l.cursor ++ (l.entries.drop l.cursor).filter Reference.isInvisible
    let before := fun n => l.run sources (List.replicate n .removeCurrent)
    let reply := fun n => perform sources .removeCurrent (before n)
    (∀ n < rows, ∃ e,
        (before n).current? = some e ∧ (visibleEntries l.entries)[row + n]? = some e ∧
        (reply n).listing
          = { before n with
              entries := (before n).entries.eraseIdx (before n).cursor
              cursor := (reply n).listing.cursor
              dragging := false } ∧
        (reply n).answer = .flag true ∧ (reply n).notices = [.removed row] ∧
        (reply n).moves = []) ∧
      (∀ n, rows ≤ n → before n = before rows ∧ reply n = ⟨before n, .flag false, [], []⟩) ∧
      before rows
        = { l with
            entries := left, cursor := left.length, dragging := l.dragging && rows == 0 } := by
  intro row rows left before reply
  have hdrained (n : Nat) (hn : n ≤ rows) : Drained l n (before n) :=
    drained_drain hplaced sources hn
  have hlast := hdrained rows (Nat.le_refl _)
  have hend : (before rows).entries.length ≤ (before rows).cursor :=
    Nat.not_lt.mp fun hentry => Nat.lt_irrefl _ (hlast.cursor_lt_iff.mp hentry)
  refine ⟨fun n hn => ?_, fun n hn => ?_, ?_⟩
  · -- while there are rows left
    have hn' := hdrained n (Nat.le_of_lt hn)
    have hentry := hn'.cursor_lt_iff.mpr hn
    obtain ⟨e, hcurrent, hrow⟩ := hn'.current? hentry
    have hremoved := removeCurrent_of_onEntry hentry
    have hlisting : (reply n).listing = (before n).removeCurrent.1 := rfl
    have hanswer : (reply n).answer = .flag (before n).removeCurrent.2.1 := rfl
    have hnotices : (reply n).notices = (before n).removeCurrent.2.2 := rfl
    refine ⟨e, hcurrent, hrow, ?_, ?_, ?_, rfl⟩
    · rw [hlisting, hremoved]
    · rw [hanswer, hremoved]
    · rw [hnotices, hremoved, hn'.row]
      rfl
  · -- when the last row is gone
    have hstays : before n = before rows := drain_of_atEnd hend hn
    refine ⟨hstays, ?_⟩
    rw [← hstays] at hend
    exact perform_removeCurrent_of_atEnd hend sources
  · -- nothing is listed from the cursor on, so what is listed is what is left
    have hleft : (before rows).entries = left := by
      rw [← withoutRowsFrom_of_length_le hend, hlast.left]
      rfl
    have hcursor : (before rows).cursor = left.length := by
      rw [← hleft]
      exact Nat.le_antisymm hlast.placed.cursor_le hend
    conv_lhs => rw [hlast.frame, hleft, hcursor]

/-- Two rows from the cursor on, with invisible entries before, between and behind them. -/
def amongHidden : Listing :=
  { empty with
    entries := [shownEntry, hiddenEntry, .marker "other", hiddenEntry, shownEntry, hiddenEntry]
    cursor := 2
    dragging := true }

theorem drains_amongHidden :
    amongHidden.CursorPlaced ∧
      (let before := fun n => amongHidden.run .silent (List.replicate n .removeCurrent)
      (before 2).entries = [shownEntry, hiddenEntry, hiddenEntry, hiddenEntry] ∧
        (before 2).cursor = 4 ∧ (before 2).dragging = false ∧ before 5 = before 2 ∧
        (perform .silent .removeCurrent (before 1)).notices = [.removed 1]) := by
  have hplaced : amongHidden.CursorPlaced := by decide
  obtain ⟨hfound, hstays, hlast⟩ := drains .silent amongHidden hplaced
  obtain ⟨_, -, -, -, -, hnotices, -⟩ := hfound 1 (by decide)
  exact ⟨hplaced, congrArg entries hlast, congrArg cursor hlast, congrArg dragging hlast,
    (hstays 5 (by decide)).1, hnotices⟩

end Listing

end Bouquet
