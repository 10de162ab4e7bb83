import Bouquet.Proofs.Effects

/-!
# A Mirror of the Rows

A view holds a copy of the rows and learns of changes by notices alone: it inserts a row that was
added, deletes one that was removed, reads one that changed again, and reads all of them after a
reset. The copy follows the list through every operation except where a notice names a row that
does not belong to the entry it is about, which takes an invisible entry.

## Main definitions

- `Notice.reflect?`, `mirror?`: what a mirror does on hearing notices
- `Listing.ReadingTime`, `Listing.readings`: the list that a notice is read against
- `Listing.Misreports`: the steps that the mirror cannot follow

## Main statements

- `Listing.mirror_perform_iff`: one operation
- `Listing.mirror_follows_iff`: the mirror holds the rows throughout a run exactly if no step of the
  run misreports
-/

namespace Bouquet

/-! ## Mirrors -/

/-- What a mirror that holds `rows` holds after a notice, when it reads rows from `entries`. There
is no result when the notice names a row that does not exist. -/
def Notice.reflect? (entries rows : List Reference) : Notice → Option (List Reference)
  | .added row =>
    if row ≤ rows.length then (visibleEntries entries)[row]?.map fun e => rows.insertIdx row e
    else none
  | .removed row => if row < rows.length then some (rows.eraseIdx row) else none
  | .changed row =>
    if row < rows.length then (visibleEntries entries)[row]?.map fun e => rows.set row e else none
  | .reset _ => some (visibleEntries entries)

/-- Notices that are read against the same list. -/
def readAgainst (entries : List Reference) (notices : List Notice) :
    List (Notice × List Reference) :=
  notices.map fun notice => (notice, entries)

@[simp]
theorem map_fst_readAgainst (entries : List Reference) (notices : List Notice) :
    (readAgainst entries notices).map (·.1) = notices := by
  simp [readAgainst, Function.comp_def]

/-- What a mirror holds after a sequence of notices, each with the list that it is read against. -/
def mirror? (rows : List Reference) (readings : List (Notice × List Reference)) :
    Option (List Reference) :=
  readings.foldlM (fun rows reading => reading.1.reflect? reading.2 rows) rows

@[simp]
theorem mirror?_nil (rows : List Reference) : mirror? rows [] = some rows := rfl

theorem mirror?_cons (rows : List Reference) (notice : Notice) (entries : List Reference)
    (readings : List (Notice × List Reference)) :
    mirror? rows ((notice, entries) :: readings)
      = (notice.reflect? entries rows).bind fun rows => mirror? rows readings := rfl

theorem mirror?_append (rows : List Reference) (first second : List (Notice × List Reference)) :
    mirror? rows (first ++ second)
      = (mirror? rows first).bind fun rows => mirror? rows second :=
  List.foldlM_append

theorem mirror?_singleton (rows : List Reference) (notice : Notice) (entries : List Reference) :
    mirror? rows (readAgainst entries [notice]) = notice.reflect? entries rows := by
  simp [readAgainst, mirror?_cons]

/-- Reading changed rows again brings a mirror up to date that differs in none but them. It fails
when one of them does not exist. -/
theorem mirror?_changed {entries rows : List Reference} {changed : List Nat}
    (hlen : rows.length = rowCount entries)
    (hrest : ∀ row, row ∉ changed → rows[row]? = (visibleEntries entries)[row]?) :
    mirror? rows (readAgainst entries (changed.map .changed))
      = if ∀ row ∈ changed, row < rowCount entries then some (visibleEntries entries)
        else none := by
  induction changed generalizing rows with
  | nil =>
    have hrows : rows = visibleEntries entries :=
      List.ext_getElem? fun row => hrest row List.not_mem_nil
    simp [hrows, readAgainst]
  | cons row changed ih =>
    rw [List.map_cons, readAgainst, List.map_cons, ← readAgainst, mirror?_cons]
    simp only [List.forall_mem_cons]
    by_cases hrow : row < rowCount entries
    · have hread : row < (visibleEntries entries).length := by
        rwa [length_visibleEntries]
      have hreflect : (Notice.changed row).reflect? entries rows
          = some (rows.set row (visibleEntries entries)[row]) := by
        simp [Notice.reflect?, hlen, hrow, hread]
      rw [hreflect, Option.bind_some, ih (by simpa using hlen)]
      · simp only [hrow, true_and]
      · -- the row that was read is as it should be, whether or not it is named again
        intro other hother
        by_cases heq : other = row
        · subst heq
          simp [hlen, hrow, hread]
        · rw [List.getElem?_set_ne (Ne.symm heq)]
          exact hrest other (List.not_mem_cons_of_ne_of_not_mem heq hother)
    · have hreflect : (Notice.changed row).reflect? entries rows = none := by
        simp [Notice.reflect?, hlen, hrow]
      simp [hreflect, hrow]

namespace Listing

/-! ## Reading the list -/

/-- When a mirror reads the list: as soon as it hears a notice, or after the operation. -/
inductive ReadingTime where
  | atOnce
  | afterwards

/-- The notices of a sequence of steps, each with the entries at its time. -/
def stepReadings (step : Listing → Option (Listing × List Notice)) :
    Nat → Listing → List (Notice × List Reference)
  | 0, _ => []
  | count + 1, l =>
    match step l with
    | none => []
    | some (l, notices) =>
      readAgainst l.entries notices ++ stepReadings step count l

/-- The notices of an operation, each with the list that it is read against. Only a drag reports
before all of its work is done. -/
def readings (time : ReadingTime) (sources : Sources) (op : ListingOp) (l : Listing) :
    List (Notice × List Reference) :=
  match time, op with
  | .atOnce, .move count => stepReadings (stepToward count) count.natAbs l
  | _, _ =>
    let reply := perform sources op l
    readAgainst reply.listing.entries reply.notices

/-- The notices of a run with the lists that they are read against, in order. -/
def runReadings (time : ReadingTime) :
    List (Sources × ListingOp) → Listing → List (Notice × List Reference)
  | [], _ => []
  | (sources, op) :: steps, l =>
    readings time sources op l ++ runReadings time steps (perform sources op l).listing

theorem stepReadings_succ_of_some {step : Listing → Option (Listing × List Notice)} {count : Nat}
    {l l' : Listing} {notices : List Notice} (h : step l = some (l', notices)) :
    stepReadings step (count + 1) l
      = readAgainst l'.entries notices ++ stepReadings step count l' := by
  simp [stepReadings, h]

theorem stepReadings_succ_of_none {step : Listing → Option (Listing × List Notice)} {count : Nat}
    {l : Listing} (h : step l = none) : stepReadings step (count + 1) l = [] := by
  simp [stepReadings, h]

theorem stepReadings_notices (step : Listing → Option (Listing × List Notice)) (count : Nat)
    (l : Listing) : (stepReadings step count l).map (·.1) = (steps step count l).2.2 := by
  induction count generalizing l with
  | zero => rfl
  | succ count ih =>
    cases h : step l with
    | none => rw [stepReadings_succ_of_none h, steps_succ_of_none h, List.map_nil]
    | some result =>
      obtain ⟨l', notices⟩ := result
      rw [stepReadings_succ_of_some h, steps_succ_of_some h]
      simp [ih]

/-- The readings are of the notices that the operation reports, at either time. -/
theorem readings_notices (time : ReadingTime) (sources : Sources) (op : ListingOp) (l : Listing) :
    (readings time sources op l).map (·.1) = (perform sources op l).notices := by
  cases time with
  | afterwards => simp [readings]
  | atOnce =>
    cases op with
    | move count =>
      simp only [readings, perform, stepReadings_notices, move_eq_steps]
    | _ => simp [readings]

/-! ## The rows that a move names -/

/-- Two lists have as many rows and differ in none but the named ones. -/
structure DifferIn (changed : List Nat) (entries others : List Reference) : Prop where
  rowCount_eq : rowCount others = rowCount entries
  rest : ∀ row, row ∉ changed → (visibleEntries entries)[row]? = (visibleEntries others)[row]?

theorem DifferIn.refl (entries : List Reference) : DifferIn [] entries entries :=
  ⟨rfl, fun _ _ => rfl⟩

theorem DifferIn.trans {first second : List Nat} {entries others later : List Reference}
    (h : DifferIn first entries others) (h' : DifferIn second others later) :
    DifferIn (first ++ second) entries later := by
  refine ⟨h'.rowCount_eq.trans h.rowCount_eq, fun row hrow => ?_⟩
  rw [List.mem_append, not_or] at hrow
  exact (h.rest row hrow.1).trans (h'.rest row hrow.2)

/-- A mirror follows a change of rows that are all named, as long as they exist. -/
theorem DifferIn.mirror?_eq {changed : List Nat} {entries others : List Reference}
    (h : DifferIn changed entries others) :
    mirror? (visibleEntries entries) (readAgainst others (changed.map .changed))
      = if ∀ row ∈ changed, row < rowCount entries then some (visibleEntries others)
        else none := by
  rw [mirror?_changed (by rw [length_visibleEntries, h.rowCount_eq]) h.rest, h.rowCount_eq]

/-- A stride names the rows that it changes. -/
theorem Stride.differIn {l l' : Listing} {notices : List Notice} (h : Stride l l' notices) :
    ∃ changed : List Nat, notices = changed.map .changed ∧
      DifferIn changed l.entries l'.entries := by
  cases h with
  | drag target _ hentry htarget _ hbetween =>
    refine ⟨[rowOf (swapped l.entries l.cursor target) l.cursor,
      rowOf (swapped l.entries l.cursor target) target], rfl, rowCount_swapped .., ?_⟩
    intro row hrow
    rw [List.mem_cons, List.mem_singleton, not_or] at hrow
    -- two visible entries exchange their rows, an invisible one passes a row by
    by_cases hcurrent : VisibleAt l.entries l.cursor
    · rw [rowOf_swapped hcurrent htarget, rowOf_swapped hcurrent htarget] at hrow
      obtain ⟨a, ha, hav⟩ := hcurrent
      obtain ⟨b, hb, hbv⟩ := htarget
      rw [visibleEntries_swapped ha hb hav hbv, List.getElem?_set_ne (Ne.symm hrow.2),
        List.getElem?_set_ne (Ne.symm hrow.1)]
    · rw [visibleEntries_swapped_of_hidden hentry hcurrent htarget hbetween]
  | walk target _ _ => exact ⟨[], rfl, DifferIn.refl _⟩

/-- So do all strides of a move together, and a mirror that reads each row at once follows them as
long as all of these rows exist. -/
private theorem steps_differIn {step : Listing → Option (Listing × List Notice)}
    (hstep : ∀ l l' notices, step l = some (l', notices) → Stride l l' notices) (count : Nat)
    (l : Listing) :
    ∃ changed : List Nat, (steps step count l).2.2 = changed.map .changed ∧
      DifferIn changed l.entries (steps step count l).1.entries ∧
      mirror? (visibleEntries l.entries) (stepReadings step count l)
        = if ∀ row ∈ changed, row < rowCount l.entries then
            some (visibleEntries (steps step count l).1.entries)
          else none := by
  induction count generalizing l with
  | zero => exact ⟨[], rfl, DifferIn.refl _, by simp [stepReadings, steps]⟩
  | succ count ih =>
    cases h : step l with
    | none =>
      rw [steps_succ_of_none h, stepReadings_succ_of_none h]
      exact ⟨[], rfl, DifferIn.refl _, by simp⟩
    | some result =>
      obtain ⟨l', notices⟩ := result
      obtain ⟨first, rfl, hfirst⟩ := (hstep l l' notices h).differIn
      obtain ⟨later, hnotices, hlater, hmirror⟩ := ih l'
      rw [steps_succ_of_some h, stepReadings_succ_of_some h]
      refine ⟨first ++ later, by simp [hnotices], hfirst.trans hlater, ?_⟩
      rw [mirror?_append, hfirst.mirror?_eq]
      simp only [List.forall_mem_append]
      -- a mirror that misses a row of the first step never gets to the later ones
      by_cases hexist : ∀ row ∈ first, row < rowCount l.entries
      · rw [if_pos hexist, Option.bind_some, hmirror, hfirst.rowCount_eq]
        simp only [and_iff_right hexist]
      · rw [if_neg hexist, if_neg fun hall => hexist hall.1, Option.bind_none]

/-- The rows that changed according to the notices exist. -/
def RowsExist (entries : List Reference) (notices : List Notice) : Prop :=
  ∀ row, .changed row ∈ notices → row < rowCount entries

theorem rowsExist_nil (entries : List Reference) : RowsExist entries [] :=
  fun _ hrow => absurd hrow List.not_mem_nil

theorem rowsExist_pair (entries : List Reference) (row other : Nat) :
    RowsExist entries [.changed row, .changed other]
      ↔ row < rowCount entries ∧ other < rowCount entries := by
  simp [RowsExist]

theorem rowsExist_append (entries : List Reference) (first second : List Notice) :
    RowsExist entries (first ++ second) ↔ RowsExist entries first ∧ RowsExist entries second := by
  simp only [RowsExist, List.mem_append, or_imp, forall_and]

/-- A mirror follows a move exactly if all rows that the move names exist, whenever it reads
them. -/
theorem mirror?_move_iff (time : ReadingTime) (sources : Sources) (count : Int) (l : Listing) :
    mirror? (visibleEntries l.entries) (readings time sources (.move count) l)
        = some (visibleEntries (l.move count).1.entries)
      ↔ RowsExist l.entries (l.move count).2.2 := by
  have hsteps : ∃ changed : List Nat, (l.move count).2.2 = changed.map .changed ∧
      DifferIn changed l.entries (l.move count).1.entries ∧
      mirror? (visibleEntries l.entries) (readings .atOnce sources (.move count) l)
        = if ∀ row ∈ changed, row < rowCount l.entries then
            some (visibleEntries (l.move count).1.entries)
          else none := by
    simp only [readings, move_eq_steps]
    exact steps_differIn (fun _ _ _ => stride_of_stepToward) count.natAbs l
  obtain ⟨changed, hnotices, hdiffer, hatOnce⟩ := hsteps
  have hexist : RowsExist l.entries (l.move count).2.2
      ↔ ∀ row ∈ changed, row < rowCount l.entries := by
    simp [RowsExist, hnotices]
  rw [hexist]
  cases time with
  | atOnce => simp [hatOnce]
  | afterwards =>
    -- all notices are read against the last list, which differs in the named rows only
    have hreadings : readings .afterwards sources (.move count) l
        = readAgainst (l.move count).1.entries (changed.map .changed) := by
      rw [← hnotices]
      rfl
    rw [hreadings, hdiffer.mirror?_eq]
    simp

/-! ## Drags of invisible entries -/

/-- The cursor is on an invisible entry. -/
def OnHidden (l : Listing) : Prop :=
  l.cursor < l.entries.length ∧ ¬ VisibleAt l.entries l.cursor

/-- Unless an invisible entry is dragged, a stride names rows that exist, and it does not begin to
drag an invisible entry. -/
private theorem rowsExist_of_stride {l l' : Listing} {notices : List Notice}
    (hstride : Stride l l' notices) (h : ¬ (l.dragging = true ∧ l.OnHidden)) :
    RowsExist l.entries notices ∧ ¬ (l'.dragging = true ∧ l'.OnHidden) := by
  cases hstride with
  | drag target hdragging hentry htarget _ _ =>
    have hcurrent : VisibleAt l.entries l.cursor :=
      Decidable.byContradiction fun hhidden => h ⟨hdragging, hentry, hhidden⟩
    constructor
    · -- both entries are visible, so they exchange rows that were there before
      rw [rowsExist_pair, rowOf_swapped hcurrent htarget, rowOf_swapped hcurrent htarget]
      exact ⟨rowOf_lt_rowCount hcurrent, rowOf_lt_rowCount htarget⟩
    · -- the visible entry went along with the cursor
      rintro ⟨-, -, hhidden⟩
      refine hhidden ((visibleAt_swapped hentry htarget.lt_length target).mpr ?_)
      rwa [Equiv.swap_apply_right]
  | walk target _ htarget =>
    refine ⟨rowsExist_nil _, ?_⟩
    rintro ⟨-, hlt, hhidden⟩
    rcases htarget with hvisible | rfl
    · exact hhidden hvisible
    · exact Nat.lt_irrefl _ hlt

private theorem rowsExist_steps {step : Listing → Option (Listing × List Notice)}
    (hstep : ∀ l l' notices, step l = some (l', notices) → Stride l l' notices) (count : Nat)
    {l : Listing} (h : ¬ (l.dragging = true ∧ l.OnHidden)) :
    RowsExist l.entries (steps step count l).2.2 := by
  induction count generalizing l with
  | zero => exact rowsExist_nil _
  | succ count ih =>
    cases hl : step l with
    | none =>
      rw [steps_succ_of_none hl]
      exact rowsExist_nil _
    | some result =>
      obtain ⟨l', notices⟩ := result
      -- there are as many rows before each step as after it
      have hstride := hstep l l' notices hl
      obtain ⟨hexist, h'⟩ := rowsExist_of_stride hstride h
      obtain ⟨_, -, hdiffer⟩ := hstride.differIn
      have hlater := ih h'
      rw [RowsExist, hdiffer.rowCount_eq] at hlater
      rw [steps_succ_of_some hl, rowsExist_append]
      exact ⟨hexist, hlater⟩

/-- A dragged invisible entry stays under the cursor. -/
private theorem onHidden_drag {l : Listing} {target : Nat} (hhidden : l.OnHidden)
    (htarget : target < l.entries.length) :
    OnHidden { l with entries := swapped l.entries l.cursor target, cursor := target } := by
  refine ⟨by simpa using htarget, fun hvisible => hhidden.2 ?_⟩
  rwa [visibleAt_swapped hhidden.1 htarget, Equiv.swap_apply_right] at hvisible

/-- An invisible entry is dragged backward over rows that exist. -/
private theorem rowsExist_stepBackward (count : Nat) {l : Listing} (hdragging : l.dragging = true)
    (hhidden : l.OnHidden) : RowsExist l.entries (steps stepBackward count l).2.2 := by
  induction count generalizing l with
  | zero => exact rowsExist_nil _
  | succ count ih =>
    cases hlast : lastVisibleBefore? l.entries l.cursor with
    | none =>
      rw [steps_succ_of_none (by simp [stepBackward, hlast])]
      exact rowsExist_nil _
    | some target =>
      obtain ⟨hlt, htarget, -⟩ := lastVisibleBefore?_eq_some hlast
      have hstep : l.stepBackward = some (l.travel target) := by
        simp [stepBackward, hlast]
      rw [travel_of_dragging hdragging hhidden.1] at hstep
      rw [steps_succ_of_some hstep, rowsExist_append, rowsExist_pair]
      constructor
      · -- the visible entry now stands at the old place of the cursor, behind the invisible one
        have hnow : VisibleAt (swapped l.entries l.cursor target) l.cursor := by
          rwa [visibleAt_swapped hhidden.1 htarget.lt_length, Equiv.swap_apply_left]
        have hrow := rowOf_lt_rowCount hnow
        have hmono : rowOf (swapped l.entries l.cursor target) target
            ≤ rowOf (swapped l.entries l.cursor target) l.cursor :=
          rowOf_mono (Nat.le_of_lt hlt)
        rw [rowCount_swapped] at hrow
        exact ⟨hrow, Nat.lt_of_le_of_lt hmono hrow⟩
      · have hlater := ih (l := { l with
          entries := swapped l.entries l.cursor target, cursor := target }) hdragging
          (onHidden_drag hhidden htarget.lt_length)
        rwa [RowsExist, rowCount_swapped] at hlater

/-- An invisible entry is dragged forward over rows that exist, except when it is to go behind the
last of them. -/
private theorem rowsExist_stepForward_iff (count : Nat) {l : Listing}
    (hdragging : l.dragging = true) (hhidden : l.OnHidden) :
    RowsExist l.entries (steps stepForward count l).2.2
      ↔ ¬ (l.cursorRow < rowCount l.entries ∧ rowCount l.entries ≤ l.cursorRow + count) := by
  induction count generalizing l with
  | zero => exact iff_of_true (rowsExist_nil _) (by omega)
  | succ count ih =>
    have hon : l.isOnEntry = true := (isOnEntry_iff l).mpr hhidden.1
    cases hnext : nextVisible? l.entries l.cursor with
    | none =>
      -- every row is before the cursor, so there is none to drag the entry over
      have hlast : l.cursorRow = rowCount l.entries := by
        rw [cursorRow, ← rowOf_of_length_le (Nat.le_refl l.entries.length)]
        refine (rowOf_eq_of_none_visible (Nat.le_of_lt hhidden.1) fun k hk _ => ?_).symm
        rcases Nat.eq_or_lt_of_le hk with rfl | hlt
        · exact hhidden.2
        · exact nextVisible?_eq_none hnext k hlt
      rw [steps_succ_of_none (by simp [stepForward, hon, hnext, hdragging])]
      exact iff_of_true (rowsExist_nil _) (by omega)
    | some target =>
      obtain ⟨hlt, htarget, hbetween⟩ := nextVisible?_eq_some hnext
      have hstep : l.stepForward = some (l.travel target) := by
        simp [stepForward, hon, hnext]
      rw [travel_of_dragging hdragging hhidden.1] at hstep
      obtain ⟨hfirst, hsecond, hrow⟩ := rowOf_swapped_of_lt hlt hhidden.2 htarget hbetween
      have hbelow : l.cursorRow < rowCount l.entries := by
        rw [cursorRow, ← hrow]
        exact rowOf_lt_rowCount htarget
      have hlater := ih (l := { l with
        entries := swapped l.entries l.cursor target, cursor := target }) hdragging
        (onHidden_drag hhidden htarget.lt_length)
      simp only [RowsExist, rowCount_swapped, cursorRow, hsecond] at hlater
      -- each step goes one row on, so the last row is named when `count` steps reach it
      rw [steps_succ_of_some hstep, rowsExist_append, rowsExist_pair, RowsExist, hlater, hfirst,
        hsecond]
      rw [cursorRow] at hbelow ⊢
      omega

/-! ## Steps and runs -/

/-- The steps that a mirror cannot follow: an invisible entry is reported as an added row or as a
removed one, the end of the list is reported as a changed row because an invisible entry behind the
last row begins or ends its drag, or such an entry is dragged over the last row. -/
def Misreports (l : Listing) : ListingOp → Prop
  | .add entry _ => entry.isInvisible = true
  | .append entry => entry.isInvisible = true
  | .removeCurrent => l.OnHidden
  | .setDragging _ => l.OnHidden ∧ l.cursorRow = rowCount l.entries
  | .move count => l.dragging = true ∧ l.OnHidden ∧ l.cursorRow < rowCount l.entries ∧
      (rowCount l.entries : Int) ≤ l.cursorRow + count
  | _ => False

theorem rowsExist_move_iff (count : Int) (l : Listing) :
    RowsExist l.entries (l.move count).2.2 ↔ ¬ Misreports l (.move count) := by
  by_cases hdrags : l.dragging = true ∧ l.OnHidden
  · obtain ⟨hdragging, hhidden⟩ := hdrags
    by_cases h : 0 ≤ count
    · simp only [move_eq_steps, stepToward, if_pos h,
        rowsExist_stepForward_iff count.natAbs hdragging hhidden, Misreports, hdragging, hhidden,
        true_and]
      omega
    · simp only [move_eq_steps, stepToward, if_neg h]
      refine iff_of_true (rowsExist_stepBackward count.natAbs hdragging hhidden) ?_
      simp only [Misreports]
      omega
  · have hno : ¬ Misreports l (.move count) := fun h => hdrags ⟨h.1, h.2.1⟩
    rw [move_eq_steps]
    exact iff_of_true (rowsExist_steps (fun _ _ _ => stride_of_stepToward) count.natAbs hdrags) hno

/-- A mirror takes over what is inserted exactly if it is visible. -/
theorem reflect?_added_iff {entries : List Reference} {ordinal : Nat} (r : Reference)
    (h : ordinal ≤ entries.length) :
    (Notice.added (rowOf (entries.insertIdx ordinal r) ordinal)).reflect?
        (entries.insertIdx ordinal r) (visibleEntries entries)
      = some (visibleEntries (entries.insertIdx ordinal r)) ↔ ¬ r.isInvisible = true := by
  rw [rowOf_insertIdx]
  have hrow : rowOf entries ordinal ≤ (visibleEntries entries).length := by
    rw [length_visibleEntries]
    exact rowOf_le_rowCount entries ordinal
  by_cases hv : r.isVisible = true
  · refine iff_of_true ?_ (by simpa [Reference.isVisible] using hv)
    -- the mirror reads the new entry at the row where it inserts
    have hread : ((visibleEntries entries).insertIdx (rowOf entries ordinal) r)[rowOf entries
        ordinal]? = some r := by
      rw [List.getElem?_insertIdx_self, if_pos hrow]
    simp only [Notice.reflect?, hrow, if_true, visibleEntries_insertIdx_of_visible hv h, hread,
      Option.map_some]
  · have hinvisible : r.isInvisible = true := by simpa [Reference.isVisible] using hv
    refine iff_of_false ?_ (by simp [hinvisible])
    -- the mirror inserts a row, but there are no more rows than before
    rw [visibleEntries_insertIdx_of_invisible hinvisible h]
    intro hsome
    simp only [Notice.reflect?, hrow, if_true, Option.map_eq_some_iff] at hsome
    obtain ⟨e, -, hinsert⟩ := hsome
    have hlen := congrArg List.length hinsert
    rw [List.length_insertIdx_of_le_length hrow] at hlen
    omega

/-- A mirror lets go of what is removed exactly if it is visible. -/
theorem reflect?_removed_iff {entries : List Reference} {ordinal : Nat} :
    (Notice.removed (rowOf entries ordinal)).reflect? (entries.eraseIdx ordinal)
        (visibleEntries entries)
      = some (visibleEntries (entries.eraseIdx ordinal)) ↔ VisibleAt entries ordinal := by
  by_cases hv : VisibleAt entries ordinal
  · have hrow : rowOf entries ordinal < (visibleEntries entries).length := by
      rw [length_visibleEntries]
      exact rowOf_lt_rowCount hv
    refine iff_of_true ?_ hv
    rw [visibleEntries_eraseIdx_of_visible hv]
    simp [Notice.reflect?, hrow]
  · refine iff_of_false ?_ hv
    -- the mirror deletes a row, but there are as many rows as before
    rw [visibleEntries_eraseIdx_of_invisible hv]
    intro hsome
    simp only [Notice.reflect?] at hsome
    split at hsome
    case isTrue hrow =>
      have hlen := congrArg List.length (Option.some.inj hsome)
      rw [List.length_eraseIdx_of_lt hrow] at hlen
      omega
    case isFalse => simp at hsome

/-- The row that begins or ends its drag is read again, if it is one. -/
private theorem mirror_setDragging_iff (sources : Sources) (state : Bool) (l : Listing) :
    mirror? (visibleEntries l.entries)
        (readAgainst (perform sources (.setDragging state) l).listing.entries
          (perform sources (.setDragging state) l).notices)
      = some (visibleEntries (perform sources (.setDragging state) l).listing.entries)
      ↔ ¬ Misreports l (.setDragging state) := by
  rw [perform_entries]
  cases hcurrent : l.current? with
  | none =>
    have hle : l.entries.length ≤ l.cursor := List.getElem?_eq_none_iff.mp hcurrent
    refine iff_of_true ?_ fun h => Nat.not_lt.mpr hle h.1.1
    simp [perform, setDragging, hcurrent, readAgainst]
  | some entry =>
    have hnotices : (perform sources (.setDragging state) l).notices
        = [l.cursorRow].map Notice.changed := by
      simp [perform, setDragging, hcurrent]
    have hlt : l.cursor < l.entries.length := (List.getElem?_eq_some_iff.mp hcurrent).1
    have hle : l.cursorRow ≤ rowCount l.entries := rowOf_le_rowCount l.entries l.cursor
    rw [hnotices, mirror?_changed (length_visibleEntries l.entries) fun _ _ => rfl]
    simp only [List.forall_mem_singleton, Misreports, OnHidden]
    constructor
    · rintro hsome ⟨-, hlast⟩
      simp [hlast] at hsome
    · intro h
      have hrow : l.cursorRow < rowCount l.entries := by
        by_cases hv : VisibleAt l.entries l.cursor
        · exact rowOf_lt_rowCount hv
        · have hne : l.cursorRow ≠ rowCount l.entries := fun hlast => h ⟨⟨hlt, hv⟩, hlast⟩
          omega
      exact if_pos hrow

/-- All operations but moves report after all of their work is done. -/
theorem readings_of_ne_move {op : ListingOp} (h : ∀ count, op ≠ .move count) (time : ReadingTime)
    (sources : Sources) (l : Listing) :
    readings time sources op l
      = readAgainst (perform sources op l).listing.entries (perform sources op l).notices := by
  cases time with
  | afterwards => rfl
  | atOnce =>
    cases op with
    | move count => exact absurd rfl (h count)
    | _ => rfl

/-- **One operation**: a mirror that holds the rows holds them again after the notices of an
operation, exactly if the operation does not misreport. -/
theorem mirror_perform_iff (time : ReadingTime) (sources : Sources) (op : ListingOp)
    (l : Listing) :
    mirror? (visibleEntries l.entries) (readings time sources op l)
        = some (visibleEntries (perform sources op l).listing.entries)
      ↔ ¬ Misreports l op := by
  by_cases hmove : ∃ count, op = .move count
  · obtain ⟨count, rfl⟩ := hmove
    exact (mirror?_move_iff time sources count l).trans (rowsExist_move_iff count l)
  rw [readings_of_ne_move (not_exists.mp hmove)]
  cases op with
  | move count => exact absurd ⟨count, rfl⟩ hmove
  | load root rootOnly => cases rootOnly <;> exact iff_of_true rfl id
  | add entry before =>
    simp only [perform, add, mirror?_singleton]
    exact reflect?_added_iff entry (insertionPoint_le l before)
  | append entry =>
    -- to append is to insert at the end
    have happend : l.entries ++ [entry] = l.entries.insertIdx l.entries.length entry := by simp
    simp only [perform, append, size, mirror?_singleton, happend]
    exact reflect?_added_iff entry (Nat.le_refl _)
  | finishFill => exact iff_of_true rfl id
  | removeCurrent =>
    by_cases hentry : l.isOnEntry = true
    · have hlt := (isOnEntry_iff l).mp hentry
      simp only [perform, removeCurrent, hentry, if_true, mirror?_singleton, cursorRow,
        reflect?_removed_iff, Misreports, OnHidden, hlt, true_and, not_not]
    · -- at the end of the list nothing is removed and nothing reported
      have hle : ¬ l.cursor < l.entries.length := mt (isOnEntry_iff l).mpr hentry
      simp [perform, removeCurrent, hentry, Misreports, OnHidden, hle, readAgainst]
  | sort => exact iff_of_true rfl id
  | select entry =>
    have hsilent : (perform sources (.select entry) l).notices = [] := rfl
    rw [hsilent, perform_entries]
    exact iff_of_true rfl id
  | goBack key =>
    have hsilent : (perform sources (.goBack key) l).notices = [] := rfl
    rw [hsilent, perform_entries]
    exact iff_of_true rfl id
  | setDragging state => exact mirror_setDragging_iff sources state l
  | _ => exact iff_of_true rfl id

/-- **A mirror of the rows**: a mirror that starts with the rows of a listing, and reacts to every
notice of a run either at once or after the operation, finds every row that it is told about and
holds the rows after every operation, exactly if no step of the run misreports. -/
theorem mirror_follows_iff (time : ReadingTime) (steps : List (Sources × ListingOp))
    (l : Listing) :
    (∀ before, before <+: steps →
      mirror? (visibleEntries l.entries) (runReadings time before l)
        = some (visibleEntries (runSteps before l).entries))
      ↔ EveryStep (fun l _ op => ¬ Misreports l op) steps l := by
  induction steps generalizing l with
  | nil =>
    refine iff_of_true (fun before hbefore => ?_) everyStep_nil
    rw [List.prefix_nil.mp hbefore]
    rfl
  | cons step steps ih =>
    obtain ⟨sources, op⟩ := step
    rw [everyStep_cons, ← mirror_perform_iff time sources op l, ← ih]
    constructor
    · intro h
      -- the run of one step shows that the first step is followed, the longer ones the rest
      have hfirst := h [(sources, op)] (List.cons_prefix_cons.mpr ⟨rfl, List.nil_prefix⟩)
      rw [runReadings, runReadings, List.append_nil] at hfirst
      refine ⟨hfirst, fun before hbefore => ?_⟩
      have hrest := h ((sources, op) :: before) (List.cons_prefix_cons.mpr ⟨rfl, hbefore⟩)
      rw [runReadings, mirror?_append, hfirst, Option.bind_some] at hrest
      exact hrest
    · rintro ⟨hfirst, hrest⟩ before hbefore
      cases before with
      | nil => rfl
      | cons step before =>
        obtain ⟨rfl, hprefix⟩ := List.cons_prefix_cons.mp hbefore
        rw [runReadings, mirror?_append, hfirst, Option.bind_some]
        exact hrest before hprefix

/-- An appended invisible entry is reported as a row that does not exist, and one that is added
before a visible entry makes the mirror show that entry twice. -/
theorem mirror_misled_by_hiddenEntry :
    mirror? [] (runReadings .atOnce [(Sources.silent, .append hiddenEntry)] empty) = none ∧
      mirror? [] (runReadings .atOnce [(Sources.silent, .append shownEntry),
        (Sources.silent, .home), (Sources.silent, .add hiddenEntry true)] empty)
        = some [shownEntry, shownEntry] ∧
      visibleEntries (runSteps [(Sources.silent, .append shownEntry), (Sources.silent, .home),
        (Sources.silent, .add hiddenEntry true)] empty).entries = [shownEntry] := by
  decide

end Listing

end Bouquet
