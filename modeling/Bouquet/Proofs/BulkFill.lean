import Bouquet.Proofs.Effects
import Mathlib.Data.List.Induction

/-!
# Bulk Fills

A list is loaded at once from its source, or filled entry by entry and then finished. Both lead to
the same list with the cursor on the first visible entry. While a list is being filled the cursor
goes along with its end, and the view is told of every entry at the row behind those before it.

## Main definitions

- `Listing.Filled`: what a fill has done so far

## Main statements

- `Listing.Filled.append`, `Listing.filled_run`: one entry, and all of them
- `Listing.notices_fill`, `Listing.notices_fill_visible`: what the view is told
- `Listing.fill_agrees_with_load`: filling and loading
-/

namespace Bouquet.Listing

variable {start l : Listing} {xs : List Reference}

/-! ## What a fill has done -/

/-- What a fill with `xs` has done: the entries stand behind those that were listed, and the cursor
is at the end of the list, to which the first entry takes it. -/
structure Filled (start : Listing) (xs : List Reference) (l : Listing) : Prop where
  entries : l.entries = start.entries ++ xs
  off : l.isOnEntry = false
  cursor : xs ≠ [] ∨ start.cursor = start.size → l.cursor = l.size
  frame : l = { start with entries := l.entries, cursor := l.cursor }

theorem Filled.nil (h : start.isOnEntry = false) : Filled start [] start where
  entries := by simp
  off := h
  cursor h := h.resolve_left (absurd rfl)
  frame := rfl

/-- A cursor that is on no entry goes to the end of the longer list. -/
theorem append_of_off (h : l.isOnEntry = false) (x : Reference) :
    (l.append x).1
      = { l with entries := l.entries ++ [x], cursor := (l.entries ++ [x]).length } := by
  simp [append, h]

/-- **One entry** more, and the cursor is at the end of the longer list. -/
theorem Filled.append (h : Filled start xs l) (x : Reference) :
    Filled start (xs ++ [x]) (l.append x).1 := by
  rw [append_of_off h.off]
  refine ⟨?_, ?_, fun _ => rfl, ?_⟩
  · rw [h.entries, List.append_assoc]
  · simp [isOnEntry, size]
  · conv_lhs => rw [h.frame]

/-- **All entries**, one after another. -/
theorem filled_run (sources : Sources) (hoff : start.isOnEntry = false) (xs : List Reference) :
    Filled start xs (start.run sources (xs.map .append)) := by
  -- the last entry comes after what the others have done
  induction xs using List.reverseRecOn with
  | nil => exact .nil hoff
  | append_singleton xs x ih =>
    rw [List.map_append, run, List.foldl_append]
    exact ih.append x

/-! ## What the view is told -/

/-- An entry is added at the row behind all that are listed. -/
theorem append_notices (l : Listing) (x : Reference) :
    (l.append x).2 = [.added (rowCount l.entries)] := by
  rw [Listing.append, rowOf, size, List.take_left]
  rfl

theorem rowCount_concat (entries : List Reference) (x : Reference) :
    rowCount (entries ++ [x]) = rowCount entries + if x.isVisible then 1 else 0 := by
  simp [rowCount, List.countP_cons]

/-- The view is told of every entry of a fill at the row behind those before it. -/
theorem notices_fill (sources : Sources) (xs : List Reference) (l : Listing) :
    (replies sources (xs.map .append) l).map Reply.notices
      = (List.range xs.length).map fun n => [.added (rowCount (l.entries ++ xs.take n))] := by
  induction xs generalizing l with
  | nil => rfl
  | cons x xs ih =>
    have hlater := ih (l.append x).1
    have hentries : (l.append x).1.entries = l.entries ++ [x] := rfl
    simp only [hentries, List.append_assoc, List.singleton_append] at hlater
    rw [List.map_cons, replies, List.map_cons, List.length_cons, List.range_succ_eq_map,
      List.map_cons, List.map_map, List.take_zero, List.append_nil, ← append_notices l x]
    exact congrArg (List.cons _) hlater

/-- The visible entries of a fill are added in consecutive rows. -/
theorem notices_fill_visible (sources : Sources) (xs : List Reference) (l : Listing) :
    ((xs.zip ((replies sources (xs.map .append) l).map Reply.notices)).filter
        fun told => told.1.isVisible).map Prod.snd
      = (List.range' (rowCount l.entries) (rowCount xs)).map fun row => [.added row] := by
  induction xs generalizing l with
  | nil => rfl
  | cons x xs ih =>
    have hlater := ih (l.append x).1
    have hrows : rowCount (l.append x).1.entries = _ := rowCount_concat l.entries x
    have hfirst : (perform sources (.append x) l).notices = [.added (rowCount l.entries)] :=
      append_notices l x
    have hnext : (perform sources (.append x) l).listing = (l.append x).1 := rfl
    rw [List.map_cons, replies, hnext, List.map_cons, List.zip_cons_cons, hfirst]
    -- an invisible entry is told of as well, at a row that the next one takes again
    by_cases hv : x.isVisible = true
    · simp only [List.filter_cons, hv, if_true, List.map_cons, hlater, hrows]
      simp [rowCount, hv, List.range'_succ]
    · simp only [List.filter_cons, hv, Bool.false_eq_true, if_false, hlater, hrows]
      simp [rowCount, hv]

/-! ## Filling and loading -/

/-- **A bulk fill agrees with loading.** An empty list that is filled with the children of a root
and finished has the same entries and the same cursor as any list that loads this root; nothing
else of it has changed. While it is being filled it holds the entries so far, and the cursor is not
on any of them but at the end of the list. Every entry is told at the row behind those before it, so
that the visible ones are told at the rows from the first on, and the last that the view is told is
to start anew with the first row. -/
theorem fill_agrees_with_load (sources loading : Sources) (l other : Listing)
    (hempty : l.entries = []) (xs : List Reference) (root : Reference)
    (hxs : loading.children root = some xs) :
    let filling := fun n => l.run sources ((xs.take n).map .append)
    let finished := perform sources .finishFill (filling xs.length)
    let loaded := perform loading (.load root false) other
    let told := xs.zip ((replies sources (xs.map .append) l).map Reply.notices)
    finished.listing.entries = loaded.listing.entries ∧
      finished.listing.cursor = loaded.listing.cursor ∧
      finished.listing = { l with entries := xs, cursor := firstVisibleFrom xs 0 } ∧
      (∀ n ≤ xs.length, (filling n).entries = xs.take n ∧ (filling n).isOnEntry = false ∧
        (0 < n ∨ l.cursor = l.size → (filling n).cursor = (filling n).size)) ∧
      told.map Prod.snd
        = (List.range xs.length).map (fun n => [.added (rowCount (xs.take n))]) ∧
      (told.filter fun told => told.1.isVisible).map Prod.snd
        = (List.range (rowCount xs)).map (fun row => [.added row]) ∧
      ((replies sources (xs.map .append) l).flatMap Reply.notices
        ++ finished.notices).getLast? = some (.reset true) := by
  intro filling finished loaded told
  have hoff : l.isOnEntry = false := by simp [isOnEntry, size, hempty]
  have hfilled (n : Nat) : Filled l (xs.take n) (filling n) := filled_run sources hoff _
  have hentries (n : Nat) : (filling n).entries = xs.take n := by
    rw [(hfilled n).entries, hempty, List.nil_append]
  have hall : (filling xs.length).entries = xs := by rw [hentries, List.take_length]
  have hfinished :
      finished.listing = { l with entries := xs, cursor := firstVisibleFrom xs 0 } := by
    have hframe := (hfilled xs.length).frame
    rw [hall] at hframe
    show ({ filling xs.length with cursor := firstVisibleFrom _ 0 } : Listing) = _
    rw [hall]
    conv_lhs => rw [hframe]
  have hloaded : loaded.listing.entries = xs ∧ loaded.listing.cursor = firstVisibleFrom xs 0 := by
    have hchildren : (loading.children root).getD [] = xs := by rw [hxs, Option.getD_some]
    exact ⟨hchildren, congrArg (firstVisibleFrom · 0) hchildren⟩
  refine ⟨?_, ?_, hfinished, fun n hn => ⟨hentries n, (hfilled n).off, fun hsome => ?_⟩, ?_, ?_, ?_⟩
  · rw [hfinished, hloaded.1]
  · rw [hfinished, hloaded.2]
  · -- some entries have been added, or the cursor was at the end from the start
    refine (hfilled n).cursor (hsome.imp_left fun hpos htake => ?_)
    have hlength := congrArg List.length htake
    rw [List.length_take_of_le hn, List.length_nil] at hlength
    omega
  · -- every entry has its notices beside it
    rw [List.map_snd_zip, notices_fill, hempty]
    · rfl
    · simp [notices_fill]
  · -- no rows are there before the fill
    have hvisible := notices_fill_visible sources xs l
    have hnone : rowCount l.entries = 0 := by rw [hempty, rowCount, List.countP_nil]
    rwa [hnone, ← List.range_eq_range'] at hvisible
  · have hreset : finished.notices = [.reset true] := rfl
    rw [hreset, List.getLast?_concat]

/-- Invisible entries before and between two rows, loaded under a root. -/
def withHidden : List Reference := [hiddenEntry, shownEntry, hiddenEntry, .marker "other"]

theorem fill_agrees_with_load_withHidden :
    let loading := { Sources.silent with children := fun _ => some withHidden }
    (empty.entries = [] ∧ loading.children .blank = some withHidden) ∧
      let filled := empty.run .silent (withHidden.map .append)
      (perform .silent .finishFill filled).listing.cursor
          = (perform loading (.load .blank false) empty).listing.cursor ∧
        (perform .silent .finishFill filled).listing.cursor = 1 ∧ filled.cursor = 4 := by
  intro loading
  obtain ⟨-, hcursor, -, hfilling, -⟩ :=
    fill_agrees_with_load .silent loading empty empty rfl withHidden .blank rfl
  have hend := (hfilling 4 (by decide)).2.2 (.inl (by decide))
  exact ⟨⟨rfl, rfl⟩, hcursor, by decide, hend.trans (by decide)⟩

end Bouquet.Listing
