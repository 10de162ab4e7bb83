import Bouquet.Proofs.Effects
import Mathlib.Data.Nat.Init

/-!
# A Drag and the Move It Asks For

A drag exchanges the dragged entry with one visible neighbour after another. All exchanges together
take the entry from its row to another row and leave every invisible entry at its ordinal. The list
sources are asked for something simpler: to take the entry out of the list and to put it in again
at its last ordinal. Both come to the same list exactly if the entry was not dragged over an
invisible one.

## Main definitions

- `Listing.Drag`: what holds all along the drag of an entry
- `Listing.dragSteps`: the steps of a drag from its begin to its end

## Main statements

- `visibleAt_relocated_iff`: when taking an entry elsewhere keeps invisible entries in their places
- `Listing.Drag.of_stride`: one stride of a drag
- `Listing.drag_session`: the whole drag
-/

namespace Bouquet

/-! ## Taking an entry to another ordinal -/

section Relocation

variable {entries : List Reference} {i j : Nat} {e : Reference}

/-- Between the old and the new ordinal all entries move by one. -/
theorem getElem?_eraseIdx_insertIdx (hi : i < entries.length) (hj : j < entries.length) (k : Nat) :
    ((entries.eraseIdx i).insertIdx j e)[k]?
      = if k = j then some e
        else if i ≤ k ∧ k < j then entries[k + 1]?
        else if j < k ∧ k ≤ i then entries[k - 1]?
        else entries[k]? := by
  have hlen : (entries.eraseIdx i).length = entries.length - 1 := List.length_eraseIdx_of_lt hi
  rw [List.getElem?_insertIdx]
  rcases Nat.lt_trichotomy k j with hk | rfl | hk
  · -- before the new ordinal only the gap at the old one matters
    rw [if_pos hk, if_neg (Nat.ne_of_lt hk), List.getElem?_eraseIdx]
    by_cases hki : k < i
    · rw [if_pos hki, if_neg (by omega), if_neg (by omega)]
    · rw [if_neg hki, if_pos (by omega)]
  · rw [if_neg (Nat.lt_irrefl k), if_pos rfl, if_pos (by omega), if_pos rfl]
  · -- behind it the insertion makes up for the gap
    rw [if_neg (by omega), if_neg (by omega), if_neg (by omega), if_neg (by omega),
      List.getElem?_eraseIdx]
    by_cases hki : k ≤ i
    · rw [if_pos (by omega), if_pos (by omega)]
    · rw [if_neg (by omega), if_neg (by omega)]
      congr 1
      omega

/-- What follows a removed visible entry has one row less before it. -/
theorem rowOf_eraseIdx_of_le (hi : VisibleAt entries i) (hij : i ≤ j) :
    rowOf (entries.eraseIdx i) j + 1 = rowOf entries (j + 1) := by
  induction entries generalizing i j with
  | nil => simp at hi
  | cons d rest ih =>
    cases i with
    | zero =>
      have hd : d.isVisible = true := by simpa using hi
      simp [rowOf_cons_succ, hd]
    | succ i =>
      cases j with
      | zero => omega
      | succ j =>
        have hrest := ih (by simpa using hi) (Nat.le_of_succ_le_succ hij)
        rw [List.eraseIdx_cons_succ, rowOf_cons_succ, rowOf_cons_succ, ← hrest]
        omega

/-- Without one visible entry another keeps its row number as an ordinal to insert at. -/
theorem rowOf_eraseIdx (hi : VisibleAt entries i) (hj : VisibleAt entries j) :
    rowOf (entries.eraseIdx i) j = rowOf entries j := by
  by_cases hij : i ≤ j
  · have hshift := rowOf_eraseIdx_of_le hi hij
    rw [rowOf_succ, if_pos hj] at hshift
    omega
  · refine rowOf_congr fun k hk => ?_
    simp only [VisibleAt, List.getElem?_eraseIdx_of_lt (show k < i by omega)]

/-- Among the visible entries a visible one that is taken elsewhere goes from row to row. -/
theorem visibleEntries_relocated (hi : VisibleAt entries i) (hj : VisibleAt entries j)
    (he : e.isVisible = true) :
    visibleEntries ((entries.eraseIdx i).insertIdx j e)
      = ((visibleEntries entries).eraseIdx (rowOf entries i)).insertIdx (rowOf entries j) e := by
  have hlen : (entries.eraseIdx i).length = entries.length - 1 :=
    List.length_eraseIdx_of_lt hi.lt_length
  have hjlt := hj.lt_length
  rw [visibleEntries_insertIdx_of_visible he (by omega), visibleEntries_eraseIdx_of_visible hi,
    rowOf_eraseIdx hi hj]

/-- Invisible entries stay in their places exactly if none is passed. -/
theorem visibleAt_relocated_iff (hi : VisibleAt entries i) (hj : VisibleAt entries j)
    (he : e.isVisible = true) :
    (∀ k, VisibleAt ((entries.eraseIdx i).insertIdx j e) k ↔ VisibleAt entries k)
      ↔ ∀ k, min i j < k → k < max i j → VisibleAt entries k := by
  have hget := getElem?_eraseIdx_insertIdx (e := e) hi.lt_length hj.lt_length
  constructor
  · intro hsame
    -- visibility spreads from the new ordinal, entry by entry, back to the old one
    have hforward : ∀ k, i ≤ k → k < j → VisibleAt entries (k + 1) → VisibleAt entries k := by
      intro k hik hkj hnext
      rw [← hsame, VisibleAt, hget, if_neg (by omega), if_pos ⟨hik, hkj⟩]
      exact hnext
    have hbackward : ∀ k, j ≤ k → k < i → VisibleAt entries k → VisibleAt entries (k + 1) := by
      intro k hjk hki hbefore
      rw [← hsame, VisibleAt, hget, if_neg (by omega), if_neg (by omega), if_pos (by omega)]
      exact hbefore
    intro k hlow hhigh
    rcases Nat.lt_or_ge i j with hij | hji
    · exact Nat.decreasingInduction' (P := VisibleAt entries)
        (fun m hmj hkm => hforward m (by omega) hmj) (by omega) hj
    · refine Nat.le_induction (P := fun m _ => m ≤ i → VisibleAt entries m) (fun _ => hj)
        (fun m hjm ih hmi => hbackward m hjm hmi (ih (by omega))) k (by omega) (by omega)
  · intro hbetween k
    -- wherever an entry moved, a visible one took the place of a visible one
    have hspan : ∀ m, min i j ≤ m → m ≤ max i j → VisibleAt entries m := by
      intro m hlow hhigh
      by_cases hmi : m = i
      · exact hmi ▸ hi
      · by_cases hmj : m = j
        · exact hmj ▸ hj
        · exact hbetween m (by omega) (by omega)
    by_cases hkj : k = j
    · exact iff_of_true ⟨e, by rw [hget, if_pos hkj], he⟩ (hkj ▸ hj)
    · by_cases hforward : i ≤ k ∧ k < j
      · rw [VisibleAt, hget, if_neg hkj, if_pos hforward]
        exact iff_of_true (hspan (k + 1) (by omega) (by omega)) (hspan k (by omega) (by omega))
      · by_cases hbackward : j < k ∧ k ≤ i
        · rw [VisibleAt, hget, if_neg hkj, if_neg hforward, if_pos hbackward]
          exact iff_of_true (hspan (k - 1) (by omega) (by omega)) (hspan k (by omega) (by omega))
        · rw [VisibleAt, hget, if_neg hkj, if_neg hforward, if_neg hbackward]
          exact Iff.rfl

/-- A list is known by its visible entries together with its invisible ones at their ordinals. -/
theorem eq_of_visibleEntries_eq {others : List Reference}
    (hpattern : ∀ k, VisibleAt others k ↔ VisibleAt entries k)
    (hfixed : ∀ k, ¬ VisibleAt entries k → others[k]? = entries[k]?)
    (hrows : visibleEntries others = visibleEntries entries) : others = entries := by
  refine List.ext_getElem? fun k => ?_
  by_cases hk : VisibleAt entries k
  · obtain ⟨a, ha, hav⟩ := hk
    obtain ⟨b, hb, hbv⟩ := (hpattern k).mpr ⟨a, ha, hav⟩
    -- both stand at the same row of the same visible entries
    have hrow : rowOf others k = rowOf entries k := rowOf_congr fun m _ => hpattern m
    have hleft := getElem?_visibleEntries_rowOf hb hbv
    rw [hrow, hrows, getElem?_visibleEntries_rowOf ha hav] at hleft
    rw [ha, hb, hleft]
  · exact hfixed k hk

end Relocation

/-! ## Exchanges of neighbours -/

/-- Exchanging two visible entries exchanges the entries of their rows. -/
theorem visibleEntries_swapped_eq {entries : List Reference} {i j : Nat}
    (hi : VisibleAt entries i) (hj : VisibleAt entries j) :
    visibleEntries (swapped entries i j)
      = swapped (visibleEntries entries) (rowOf entries i) (rowOf entries j) := by
  obtain ⟨a, ha, hav⟩ := hi
  obtain ⟨b, hb, hbv⟩ := hj
  rw [visibleEntries_swapped ha hb hav hbv, swapped_eq_set (getElem?_visibleEntries_rowOf ha hav)
    (getElem?_visibleEntries_rowOf hb hbv)]

/-- The rows of two visible entries with none between them follow each other. -/
theorem rowOf_eq_succ {entries : List Reference} {i j : Nat} (hi : VisibleAt entries i)
    (hij : i < j) (hbetween : ∀ k, i < k → k < j → ¬ VisibleAt entries k) :
    rowOf entries j = rowOf entries i + 1 := by
  rw [rowOf_eq_of_none_visible (Nat.succ_le_of_lt hij) hbetween, Nat.succ_eq_add_one, rowOf_succ,
    if_pos hi]

/-- To exchange what was inserted with what follows is to insert it one place later. -/
theorem swapped_insertIdx_succ {rows : List Reference} {row : Nat} (e : Reference)
    (h : row < rows.length) :
    swapped (rows.insertIdx row e) row (row + 1) = rows.insertIdx (row + 1) e := by
  induction rows generalizing row with
  | nil => simp at h
  | cons d rest ih =>
    cases row with
    | zero => simp [swapped]
    | succ row =>
      have hrest := ih (Nat.lt_of_succ_lt_succ h)
      rw [List.insertIdx_succ_cons, List.insertIdx_succ_cons, ← hrest]
      simp only [swapped, List.getElem?_cons_succ]
      split <;> simp

/-- An exchange undoes itself. -/
theorem swapped_swapped {entries : List Reference} {i j : Nat} (hi : i < entries.length)
    (hj : j < entries.length) : swapped (swapped entries i j) i j = entries := by
  refine List.ext_getElem? fun k => ?_
  rw [getElem?_swapped (by simpa using hi) (by simpa using hj), getElem?_swapped hi hj,
    Equiv.swap_apply_self]

/-- To exchange what was inserted with what precedes it is to insert it one place earlier. -/
theorem swapped_insertIdx_pred {rows : List Reference} {row : Nat} (e : Reference)
    (h : row < rows.length) :
    swapped (rows.insertIdx (row + 1) e) (row + 1) row = rows.insertIdx row e := by
  have hlen : (rows.insertIdx row e).length = rows.length + 1 :=
    List.length_insertIdx_of_le_length (Nat.le_of_lt h) e
  rw [swapped_comm, ← swapped_insertIdx_succ e h, swapped_swapped (by omega) (by omega)]

namespace Listing

/-! ## What holds along a drag -/

/-- A drag of `e` that began in the listing `start`: invisible entries stand where they stood, the
entry is at the cursor, and among the visible entries it has gone from its row to another. -/
structure Drag (start : Listing) (e : Reference) (l : Listing) : Prop where
  dragging : l.dragging = true
  root : l.root = start.root
  pattern : ∀ k, VisibleAt l.entries k ↔ VisibleAt start.entries k
  fixed : ∀ k, ¬ VisibleAt start.entries k → l.entries[k]? = start.entries[k]?
  current : l.entries[l.cursor]? = some e
  rows : visibleEntries l.entries
    = ((visibleEntries start.entries).eraseIdx (rowOf start.entries start.cursor)).insertIdx
        (rowOf start.entries l.cursor) e

variable {start l : Listing} {e : Reference}

/-- A drag begins where the entry stands. -/
theorem drag_begin (he : start.entries[start.cursor]? = some e) (hv : e.isVisible = true) :
    Drag start e { start with dragging := true } where
  dragging := rfl
  root := rfl
  pattern _ := Iff.rfl
  fixed _ _ := rfl
  current := he
  rows := by
    obtain ⟨hlt, hget⟩ := List.getElem?_eq_some_iff.mp (getElem?_visibleEntries_rowOf he hv)
    exact ((congrArg _ hget).symm.trans (List.insertIdx_eraseIdx_getElem hlt)).symm

theorem Drag.visibleAt_cursor (h : Drag start e l) (hv : e.isVisible = true) :
    VisibleAt start.entries l.cursor :=
  (h.pattern l.cursor).mp ⟨e, h.current, hv⟩

/-- The row numbers are those of the beginning, since no visible entry took the place of an
invisible one. -/
theorem Drag.rowOf_eq (h : Drag start e l) (ordinal : Nat) :
    rowOf l.entries ordinal = rowOf start.entries ordinal :=
  rowOf_congr fun k _ => h.pattern k

/-- **One stride** of a drag takes the entry one row on or back. -/
theorem Drag.of_stride {l' : Listing} {notices : List Notice} (h : Drag start e l)
    (hv : e.isVisible = true) (hstride : Stride l l' notices) : Drag start e l' := by
  cases hstride with
  | walk target hfree _ =>
    -- the cursor does not walk away from an entry that it drags
    have hlt : l.cursor < l.entries.length := (List.getElem?_eq_some_iff.mp h.current).1
    rcases hfree with hfree | hfree
    · simp [h.dragging] at hfree
    · omega
  | drag target hdragging hentry htarget hne hbetween =>
    have hcurrent : VisibleAt l.entries l.cursor := ⟨e, h.current, hv⟩
    have htargetlt := htarget.lt_length
    have hpattern : ∀ k, VisibleAt (swapped l.entries l.cursor target) k
        ↔ VisibleAt start.entries k := by
      intro k
      rw [visibleAt_swapped hentry htargetlt, ← h.pattern k, Equiv.swap_apply_def]
      split
      case isTrue hk => simp_all
      case isFalse =>
        split
        case isTrue hk => simp_all
        case isFalse => rfl
    refine ⟨hdragging, h.root, hpattern, fun k hk => ?_, ?_, ?_⟩
    · -- neither end of the exchange is invisible
      have hkc : k ≠ l.cursor := fun heq => hk ((h.pattern k).mp (heq ▸ hcurrent))
      have hkt : k ≠ target := fun heq => hk ((h.pattern k).mp (heq ▸ htarget))
      rw [getElem?_swapped hentry htargetlt, Equiv.swap_apply_of_ne_of_ne hkc hkt]
      exact h.fixed k hk
    · rw [getElem?_swapped hentry htargetlt, Equiv.swap_apply_right]
      exact h.current
    · -- the rows of the exchanged entries follow each other, in one order or the other
      have hlen := length_visibleEntries l.entries
      have hcursorRow := rowOf_lt_rowCount hcurrent
      have htargetRow := rowOf_lt_rowCount htarget
      rw [visibleEntries_swapped_eq hcurrent htarget]
      rw [h.rowOf_eq] at hcursorRow htargetRow ⊢
      rw [h.rowOf_eq]
      rw [h.rows] at hlen ⊢
      rw [List.length_insertIdx] at hlen
      rcases Nat.lt_or_gt_of_ne hne with hlt | hgt
      · have hnext := rowOf_eq_succ hcurrent hlt fun k hk hkt => hbetween k (by omega) (by omega)
        rw [h.rowOf_eq, h.rowOf_eq] at hnext
        rw [hnext]
        refine swapped_insertIdx_succ e ?_
        split at hlen <;> omega
      · have hnext := rowOf_eq_succ htarget hgt fun k hk hkt => hbetween k (by omega) (by omega)
        rw [h.rowOf_eq, h.rowOf_eq] at hnext
        rw [hnext]
        refine swapped_insertIdx_pred e ?_
        split at hlen <;> omega

/-! ## Whole drags -/

/-- The steps of a drag: it begins, the cursor is moved any number of times, and it ends. -/
def dragSteps (first last : Sources) (moves : List (Sources × Int)) :
    List (Sources × ListingOp) :=
  (first, .setDragging true) :: (moves.map fun move => (move.1, .move move.2))
    ++ [(last, .setDragging false)]

/-- Any number of moves goes on with a drag and asks for nothing. -/
theorem Drag.runSteps_moves (h : Drag start e l) (hv : e.isVisible = true)
    (moves : List (Sources × Int)) :
    Drag start e (runSteps (moves.map fun move => (move.1, .move move.2)) l) ∧
      requests (moves.map fun move => (move.1, .move move.2)) l = [] := by
  induction moves generalizing l with
  | nil => exact ⟨h, rfl⟩
  | cons move moves ih =>
    have hmove : Drag start e (l.move move.2).1 :=
      move_induction (P := Drag start e) (fun _ _ _ hstride hl => hl.of_stride hv hstride) move.2 h
    obtain ⟨hdrag, hrequests⟩ := ih hmove
    refine ⟨hdrag, ?_⟩
    rw [List.map_cons, requests_cons, perform_moves]
    exact hrequests

/-- A drag has come to the list that the sources are asked for exactly if no invisible entry was
passed. -/
theorem Drag.entries_eq_iff (h : Drag start e l) (hv : e.isVisible = true)
    (hstart : VisibleAt start.entries start.cursor) :
    l.entries = (start.entries.eraseIdx start.cursor).insertIdx l.cursor e
      ↔ ∀ k, min start.cursor l.cursor < k → k < max start.cursor l.cursor →
          VisibleAt start.entries k := by
  have hcursor := h.visibleAt_cursor hv
  rw [← visibleAt_relocated_iff hstart hcursor hv]
  constructor
  · intro heq k
    rw [← heq, h.pattern]
  · intro hpattern
    refine eq_of_visibleEntries_eq (fun k => (h.pattern k).trans (hpattern k).symm) ?_ ?_
    · -- invisible entries that stay in their places are not moved at all
      intro k hk
      have hget := getElem?_eraseIdx_insertIdx (e := e) hstart.lt_length hcursor.lt_length k
      have hbetween := (visibleAt_relocated_iff hstart hcursor hv).mp hpattern
      rw [hpattern] at hk
      have hks : k ≠ start.cursor := fun heq => hk (heq ▸ hstart)
      have hkl : k ≠ l.cursor := fun heq => hk (heq ▸ hcursor)
      have houtside : ¬ (min start.cursor l.cursor < k ∧ k < max start.cursor l.cursor) :=
        fun hinside => hk (hbetween k hinside.1 hinside.2)
      rw [h.fixed k hk, hget, if_neg hkl, if_neg (by omega), if_neg (by omega)]
    · rw [h.rows, visibleEntries_relocated hstart hcursor hv]

/-- **A whole drag** of a visible entry, with any moves of the cursor between its begin and its end,
asks the list sources once to keep a position: that of the entry, under the root, at the last
ordinal of the cursor, where the entry stands. The listing is what it was with the entry taken out
and put in again at that ordinal exactly if no invisible entry lay between its old and its new
place. -/
theorem drag_session (first last : Sources) (moves : List (Sources × Int)) (l : Listing)
    (e : Reference) (he : l.current? = some e) (hv : e.isVisible = true) :
    let l' := runSteps (dragSteps first last moves) l
    requests (dragSteps first last moves) l = [⟨l.root, e, l'.cursor⟩] ∧
      l'.entries[l'.cursor]? = some e ∧
      (l'.entries = (l.entries.eraseIdx l.cursor).insertIdx l'.cursor e
        ↔ ∀ k, min l.cursor l'.cursor < k → k < max l.cursor l'.cursor →
            VisibleAt l.entries k) := by
  intro l'
  have hbegun : (perform first (.setDragging true) l).listing = { l with dragging := true } := by
    simp [perform, setDragging, he]
  obtain ⟨hdrag, hnone⟩ := (drag_begin he hv).runSteps_moves hv moves
  generalize hm : runSteps (moves.map fun move => (move.1, .move move.2))
    { l with dragging := true } = m at hdrag
  -- the end of the drag changes nothing but that it ends
  have hlast : l' = { m with dragging := false } := by
    have hended : (perform last (.setDragging false) m).listing = { m with dragging := false } := by
      have hcurrent : m.current? = some e := hdrag.current
      simp [perform, setDragging, hcurrent]
    rw [← hended, ← hm, ← hbegun]
    simp only [l', dragSteps, List.cons_append, runSteps_cons, runSteps_append, runSteps_nil]
  have hrequests : requests (dragSteps first last moves) l = [⟨l.root, e, m.cursor⟩] := by
    have hcurrent : m.current? = some e := hdrag.current
    rw [dragSteps, List.cons_append, requests_cons, requests_append, hbegun, hnone, hm,
      requests_cons, perform_moves, perform_moves]
    simp [hdrag.dragging, hcurrent, hdrag.root]
  rw [hlast, hrequests]
  exact ⟨rfl, hdrag.current, hdrag.entries_eq_iff hv ⟨e, he, hv⟩⟩

/-- Two visible entries with an invisible one between them, and the cursor on the first. -/
def aroundHidden : Listing :=
  { empty with entries := [shownEntry, hiddenEntry, .marker "shown too"] }

/-- Dragged over the invisible entry and on beyond the last row, the first entry takes the place of
the last one. To take it out and put it in again there would have moved the invisible entry. -/
theorem drag_session_aroundHidden :
    (aroundHidden.current? = some shownEntry ∧ shownEntry.isVisible = true) ∧
      (let steps := dragSteps .silent .silent [(.silent, 5), (.silent, -1), (.silent, 1)]
      let l' := runSteps steps aroundHidden
      requests steps aroundHidden = [⟨.blank, shownEntry, 2⟩] ∧
        l'.entries = [.marker "shown too", hiddenEntry, shownEntry] ∧
        l'.entries ≠ (aroundHidden.entries.eraseIdx 0).insertIdx 2 shownEntry) := by
  have hsession := drag_session .silent .silent [(.silent, 5), (.silent, -1), (.silent, 1)]
    aroundHidden shownEntry (by decide) (by decide)
  refine ⟨by decide, hsession.1, by decide, mt hsession.2.2.mp ?_⟩
  -- the invisible entry lies between
  exact fun hvisible => absurd (hvisible 1 (by decide) (by decide)) (by decide)

end Listing

end Bouquet
