import Bouquet.Proofs.CursorPlacement
import Bouquet.Proofs.Occurrences

/-!
# Insertions and Their Undoing

An entry is inserted next to the cursor. What was listed before makes room for it, and the cursor
stays with its entry or at the end of the list. Going to the new entry and removing it takes the
insertion back.

## Main statements

- `Listing.insertionPoint_eq`: where an entry is inserted
- `Listing.removeCurrent_set`: a visible entry is gone to and removed
- `Listing.add_undone`: an insertion, and what taking it back restores
-/

namespace Bouquet.Listing

variable {l : Listing} {ordinal : Nat}

/-! ## The place of an insertion -/

/-- An entry is inserted before or after the current one, or at the end of the list. -/
theorem insertionPoint_eq (h : l.cursor ≤ l.size) (before : Bool) :
    l.insertionPoint before
      = if l.cursor = l.size then l.size else if before then l.cursor else l.cursor + 1 := by
  by_cases hend : l.cursor = l.size
  · have hoff : l.isOnEntry = false := by simp [isOnEntry, hend]
    simp [insertionPoint, hoff, hend]
  · have hentry : l.isOnEntry = true := by
      rw [isOnEntry_iff]
      exact Nat.lt_of_le_of_ne h hend
    cases before <;> simp [insertionPoint, hentry, hend, h]

theorem add_entries (l : Listing) (r : Reference) (before : Bool) :
    (l.add r before).1.entries = l.entries.insertIdx (l.insertionPoint before) r := rfl

/-- The view is told the row of an inserted entry, which is that of its ordinal before. -/
theorem add_notices (l : Listing) (r : Reference) (before : Bool) :
    (l.add r before).2 = [.added (rowOf l.entries (l.insertionPoint before))] := by
  rw [← rowOf_insertIdx r]
  rfl

/-! ## Going to an entry to remove it -/

/-- A visible entry is gone to and removed at its row, and the cursor goes on from its ordinal. -/
theorem removeCurrent_set (h : VisibleAt l.entries ordinal) :
    (l.set ordinal).removeCurrent
      = ({ l with
          entries := l.entries.eraseIdx ordinal
          dragging := false
          cursor := firstVisibleFrom (l.entries.eraseIdx ordinal) ordinal },
        true, [.removed (rowOf l.entries ordinal)]) := by
  have hentry : ({ l with cursor := ordinal } : Listing).isOnEntry = true := by
    rw [isOnEntry_iff]
    exact h.lt_length
  rw [set_of_visibleAt h, removeCurrent, if_pos hentry]
  rfl

/-! ## Insertions taken back -/

/-- **An insertion and its undoing.** In a list with entries one more is inserted before or after
the current one, or at the end of the list when the cursor is there. All entries that were listed go
on in their order, with room for the new one, and the cursor goes with its entry or stays at the end
of the list. The view is told the row of the new entry, and nothing else changes. A visible entry
that is gone to and removed again leaves the list as it was, without a drag, and it is removed at
the row at which it was added. The cursor is back as well, unless it was before the new entry; then
it is on the next visible one. -/
theorem add_undone (sources : Sources) (l : Listing) (hne : l.entries ≠ [])
    (hplaced : l.CursorPlaced) (r : Reference) (before : Bool) :
    let ordinal :=
      if l.cursor = l.size then l.size else if before then l.cursor else l.cursor + 1
    let place := fun i => if ordinal ≤ i then i + 1 else i
    let row := (l.entries.take ordinal).countP Reference.isVisible
    let reply := perform sources (.add r before) l
    let l' := reply.listing
    l'.entries = l.entries.insertIdx ordinal r ∧ l'.entries[ordinal]? = some r ∧
      l'.entries.eraseIdx ordinal = l.entries ∧
      Carries l.entries l'.entries (fun i => some (place i)) ∧
      (l.cursor < l.size → l'.cursor = place l.cursor) ∧
      (l.cursor = l.size → l'.cursor = l'.size) ∧
      l' = { l with entries := l'.entries, cursor := l'.cursor } ∧
      reply.notices = [.added row] ∧ reply.moves = [] ∧
      (r.isVisible = true →
        let undone := perform sources .removeCurrent (perform sources (.set ordinal) l').listing
        undone.answer = .flag true ∧
          undone.listing
            = { l with dragging := false, cursor := firstVisibleFrom l.entries ordinal } ∧
          undone.notices = [.removed row] ∧ undone.moves = [] ∧
          (before = true ∨ l.cursor = l.size → undone.listing.cursor = l.cursor)) := by
  intro ordinal place row reply l'
  have hpoint : l.insertionPoint before = ordinal := insertionPoint_eq hplaced.cursor_le before
  have hle : ordinal ≤ l.entries.length := hpoint ▸ insertionPoint_le l before
  have hentries : l'.entries = l.entries.insertIdx ordinal r :=
    (add_entries l r before).trans (by rw [hpoint])
  have herase : l'.entries.eraseIdx ordinal = l.entries := by
    rw [hentries, List.eraseIdx_insertIdx_self]
  have hat : l'.entries[ordinal]? = some r := by
    rw [hentries, List.getElem?_insertIdx_self, if_pos hle]
  have hcursor : l'.cursor = place l.cursor :=
    (add_cursor hne r before).trans (by rw [hpoint])
  have hrow : rowOf l'.entries ordinal = row := by
    rw [hentries, rowOf_insertIdx]
    rfl
  have hnotices : reply.notices = [.added row] :=
    (add_notices l r before).trans (by rw [hpoint]; rfl)
  refine ⟨hentries, hat, herase, ?_, fun _ => hcursor, fun hend => ?_, rfl, hnotices, rfl,
    fun hvisible => ?_⟩
  · rw [hentries]
    exact carries_insertIdx l.entries ordinal r
  · have hordinal : ordinal = l.size := if_pos hend
    rw [hcursor, size, hentries, List.length_insertIdx_of_le_length hle]
    show (if ordinal ≤ l.cursor then l.cursor + 1 else l.cursor) = l.size + 1
    rw [if_pos (by omega), hend]
  · intro undone
    have hremove := removeCurrent_set (l := l') ⟨r, hat, hvisible⟩
    rw [herase, hrow] at hremove
    have hanswer : undone.answer = .flag (l'.set ordinal).removeCurrent.2.1 := rfl
    have htold : undone.notices = (l'.set ordinal).removeCurrent.2.2 := rfl
    have hlisting : undone.listing
        = { l with dragging := false, cursor := firstVisibleFrom l.entries ordinal } :=
      congrArg Prod.fst hremove
    refine ⟨by rw [hanswer, hremove], hlisting, by rw [htold, hremove], rfl, fun hback => ?_⟩
    -- in these cases the entry went in where the cursor was
    have hordinal : ordinal = l.cursor := by
      show (if l.cursor = l.size then l.size else if before then l.cursor else l.cursor + 1)
        = l.cursor
      split
      case isTrue hend => exact hend.symm
      case isFalse hend =>
        rw [if_pos (hback.resolve_right hend)]
    rw [hlisting, hordinal]
    rcases hplaced with hend | hvisible
    · exact (firstVisibleFrom_of_length_le (Nat.le_of_eq hend.symm)).trans hend.symm
    · exact firstVisibleFrom_of_visibleAt hvisible

/-- Two rows with an invisible entry between them, and the cursor on the second. -/
def onSecondRow : Listing :=
  { empty with entries := [shownEntry, hiddenEntry, .marker "other"], cursor := 2 }

/-- One more of the first entry is inserted before the second row, and removed there again. -/
theorem add_undone_beforeSecondRow :
    (onSecondRow.entries ≠ [] ∧ onSecondRow.CursorPlaced) ∧
      let l' := (perform .silent (.add shownEntry true) onSecondRow).listing
      let undone := perform .silent .removeCurrent (perform .silent (.set 2) l').listing
      l'.entries = [shownEntry, hiddenEntry, shownEntry, .marker "other"] ∧ l'.cursor = 3 ∧
        undone.listing = onSecondRow ∧ undone.notices = [.removed 1] := by
  have hne : onSecondRow.entries ≠ [] := by simp [onSecondRow]
  have hplaced : onSecondRow.CursorPlaced := by decide
  obtain ⟨hentries, -, -, -, hcursor, -, -, -, -, hundone⟩ :=
    add_undone .silent onSecondRow hne hplaced shownEntry true
  obtain ⟨-, hlisting, hnotices, -, -⟩ := hundone rfl
  exact ⟨⟨hne, hplaced⟩, hentries, hcursor (by decide), hlisting, hnotices⟩

end Bouquet.Listing
