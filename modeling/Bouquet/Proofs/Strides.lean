import Bouquet.Listing.Cursor
import Bouquet.Proofs.Rows

/-!
# Strides of the Cursor

A move of the cursor is a sequence of strides, each over one visible entry. A stride either drags
the current entry to the place of its visible neighbour or takes the cursor alone to a visible
entry or the end of the list.

## Main definitions

- `Listing.Stride`: all that one stride can do
- `Listing.stepToward`: the step that a move repeats

## Main statements

- `Listing.move_induction`: what every stride keeps, a move keeps
-/

namespace Bouquet.Listing

/-! ## The place of the cursor -/

theorem isOnEntry_iff (l : Listing) : l.isOnEntry = true ↔ l.cursor < l.entries.length :=
  decide_eq_true_iff

/-- A visible entry is gone to as such. -/
theorem set_of_visibleAt {l : Listing} {ordinal : Nat} (h : VisibleAt l.entries ordinal) :
    l.set ordinal = { l with cursor := ordinal } := by
  rw [set, firstVisibleFrom_of_visibleAt h]

/-! ## One stride -/

/-- All that one stride of the cursor can do, and what it reports. -/
inductive Stride (l : Listing) : Listing → List Notice → Prop where
  /-- The current entry changes places with the nearest visible entry on one side. -/
  | drag (target : Nat) (hdragging : l.dragging = true) (hentry : l.cursor < l.entries.length)
      (htarget : VisibleAt l.entries target) (hne : l.cursor ≠ target)
      (hbetween : ∀ k, min l.cursor target < k → k < max l.cursor target →
        ¬ VisibleAt l.entries k) :
      Stride l { l with entries := swapped l.entries l.cursor target, cursor := target }
        [.changed (rowOf (swapped l.entries l.cursor target) l.cursor),
          .changed (rowOf (swapped l.entries l.cursor target) target)]
  /-- The cursor goes to a visible entry or to the end of the list. -/
  | walk (target : Nat) (hfree : l.dragging = false ∨ l.entries.length ≤ l.cursor)
      (htarget : VisibleAt l.entries target ∨ target = l.entries.length) :
      Stride l { l with cursor := target } []

/-- While an entry is dragged, a step exchanges it with the target. -/
theorem travel_of_dragging {l : Listing} (hdragging : l.dragging = true)
    (hentry : l.cursor < l.entries.length) (target : Nat) :
    l.travel target
      = ({ l with entries := swapped l.entries l.cursor target, cursor := target },
        [.changed (rowOf (swapped l.entries l.cursor target) l.cursor),
          .changed (rowOf (swapped l.entries l.cursor target) target)]) := by
  simp [travel, hdragging, (isOnEntry_iff l).mpr hentry]

/-- Without a dragged entry only the cursor goes. -/
theorem travel_of_free {l : Listing} (hfree : l.dragging = false ∨ l.entries.length ≤ l.cursor)
    (target : Nat) : l.travel target = ({ l with cursor := target }, []) := by
  rcases hfree with hfree | hfree
  · simp [travel, hfree]
  · simp [travel, mt (isOnEntry_iff l).mp (Nat.not_lt.mpr hfree)]

/-- Travelling to a visible neighbour is a stride. -/
theorem stride_travel {l : Listing} {target : Nat} (htarget : VisibleAt l.entries target)
    (hne : l.cursor ≠ target)
    (hbetween : ∀ k, min l.cursor target < k → k < max l.cursor target →
      ¬ VisibleAt l.entries k) :
    Stride l (l.travel target).1 (l.travel target).2 := by
  -- at the end of the list there is nothing to drag, so the cursor goes alone even in a drag
  by_cases hdrag : l.dragging = true ∧ l.cursor < l.entries.length
  · rw [travel_of_dragging hdrag.1 hdrag.2]
    exact .drag target hdrag.1 hdrag.2 htarget hne hbetween
  · have hfree : l.dragging = false ∨ l.entries.length ≤ l.cursor := by
      rcases not_and_or.mp hdrag with hdragging | hentry
      · exact Or.inl (by simpa using hdragging)
      · exact Or.inr (by omega)
    rw [travel_of_free hfree]
    exact .walk target hfree (Or.inl htarget)

theorem stride_of_stepForward {l l' : Listing} {notices : List Notice}
    (h : l.stepForward = some (l', notices)) : Stride l l' notices := by
  simp only [stepForward] at h
  split at h
  case isFalse => simp at h
  case isTrue hentry =>
    cases hnext : nextVisible? l.entries l.cursor with
    | some target =>
      obtain ⟨hlt, hvisible, hnone⟩ := nextVisible?_eq_some hnext
      simp only [hnext, Option.some.injEq] at h
      -- nothing visible lies between the cursor and the next visible entry
      have hstride := stride_travel (l := l) hvisible (by omega)
        fun k hk hkt => hnone k (by omega) (by omega)
      rwa [h] at hstride
    | none =>
      -- behind the last visible entry only a free cursor goes on, to the end of the list
      simp only [hnext] at h
      split at h
      case isTrue => simp at h
      case isFalse hdragging =>
        have hfree : l.dragging = false ∨ l.entries.length ≤ l.cursor :=
          Or.inl (by simpa using hdragging)
        rw [travel_of_free hfree, Option.some.injEq, Prod.mk.injEq] at h
        obtain ⟨rfl, rfl⟩ := h
        exact .walk l.size hfree (Or.inr rfl)

theorem stride_of_stepBackward {l l' : Listing} {notices : List Notice}
    (h : l.stepBackward = some (l', notices)) : Stride l l' notices := by
  simp only [stepBackward, Option.map_eq_some_iff] at h
  obtain ⟨target, hlast, htravel⟩ := h
  obtain ⟨hlt, hvisible, hnone⟩ := lastVisibleBefore?_eq_some hlast
  have hstride := stride_travel (l := l) hvisible (by omega)
    fun k hk hkt => hnone k (by omega) (by omega)
  rwa [htravel] at hstride

/-! ## Moves -/

theorem steps_succ_of_some {step : Listing → Option (Listing × List Notice)} {count : Nat}
    {l l' : Listing} {notices : List Notice} (h : step l = some (l', notices)) :
    steps step (count + 1) l
      = ((steps step count l').1, (steps step count l').2.1 + 1,
        notices ++ (steps step count l').2.2) := by
  simp [steps, h]

theorem steps_succ_of_none {step : Listing → Option (Listing × List Notice)} {count : Nat}
    {l : Listing} (h : step l = none) : steps step (count + 1) l = (l, 0, []) := by
  simp [steps, h]

/-- What every step keeps, a sequence of steps keeps. -/
theorem steps_induction {P : Listing → Prop} {step : Listing → Option (Listing × List Notice)}
    (hstep : ∀ l l' notices, step l = some (l', notices) → P l → P l') (count : Nat) {l : Listing}
    (hl : P l) : P (steps step count l).1 := by
  induction count generalizing l with
  | zero => exact hl
  | succ count ih =>
    -- the first step that cannot be taken ends the sequence
    cases h : step l with
    | none => rwa [steps_succ_of_none h]
    | some result =>
      obtain ⟨l', notices⟩ := result
      rw [steps_succ_of_some h]
      exact ih (hstep l l' notices h hl)

/-- The step that a move by `count` repeats. -/
def stepToward (count : Int) : Listing → Option (Listing × List Notice) :=
  if 0 ≤ count then stepForward else stepBackward

theorem stride_of_stepToward {count : Int} {l l' : Listing} {notices : List Notice}
    (h : stepToward count l = some (l', notices)) : Stride l l' notices := by
  by_cases hcount : 0 ≤ count
  · rw [stepToward, if_pos hcount] at h
    exact stride_of_stepForward h
  · rw [stepToward, if_neg hcount] at h
    exact stride_of_stepBackward h

/-- A move repeats one step and counts the steps with their sign. -/
theorem move_eq_steps (l : Listing) (count : Int) :
    l.move count
      = ((steps (stepToward count) count.natAbs l).1,
        (if 0 ≤ count then 1 else -1) * ((steps (stepToward count) count.natAbs l).2.1 : Int),
        (steps (stepToward count) count.natAbs l).2.2) := by
  by_cases h : 0 ≤ count
  · simp [move, stepToward, h]
  · simp [move, stepToward, h]

/-- What every stride keeps, a move keeps. -/
theorem move_induction {P : Listing → Prop}
    (hstride : ∀ l l' notices, Stride l l' notices → P l → P l') (count : Int) {l : Listing}
    (hl : P l) : P (l.move count).1 := by
  rw [move_eq_steps]
  exact steps_induction (fun l l' notices hstep => hstride l l' notices
    (stride_of_stepToward hstep)) _ hl

/-- A move touches nothing but the entries and the cursor. -/
theorem move_frame (l : Listing) (count : Int) :
    (l.move count).1.root = l.root ∧ (l.move count).1.bookmarks = l.bookmarks ∧
      (l.move count).1.marks = l.marks ∧ (l.move count).1.dragging = l.dragging := by
  refine move_induction
    (P := fun m => m.root = l.root ∧ m.bookmarks = l.bookmarks ∧ m.marks = l.marks ∧
      m.dragging = l.dragging) ?_ count ⟨rfl, rfl, rfl, rfl⟩
  intro m m' notices hstride hm
  cases hstride with
  | drag => exact hm
  | walk => exact hm

end Bouquet.Listing
