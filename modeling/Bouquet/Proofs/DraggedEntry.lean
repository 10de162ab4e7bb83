import Bouquet.Proofs.Occurrences

/-!
# The Dragged Entry

A drag is begun for the entry at the cursor, but a listing only remembers that there is a drag. Most
operations keep the cursor on the entry, wherever they take it, and those that take the entry out of
the list end the drag. The operations that put the cursor elsewhere do neither: the drag goes on,
and it is then the entry at the cursor, if there is one, whose position is kept when the drag ends.

## Main definitions

- `Dragged`, `Listing.dragged?`: the entry on which the drag of a run began, and where it is now
- `Listing.CanDrop`: the end of the drag keeps the position of that entry
- `Listing.Abandons`: the steps that take the cursor off the dragged entry

## Main statements

- `Listing.tracks_perform`: the entry stays listed, unaltered, for as long as the drag lasts
- `Listing.onDragged_perform_iff`: one operation keeps the cursor on it unless it abandons it
- `Listing.dragged_entry`: a whole run
-/

namespace Bouquet

/-- An entry that is dragged, and where it stands. -/
structure Dragged where
  entry : Reference
  ordinal : Nat
  deriving DecidableEq

/-- The operations that put the cursor at a place. -/
def ListingOp.Places : ListingOp → Prop
  | .finishFill => True
  | .home => True
  | .toEnd => True
  | .set _ => True
  | .select _ => True
  | .goBack _ => True
  | _ => False

namespace Listing

/-! ## The entry of a drag -/

/-- What is dragged after an operation. A drag begins with the current entry, which is then followed
to wherever the operations take it; once the drag is over, nothing is dragged. -/
def nextDragged? (sources : Sources) (op : ListingOp) (l : Listing) (dragged : Option Dragged) :
    Option Dragged :=
  if (perform sources op l).listing.dragging then
    match dragged with
    | some d => (follow? sources op l d.ordinal).map fun ordinal => { d with ordinal := ordinal }
    | none => l.current?.map fun entry => ⟨entry, l.cursor⟩
  else none

/-- What is dragged after a run that starts from a listing in which `dragged` is. -/
def draggedAfter? : List (Sources × ListingOp) → Listing → Option Dragged → Option Dragged
  | [], _, dragged => dragged
  | (sources, op) :: steps, l, dragged =>
    draggedAfter? steps (perform sources op l).listing (nextDragged? sources op l dragged)

/-- What is dragged after a run that starts from the empty listing. -/
def dragged? (steps : List (Sources × ListingOp)) : Option Dragged :=
  draggedAfter? steps empty none

theorem draggedAfter?_append (first second : List (Sources × ListingOp)) (l : Listing)
    (dragged : Option Dragged) :
    draggedAfter? (first ++ second) l dragged
      = draggedAfter? second (runSteps first l) (draggedAfter? first l dragged) := by
  induction first generalizing l dragged with
  | nil => rfl
  | cons step first ih => exact ih _ _

/-- The record of what is dragged is right: there is one exactly during a drag, and the entry stands
where the record says. -/
structure Tracks (l : Listing) (dragged : Option Dragged) : Prop where
  dragging : l.dragging = true ↔ dragged.isSome = true
  listed : ∀ d, dragged = some d → l.entries[d.ordinal]? = some d.entry

/-- A drag begins only when it is asked for and the cursor is on an entry. -/
theorem begins_drag {sources : Sources} {op : ListingOp} {l : Listing}
    (hbefore : l.dragging = false) (hafter : (perform sources op l).listing.dragging = true) :
    op = .setDragging true ∧ l.isOnEntry = true := by
  rw [perform_dragging] at hafter
  cases op with
  | setDragging state =>
    by_cases hon : l.isOnEntry = true
    · have hstate : state = true := by simpa [hon] using hafter
      exact ⟨by rw [hstate], hon⟩
    · simp [hon, hbefore] at hafter
  | load root rootOnly => cases rootOnly <;> simp [hbefore] at hafter
  | removeCurrent => simp [hbefore] at hafter
  | _ => simp [hbefore] at hafter

/-- No operation drops an entry and lets a drag of it go on. -/
theorem follow?_ne_none_of_dragging {sources : Sources} {op : ListingOp} {l : Listing}
    {ordinal : Nat} (hlt : ordinal < l.entries.length)
    (hafter : (perform sources op l).listing.dragging = true) :
    ∃ next, follow? sources op l ordinal = some next := by
  refine Option.ne_none_iff_exists'.mp fun hnone => ?_
  rw [follow?_eq_none_iff] at hnone
  rw [perform_dragging] at hafter
  cases op with
  | load root rootOnly =>
    have hreload : rootOnly = false := hnone
    simp [hreload] at hafter
  | removeCurrent =>
    have hcursor : l.cursor = ordinal := hnone
    have hon : l.isOnEntry = true := (isOnEntry_iff l).mpr (hcursor ▸ hlt)
    simp [hon] at hafter
  | _ => exact hnone

/-- The dragged entry stays listed, unaltered, as long as the drag lasts. -/
theorem tracks_perform {l : Listing} {dragged : Option Dragged} (h : Tracks l dragged)
    (sources : Sources) (op : ListingOp) :
    Tracks (perform sources op l).listing (nextDragged? sources op l dragged) := by
  by_cases hafter : (perform sources op l).listing.dragging = true
  · cases hdragged : dragged with
    | some d =>
      have hentry := h.listed d hdragged
      have hlt := (List.getElem?_eq_some_iff.mp hentry).1
      obtain ⟨next, hnext⟩ := follow?_ne_none_of_dragging hlt hafter
      have hunaltered := (carries_follow sources op l).unaltered d.ordinal next hlt hnext
      have hrecord : nextDragged? sources op l (some d) = some { d with ordinal := next } := by
        simp [nextDragged?, hafter, hnext]
      rw [hrecord]
      refine ⟨by simp [hafter], fun d' hd' => ?_⟩
      obtain rfl := Option.some.inj hd'
      exact hunaltered.trans hentry
    | none =>
      have hbefore : l.dragging = false := by
        simpa [hdragged] using h.dragging
      obtain ⟨rfl, hon⟩ := begins_drag hbefore hafter
      obtain ⟨e, he⟩ : ∃ e, l.current? = some e :=
        ⟨_, List.getElem?_eq_getElem ((isOnEntry_iff l).mp hon)⟩
      have hrecord : nextDragged? sources (.setDragging true) l none = some ⟨e, l.cursor⟩ := by
        simp [nextDragged?, hafter, he]
      rw [hrecord]
      refine ⟨by simp [hafter], fun d' hd' => ?_⟩
      obtain rfl := Option.some.inj hd'
      rw [perform_entries]
      exact he
  · have hrecord : nextDragged? sources op l dragged = none := by
      simp [nextDragged?, hafter]
    rw [hrecord]
    exact ⟨by simp [hafter], fun d hd => by simp at hd⟩

/-- The record is right all along a run. -/
theorem tracks_run {l : Listing} {dragged : Option Dragged} (h : Tracks l dragged)
    (steps : List (Sources × ListingOp)) :
    Tracks (runSteps steps l) (draggedAfter? steps l dragged) := by
  induction steps generalizing l dragged with
  | nil => exact h
  | cons step steps ih => exact ih (tracks_perform h step.1 step.2)

theorem tracks_empty : Tracks empty none :=
  ⟨by simp [empty], fun d hd => by simp at hd⟩

/-! ## The cursor of a drag -/

/-- The cursor is on what is dragged. -/
def OnDragged (l : Listing) (dragged : Option Dragged) : Prop :=
  ∀ d, dragged = some d → l.cursor = d.ordinal

/-- The steps that put the cursor somewhere else during a drag. -/
def Abandons (l : Listing) (sources : Sources) (op : ListingOp) : Prop :=
  l.dragging = true ∧ op.Places ∧ (perform sources op l).listing.cursor ≠ l.cursor

/-- Strides of a drag take the entry along with the cursor. -/
theorem followSteps_cursor {step : Listing → Option (Listing × List Notice)}
    (hstep : ∀ l l' notices, step l = some (l', notices) → Stride l l' notices) (count : Nat)
    {l : Listing} (hdragging : l.dragging = true) (hentry : l.cursor < l.entries.length) :
    followSteps step count l l.cursor = some (steps step count l).1.cursor := by
  induction count generalizing l with
  | zero => rfl
  | succ count ih =>
    cases h : step l with
    | none => simp [followSteps, steps, h]
    | some result =>
      obtain ⟨l', notices⟩ := result
      rw [steps_succ_of_some h]
      have hon : l.isOnEntry = true := (isOnEntry_iff l).mpr hentry
      simp only [followSteps, h, hdragging, hon, Bool.and_self, if_true, Equiv.swap_apply_left]
      cases hstep l l' notices h with
      | drag target _ _ htarget _ _ =>
        exact ih hdragging (by simpa using htarget.lt_length)
      | walk target hfree _ =>
        -- the cursor does not walk away from an entry that it drags
        rcases hfree with hfree | hfree
        · simp [hdragging] at hfree
        · omega

/-- An operation that does not put the cursor anywhere keeps it on the current entry during a drag,
as long as the drag lasts. -/
theorem follow?_cursor {sources : Sources} {op : ListingOp} {l : Listing}
    (hplaces : ¬ op.Places) (hbefore : l.dragging = true) (hentry : l.cursor < l.entries.length)
    (hafter : (perform sources op l).listing.dragging = true) :
    follow? sources op l l.cursor = some (perform sources op l).listing.cursor := by
  have hon : l.isOnEntry = true := (isOnEntry_iff l).mpr hentry
  rw [perform_dragging] at hafter
  cases op with
  | load root rootOnly =>
    cases rootOnly with
    | true => rfl
    | false => simp at hafter
  | add entry before =>
    have hne : l.entries ≠ [] := List.ne_nil_of_length_pos (by omega)
    exact congrArg some (add_cursor hne entry before).symm
  | append entry => simp [follow?, perform, append, hon]
  | removeCurrent => simp [hon] at hafter
  | sort => rfl
  | move count =>
    simp only [follow?, perform, move_eq_steps]
    exact followSteps_cursor (fun _ _ _ => stride_of_stepToward) count.natAbs hbefore hentry
  | setDragging state =>
    simp only [follow?, perform, setDragging]
    split <;> rfl
  | finishFill => exact absurd trivial hplaces
  | home => exact absurd trivial hplaces
  | toEnd => exact absurd trivial hplaces
  | set ordinal => exact absurd trivial hplaces
  | select entry => exact absurd trivial hplaces
  | goBack key => exact absurd trivial hplaces
  | _ => rfl

/-- Putting the cursor somewhere takes no entry anywhere and does not end a drag. -/
theorem follow?_of_places {op : ListingOp} (h : op.Places) (sources : Sources) (l : Listing)
    (ordinal : Nat) :
    follow? sources op l ordinal = some ordinal ∧
      (perform sources op l).listing.dragging = l.dragging := by
  rw [perform_dragging]
  cases op with
  | finishFill => exact ⟨rfl, rfl⟩
  | home => exact ⟨rfl, rfl⟩
  | toEnd => exact ⟨rfl, rfl⟩
  | set ordinal => exact ⟨rfl, rfl⟩
  | select entry => exact ⟨rfl, rfl⟩
  | goBack key => exact ⟨rfl, rfl⟩
  | _ => exact absurd h id

/-- **One operation** keeps the cursor on what is dragged exactly if it does not abandon it. -/
theorem onDragged_perform_iff {l : Listing} {dragged : Option Dragged} (h : Tracks l dragged)
    (hon : OnDragged l dragged) (sources : Sources) (op : ListingOp) :
    OnDragged (perform sources op l).listing (nextDragged? sources op l dragged)
      ↔ ¬ Abandons l sources op := by
  cases hdragged : dragged with
  | none =>
    have hbefore : l.dragging = false := by
      simpa [hdragged] using h.dragging
    refine iff_of_true (fun d hd => ?_) fun habandons => by simp [habandons.1] at hbefore
    -- if a drag begins it begins at the cursor, which does not move
    by_cases hafter : (perform sources op l).listing.dragging = true
    · obtain ⟨rfl, hentry⟩ := begins_drag hbefore hafter
      simp only [nextDragged?, hafter, if_true, Option.map_eq_some_iff] at hd
      obtain ⟨e, he, rfl⟩ := hd
      simp [perform, setDragging, he]
    · simp [nextDragged?, hafter] at hd
  | some d =>
    have hbefore : l.dragging = true := by
      simp [h.dragging, hdragged]
    have hcursor : l.cursor = d.ordinal := hon d hdragged
    have hlt : l.cursor < l.entries.length :=
      hcursor ▸ (List.getElem?_eq_some_iff.mp (h.listed d hdragged)).1
    by_cases hplaces : op.Places
    · obtain ⟨hfollow, hdragging⟩ := follow?_of_places hplaces sources l d.ordinal
      have hrecord : nextDragged? sources op l (some d) = some d := by
        simp [nextDragged?, hdragging, hbefore, hfollow]
      simp [OnDragged, Abandons, hrecord, hbefore, hplaces, hcursor]
    · refine iff_of_true (fun d' hd' => ?_) fun habandons => hplaces habandons.2.1
      by_cases hafter : (perform sources op l).listing.dragging = true
      · have hfollow := follow?_cursor hplaces hbefore hlt hafter
        simp only [nextDragged?, hafter, if_true, ← hcursor, hfollow, Option.map_some,
          Option.some.injEq] at hd'
        rw [← hd']
      · simp [nextDragged?, hafter] at hd'

/-- The cursor stays on what is dragged all along a run exactly if no step abandons it. -/
theorem onDragged_run_iff {l : Listing} {dragged : Option Dragged} (h : Tracks l dragged)
    (steps : List (Sources × ListingOp)) :
    (∀ before, before <+: steps → OnDragged (runSteps before l) (draggedAfter? before l dragged))
      ↔ OnDragged l dragged ∧ EveryStep (fun l sources op => ¬ Abandons l sources op) steps l := by
  induction steps generalizing l dragged with
  | nil => simp [everyStep_nil, draggedAfter?]
  | cons step steps ih =>
    obtain ⟨sources, op⟩ := step
    have hrest := ih (tracks_perform h sources op)
    rw [everyStep_cons]
    constructor
    · intro hall
      have hon : OnDragged l dragged := hall [] List.nil_prefix
      have hlater := hrest.mp fun before hbefore =>
        hall ((sources, op) :: before) (List.cons_prefix_cons.mpr ⟨rfl, hbefore⟩)
      exact ⟨hon, (onDragged_perform_iff h hon sources op).mp hlater.1, hlater.2⟩
    · rintro ⟨hon, hstep, hsteps⟩ before hbefore
      cases before with
      | nil => exact hon
      | cons first before =>
        obtain ⟨rfl, hprefix⟩ := List.cons_prefix_cons.mp hbefore
        exact hrest.mpr ⟨(onDragged_perform_iff h hon sources op).mpr hstep, hsteps⟩ before hprefix

/-! ## The end of a drag -/

/-- The drag can be ended after a run: this succeeds, it is over then, and the list sources are
asked to keep the entry on which it began at the ordinal where that stands. -/
def CanDrop (steps : List (Sources × ListingOp)) : Prop :=
  ∀ d, dragged? steps = some d → ∀ sources,
    let l := runSteps steps empty
    let reply := perform sources (.setDragging false) l
    reply.answer = .flag true ∧ reply.listing.dragging = false ∧
      reply.moves = [⟨l.root, d.entry, d.ordinal⟩]

/-- The drag can be ended exactly if the cursor is on what is dragged. -/
theorem canDrop_iff (steps : List (Sources × ListingOp)) :
    CanDrop steps ↔ OnDragged (runSteps steps empty) (dragged? steps) := by
  have htracks : Tracks (runSteps steps empty) (dragged? steps) := tracks_run tracks_empty steps
  constructor
  · intro hdrop d hd
    obtain ⟨-, -, hmoves⟩ := hdrop d hd Sources.silent
    -- the position that is asked for is always that of the cursor
    have hdragging : (runSteps steps empty).dragging = true := by
      simp [htracks.dragging, hd]
    rw [perform_moves] at hmoves
    simp only [hdragging, if_true, Option.toList_eq_singleton_iff, Option.map_eq_some_iff,
      Move.mk.injEq] at hmoves
    obtain ⟨_, -, -, -, hcursor⟩ := hmoves
    exact hcursor
  · intro hon d hd sources
    have hdragging : (runSteps steps empty).dragging = true := by
      simp [htracks.dragging, hd]
    have hcursor : (runSteps steps empty).cursor = d.ordinal := hon d hd
    have hcurrent : (runSteps steps empty).current? = some d.entry := by
      rw [current?, hcursor]
      exact htracks.listed d hd
    simp [perform, setDragging, hcurrent, hdragging, hcursor]

/-- **The dragged entry**. At every point of a run there is a drag exactly if an entry is dragged,
and this is still listed. From there on, through any further steps, the drag can be ended at every
point with the position of that entry being kept, exactly if this is so at the beginning and no step
puts the cursor elsewhere during a drag. What is asked of the list sources is in any case asked at
the end of a drag, for the entry at the cursor and the ordinal of the cursor. -/
theorem dragged_entry (steps : List (Sources × ListingOp)) :
    let l := runSteps steps empty
    ((l.dragging = true ↔ (dragged? steps).isSome = true) ∧
      ∀ d, dragged? steps = some d → l.entries[d.ordinal]? = some d.entry) ∧
    (∀ more, (∀ next, next <+: more → CanDrop (steps ++ next))
      ↔ CanDrop steps ∧ EveryStep (fun l sources op => ¬ Abandons l sources op) more l) ∧
    ∀ sources op request, request ∈ (perform sources op l).moves →
      op = .setDragging false ∧ l.dragging = true ∧ request.root = l.root ∧
        l.current? = some request.entry ∧ request.position = l.cursor := by
  intro l
  have htracks : Tracks l (dragged? steps) := tracks_run tracks_empty steps
  refine ⟨⟨htracks.dragging, htracks.listed⟩, fun more => ?_, fun sources op request hrequest => ?_⟩
  · have hpoint : ∀ next, CanDrop (steps ++ next)
        ↔ OnDragged (runSteps next l) (draggedAfter? next l (dragged? steps)) := by
      intro next
      rw [canDrop_iff, runSteps_append, dragged?, draggedAfter?_append]
      rfl
    simp only [hpoint]
    rw [onDragged_run_iff htracks more, canDrop_iff]
  · rw [perform_moves] at hrequest
    split at hrequest
    case h_1 =>
      split at hrequest
      case isTrue hdragging =>
        simp only [Option.mem_toList, Option.map_eq_some_iff] at hrequest
        obtain ⟨e, he, rfl⟩ := hrequest
        exact ⟨rfl, hdragging, rfl, he, rfl⟩
      case isFalse => simp at hrequest
    case h_2 => simp at hrequest

/-- Two entries, the first of which is dragged. -/
def firstDragged : List (Sources × ListingOp) :=
  [(.silent, .append shownEntry), (.silent, .append (.marker "other")), (.silent, .home),
    (.silent, .setDragging true)]

/-- A drag is abandoned in two ways. With the cursor at the end of the list it cannot be ended. With
the cursor on another entry it is the position of this other entry that is kept. -/
theorem drag_abandoned :
    (dragged? (firstDragged ++ [(.silent, .toEnd)]) = some ⟨shownEntry, 0⟩ ∧
      (runSteps (firstDragged ++ [(.silent, .toEnd)]) empty).isOnEntry = false ∧
      (runSteps (firstDragged ++ [(.silent, .toEnd), (.silent, .setDragging false)]) empty).dragging
        = true) ∧
    dragged? (firstDragged ++ [(.silent, .set 1)]) = some ⟨shownEntry, 0⟩ ∧
      requests (firstDragged ++ [(.silent, .set 1), (.silent, .setDragging false)]) empty
        = [⟨.blank, .marker "other", 1⟩] := by
  decide

end Listing

end Bouquet
