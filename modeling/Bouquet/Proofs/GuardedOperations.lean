import Bouquet.Proofs.CursorPlacement
import Bouquet.Proofs.GuardedLists
import Bouquet.Proofs.StableSorting

/-!
# Operations Stay in Range

Every operation on a listing is written out once more, step by step as a program carries it out on
a list that fails where it is accessed out of range. Ordinals come from the cursor, from arguments,
from bookmarks and from searches; none of them is ever out of range. So the operations do not fail,
and they do what the operations of `Bouquet.Listing.Run` do.

## Main definitions

- `Guarded.perform`: one operation through guarded accesses

## Main statements

- `Guarded.perform_eq`: an operation does not fail
- `Listing.cursor_le_perform`: an operation keeps the cursor within the list
- `ListView.ordinals_in_range`: both throughout a run
-/

namespace Bouquet

namespace Guarded

/-! ## Moving the cursor -/

/-- Goes to an ordinal, or from an invisible entry on to the next visible one. -/
def set (l : Listing) (ordinal : Nat) : Guarded Listing := do
  let cursor ← firstVisibleFrom l.entries ordinal
  return { l with cursor := cursor }

/-- Goes to the first place of an entry; the flag tells whether it is listed. -/
def select (l : Listing) (r : Reference) : Guarded (Listing × Bool) := do
  match l.lookup? r with
  | some ordinal => return (← set l ordinal, true)
  | none => return (l, false)

/-- Takes the cursor to another ordinal, and a dragged entry with it. -/
def travel (l : Listing) (target : Nat) : Guarded (Listing × List Notice) := do
  if l.dragging && l.isOnEntry then
    -- the target has to be the ordinal of an entry, not the end of the list
    let entries ← exchanged l.entries l.cursor target
    let left ← rowOf entries l.cursor
    let reached ← rowOf entries target
    return ({ l with entries := entries, cursor := target }, [.changed left, .changed reached])
  else return ({ l with cursor := target }, [])

/-- One row forward. -/
def stepForward (l : Listing) : Guarded (Option (Listing × List Notice)) := do
  if l.isOnEntry then
    match ← nextVisible? l.entries l.cursor with
    | some target => return some (← travel l target)
    | none => if l.dragging then return none else return some (← travel l l.size)
  else return none

/-- One row backward. -/
def stepBackward (l : Listing) : Guarded (Option (Listing × List Notice)) := do
  match ← lastVisibleBefore? l.entries l.cursor with
  | some target => return some (← travel l target)
  | none => return none

/-- At most `count` steps, ended by the first one that cannot be taken. -/
def steps (step : Listing → Guarded (Option (Listing × List Notice))) :
    Nat → Listing → Guarded (Listing × Nat × List Notice)
  | 0, l => return (l, 0, [])
  | count + 1, l => do
    match ← step l with
    | none => return (l, 0, [])
    | some (l, notices) =>
      let (l, taken, later) ← steps step count l
      return (l, taken + 1, notices ++ later)

/-- Moves by `count` rows, backward when it is negative. -/
def move (l : Listing) (count : Int) : Guarded (Listing × Int × List Notice) := do
  if 0 ≤ count then
    let (l, taken, notices) ← steps stepForward count.natAbs l
    return (l, (taken : Int), notices)
  else
    let (l, taken, notices) ← steps stepBackward count.natAbs l
    return (l, -(taken : Int), notices)

/-- Begins or ends the drag of the current entry. -/
def setDragging (l : Listing) (state : Bool) :
    Guarded (Listing × Bool × List Notice × List Move) := do
  match l.current? with
  | none => return (l, false, [], [])
  | some entry =>
    let row ← rowOf l.entries l.cursor
    return ({ l with dragging := state }, true, [.changed row],
      if l.dragging && !state then [⟨l.root, entry, l.cursor⟩] else [])

/-! ## Editing the list -/

/-- Takes another root, and unless only the root is to be known its children. -/
def load (l : Listing) (sources : Sources) (root : Reference) (rootOnly : Bool) :
    Guarded (Listing × List Notice) := do
  if rootOnly then return ({ l with root := root }, [])
  else
    let loaded ← set
      { l with
        root := root
        entries := (sources.children root).getD []
        dragging := false
        bookmarks := Bookmarks.empty } 0
    return (loaded, [.reset true])

/-- Inserts an entry next to the cursor; at the end of the list it is pushed unless it is to stand
before the cursor. -/
def add (l : Listing) (r : Reference) (before : Bool) : Guarded (Listing × List Notice) := do
  let ordinal := l.insertionPoint before
  let entries ←
    if !before && ordinal == l.size then pure (l.entries ++ [r]) else inserted l.entries ordinal r
  let cursor :=
    if l.entries.isEmpty then 0
    else if ordinal ≤ l.cursor then l.cursor + 1
    else l.cursor
  let row ← rowOf entries ordinal
  return ({ l with entries := entries, cursor := cursor }, [.added row])

/-- Appends an entry. -/
def append (l : Listing) (r : Reference) : Guarded (Listing × List Notice) := do
  let entries := l.entries ++ [r]
  let cursor := if l.isOnEntry then l.cursor else entries.length
  let last ← difference entries.length 1
  let row ← rowOf entries last
  return ({ l with entries := entries, cursor := cursor }, [.added row])

/-- Ends a bulk fill. -/
def finishFill (l : Listing) : Guarded (Listing × List Notice) := do
  return (← set l 0, [.reset true])

/-- Removes the entry at the cursor. -/
def removeCurrent (l : Listing) : Guarded (Listing × Bool × List Notice) := do
  if l.isOnEntry then
    let row ← rowOf l.entries l.cursor
    let entries ← removed l.entries l.cursor
    let cursor ← firstVisibleFrom entries l.cursor
    return ({ l with entries := entries, dragging := false, cursor := cursor }, true,
      [.removed row])
  else return (l, false, [])

/-- Sorts the entries. -/
def sort (l : Listing) (order : Reference → Reference → Ordering) :
    Guarded (Listing × List Notice) := do
  let sorted ← ranked order l.entries
  return ({ l with
      entries := sorted.map (·.1)
      cursor := sorted.findIdx fun entry => entry.2 == l.cursor },
    [.reset false])

/-! ## Neighbours and searches -/

/-- The entry at an ordinal that a search found. -/
def entryAt? (entries : List Reference) (found : Option Nat) : Guarded (Option Reference) := do
  match found with
  | some ordinal => return some (← entryAt entries ordinal)
  | none => return none

/-- The visible entry before the cursor. -/
def previous? (l : Listing) : Guarded (Option Reference) := do
  entryAt? l.entries (← lastVisibleBefore? l.entries l.cursor)

/-- The visible entry after the cursor, which has to be on an entry. -/
def next? (l : Listing) : Guarded (Option Reference) := do
  if l.isOnEntry then entryAt? l.entries (← nextVisible? l.entries l.cursor) else return none

/-- The ordinal `k` places behind the cursor, going around the list. -/
def forwardOrdinal (l : Listing) (k : Nat) : Guarded Nat :=
  remainder ((if l.isOnEntry then l.cursor else l.size - 1) + k) l.size

/-- The ordinal `k` places before the cursor, going around the list. -/
def backwardOrdinal (l : Listing) (k : Nat) : Guarded Nat := do
  -- going back by the whole list at most stays above zero, also from the first entry
  let ordinal ← difference (min l.cursor l.size + 2 * l.size) k
  remainder ordinal l.size

/-- A search once around the list. -/
def searchAround (l : Listing) (test : Reference → Bool) (ordinalOf : Nat → Guarded Nat) :
    Guarded (Option Nat) :=
  -- in an empty list no ordinal is computed, so nothing is divided by its size
  scan l.entries test ordinalOf (List.range' 1 l.size)

/-! ## All operations -/

/-- One operation. -/
def perform (sources : Sources) (op : ListingOp) (l : Listing) : Guarded Reply := do
  match op with
  | .load root rootOnly =>
    let (l, notices) ← load l sources root rootOnly
    return ⟨l, .done, notices, []⟩
  | .add entry before =>
    let (l, notices) ← add l entry before
    return ⟨l, .done, notices, []⟩
  | .append entry =>
    let (l, notices) ← append l entry
    return ⟨l, .done, notices, []⟩
  | .finishFill =>
    let (l, notices) ← finishFill l
    return ⟨l, .done, notices, []⟩
  | .removeCurrent =>
    let (l, removed, notices) ← removeCurrent l
    return ⟨l, .flag removed, notices, []⟩
  | .sort =>
    let (l, notices) ← sort l sources.order
    return ⟨l, .done, notices, []⟩
  | .home => return ⟨← set l 0, .done, [], []⟩
  | .toEnd => return ⟨l.toEnd, .done, [], []⟩
  | .move count =>
    let (l, taken, notices) ← move l count
    return ⟨l, .count taken, notices, []⟩
  | .set ordinal => return ⟨← set l ordinal, .done, [], []⟩
  | .select entry =>
    let (l, found) ← select l entry
    return ⟨l, .flag found, [], []⟩
  | .keep key => return ⟨l.keep key, .done, [], []⟩
  | .goBack key =>
    let (l, found) := l.goBack key
    return ⟨l, .flag found, [], []⟩
  | .setDragging state =>
    let (l, done, notices, moves) ← setDragging l state
    return ⟨l, .flag done, notices, moves⟩
  | .marks op =>
    let (marks, answer) := l.marks.step op
    return ⟨{ l with marks := marks }, Answer.ofMarks answer, [], []⟩
  | .root => return l.answering (.entry (some l.root))
  | .size => return l.answering (.count l.size)
  | .entries => return l.answering (.entries l.entries)
  | .row ordinal => return l.answering (.count (← rowOf l.entries ordinal))
  | .isOnEntry => return l.answering (.flag l.isOnEntry)
  | .isSelectable => return l.answering (.flag l.isSelectable)
  | .current => return l.answering (.entry l.current?)
  | .previous => return l.answering (.entry (← previous? l))
  | .next => return l.answering (.entry (← next? l))
  | .lookup entry => return l.answering (.ordinal (l.lookup? entry))
  | .nextBeginningWith c =>
    let found ← searchAround l (Listing.beginsWith sources c) (forwardOrdinal l)
    return l.answering (.ordinal found)
  | .nextMarker =>
    let found ← searchAround l Listing.isVisibleMarker (forwardOrdinal l)
    return l.answering (.ordinal found)
  | .previousMarker =>
    let found ← searchAround l Listing.isVisibleMarker (backwardOrdinal l)
    return l.answering (.ordinal found)
  | .isRecorded entry filter => return l.answering (.flag (sources.isRecorded entry filter))

/-! ## No operation fails -/

theorem set_eq (l : Listing) (ordinal : Nat) : set l ordinal = pure (l.set ordinal) := by
  rw [set, firstVisibleFrom_eq, pure_bind]
  rfl

theorem select_eq (l : Listing) (r : Reference) : select l r = pure (l.select r) := by
  rw [select, Listing.select]
  cases l.lookup? r with
  | none => rfl
  | some ordinal => simp only [set_eq, pure_bind]

/-- What is exchanged with a dragged entry has to be listed. -/
theorem travel_eq {l : Listing} {target : Nat}
    (h : l.isOnEntry = true → l.dragging = true → target < l.entries.length) :
    travel l target = pure (l.travel target) := by
  rw [travel, Listing.travel]
  split
  case isTrue hdrag =>
    obtain ⟨hdragging, hentry⟩ := Bool.and_eq_true_iff.mp hdrag
    simp only [exchanged_eq ((Listing.isOnEntry_iff l).mp hentry) (h hentry hdragging), pure_bind,
      rowOf_eq]
  case isFalse => rfl

theorem stepForward_eq (l : Listing) : stepForward l = pure l.stepForward := by
  rw [stepForward, Listing.stepForward]
  split
  case isFalse => rfl
  case isTrue hentry =>
    rw [nextVisible?_eq, pure_bind]
    cases hnext : Bouquet.nextVisible? l.entries l.cursor with
    | some target =>
      obtain ⟨-, hvisible, -⟩ := nextVisible?_eq_some hnext
      simp only [travel_eq fun _ _ => hvisible.lt_length, pure_bind]
    | none =>
      cases hdragging : l.dragging with
      | true => rfl
      | false =>
        -- to the end of the list the cursor goes alone
        have htravel : travel l l.size = pure (l.travel l.size) :=
          travel_eq fun _ h => by simp [hdragging] at h
        simp [htravel]

theorem stepBackward_eq (l : Listing) : stepBackward l = pure l.stepBackward := by
  rw [stepBackward, Listing.stepBackward, lastVisibleBefore?_eq, pure_bind]
  cases hlast : Bouquet.lastVisibleBefore? l.entries l.cursor with
  | none => rfl
  | some target =>
    obtain ⟨-, hvisible, -⟩ := lastVisibleBefore?_eq_some hlast
    simp only [travel_eq fun _ _ => hvisible.lt_length, pure_bind, Option.map_some]

theorem steps_eq {guarded : Listing → Guarded (Option (Listing × List Notice))}
    {step : Listing → Option (Listing × List Notice)} (h : ∀ l, guarded l = pure (step l))
    (count : Nat) (l : Listing) : steps guarded count l = pure (Listing.steps step count l) := by
  induction count generalizing l with
  | zero => rfl
  | succ count ih =>
    -- guarded or not, the same step is taken or ends the sequence
    rw [steps, h, pure_bind]
    cases hstep : step l with
    | none => rw [Listing.steps_succ_of_none hstep]
    | some result => simp only [ih, pure_bind, Listing.steps_succ_of_some hstep]

theorem move_eq (l : Listing) (count : Int) : move l count = pure (l.move count) := by
  rw [move, Listing.move, steps_eq stepForward_eq, steps_eq stepBackward_eq]
  split <;> rfl

theorem setDragging_eq (l : Listing) (state : Bool) :
    setDragging l state = pure (l.setDragging state) := by
  rw [setDragging, Listing.setDragging]
  cases l.current? with
  | none => rfl
  | some entry =>
    simp only [rowOf_eq, pure_bind]
    rfl

theorem load_eq (l : Listing) (sources : Sources) (root : Reference) (rootOnly : Bool) :
    load l sources root rootOnly = pure (l.load sources root rootOnly) := by
  rw [load, Listing.load]
  split
  · rfl
  · rw [set_eq, pure_bind]
    rfl

theorem add_eq (l : Listing) (r : Reference) (before : Bool) :
    add l r before = pure (l.add r before) := by
  have hle : l.insertionPoint before ≤ l.entries.length := Listing.insertionPoint_le l before
  rw [add]
  split
  case isTrue hend =>
    -- to push an entry is to insert it at the end
    have hordinal : l.insertionPoint before = l.entries.length :=
      beq_iff_eq.mp (Bool.and_eq_true_iff.mp hend).2
    have hpush : l.entries ++ [r] = l.entries.insertIdx (l.insertionPoint before) r := by
      rw [hordinal, List.insertIdx_length_self]
    rw [hpush]
    simp only [pure_bind, rowOf_eq]
    rfl
  case isFalse =>
    simp only [inserted_eq hle, pure_bind, rowOf_eq]
    rfl

theorem append_eq (l : Listing) (r : Reference) : append l r = pure (l.append r) := by
  have hlast : difference (l.entries ++ [r]).length 1 = pure l.size := by
    rw [difference_eq (by simp)]
    simp [Listing.size]
  simp only [append, hlast, pure_bind, rowOf_eq]
  rfl

theorem removeCurrent_eq (l : Listing) : removeCurrent l = pure l.removeCurrent := by
  rw [removeCurrent, Listing.removeCurrent]
  split
  case isFalse => rfl
  case isTrue hentry =>
    simp only [rowOf_eq, pure_bind, removed_eq ((Listing.isOnEntry_iff l).mp hentry),
      firstVisibleFrom_eq]
    rfl

theorem sort_eq {l : Listing} {order : Reference → Reference → Ordering}
    (h : Ranks order l.entries) : sort l order = pure (l.sort order) := by
  rw [sort, ranked_eq h, pure_bind]
  rfl

theorem entryAt?_eq {entries : List Reference} {found : Option Nat}
    (h : ∀ ordinal, found = some ordinal → ordinal < entries.length) :
    entryAt? entries found = pure (found.bind fun ordinal => entries[ordinal]?) := by
  cases found with
  | none => rfl
  | some ordinal =>
    have hentry := List.getElem?_eq_getElem (h ordinal rfl)
    simp only [entryAt?, entryAt_eq hentry, pure_bind, Option.bind_some, hentry]

theorem previous?_eq (l : Listing) : previous? l = pure l.previous? := by
  rw [previous?, lastVisibleBefore?_eq, pure_bind, entryAt?_eq fun ordinal h =>
    (lastVisibleBefore?_eq_some h).2.1.lt_length]
  rfl

theorem next?_eq (l : Listing) : next? l = pure l.next? := by
  rw [next?, Listing.next?]
  split
  case isFalse => rfl
  case isTrue =>
    rw [nextVisible?_eq, pure_bind, entryAt?_eq fun ordinal h =>
      (nextVisible?_eq_some h).2.1.lt_length]

/-- A search around the list asks for ordinals only if there are entries. -/
theorem searchAround_eq (l : Listing) (test : Reference → Bool) {ordinalOf : Nat → Guarded Nat}
    (place : Nat → Nat)
    (h : ∀ k, 0 < k → k ≤ l.size → ordinalOf k = pure (place k) ∧ place k < l.size) :
    searchAround l test ordinalOf
      = pure (l.findAmong? test ((List.range l.size).map fun k => place (k + 1))) := by
  rw [searchAround, scan_eq test place]
  · rw [Listing.findAmong?, List.range'_eq_map_range, List.map_map]
    congr 3
    funext k
    rw [Function.comp_apply, Nat.add_comm]
  · intro k hk
    rw [List.mem_range'_1] at hk
    exact h k (by omega) (by omega)

theorem searchForward_eq (l : Listing) (test : Reference → Bool) :
    searchAround l test (forwardOrdinal l) = pure (l.findAmong? test l.forwardOrdinals) :=
  searchAround_eq l test _ fun k hk hle =>
    ⟨remainder_eq _ (by omega), Nat.mod_lt _ (by omega)⟩

theorem searchBackward_eq (l : Listing) (test : Reference → Bool) :
    searchAround l test (backwardOrdinal l) = pure (l.findAmong? test l.backwardOrdinals) := by
  refine searchAround_eq l test (fun k => (min l.cursor l.size + 2 * l.size - k) % l.size)
    fun k hk hle => ⟨?_, Nat.mod_lt _ (by omega)⟩
  rw [backwardOrdinal, difference_eq (by omega), pure_bind, remainder_eq _ (by omega)]

/-- **No operation fails**, as long as the entries are sorted by an order that ranks them. -/
theorem perform_eq (sources : Sources) (op : ListingOp) (l : Listing)
    (horder : op = .sort → Ranks sources.order l.entries) :
    perform sources op l = pure (l.perform sources op) := by
  cases op with
  | load root rootOnly => simp only [perform, load_eq, pure_bind]; rfl
  | add entry before => simp only [perform, add_eq, pure_bind]; rfl
  | append entry => simp only [perform, append_eq, pure_bind]; rfl
  | finishFill => simp only [perform, finishFill, set_eq, pure_bind]; rfl
  | removeCurrent => simp only [perform, removeCurrent_eq, pure_bind]; rfl
  | sort => simp only [perform, sort_eq (horder rfl), pure_bind]; rfl
  | home => simp only [perform, set_eq, pure_bind]; rfl
  | move count => simp only [perform, move_eq, pure_bind]; rfl
  | set ordinal => simp only [perform, set_eq, pure_bind]; rfl
  | select entry => simp only [perform, select_eq, pure_bind]; rfl
  | setDragging state => simp only [perform, setDragging_eq, pure_bind]; rfl
  | row ordinal => simp only [perform, rowOf_eq, pure_bind]; rfl
  | previous => simp only [perform, previous?_eq, pure_bind]; rfl
  | next => simp only [perform, next?_eq, pure_bind]; rfl
  | nextBeginningWith c => simp only [perform, searchForward_eq, pure_bind]; rfl
  | nextMarker => simp only [perform, searchForward_eq, pure_bind]; rfl
  | previousMarker => simp only [perform, searchBackward_eq, pure_bind]; rfl
  | _ => rfl

end Guarded

/-! ## The cursor stays within the list -/

/-- A bookmark never leads beyond the end of the list, whatever became of its entry. -/
theorem Bookmark.resolve_le_length (mark : Bookmark) (entries : List Reference) :
    mark.resolve entries ≤ entries.length := by
  have hleads : mark.Leads entries (mark.resolve entries) := (mark.resolve_eq_iff entries _).mp rfl
  generalize mark.resolve entries = ordinal at hleads ⊢
  cases hleads with
  | toEnd _ => exact Nat.le_refl _
  | stays _ _ _ hx _ => exact Nat.le_of_lt (List.getElem?_eq_some_iff.mp hx).1
  | moved _ _ _ _ _ hx _ _ => exact Nat.le_of_lt (List.getElem?_eq_some_iff.mp hx).1
  | lost _ _ _ => exact Nat.min_le_right _ _

namespace Listing

theorem cursor_set_le (l : Listing) (ordinal : Nat) : (l.set ordinal).cursor ≤ l.size :=
  firstVisibleFrom_le_length l.entries ordinal

theorem cursor_le_of_stride {l l' : Listing} {notices : List Notice}
    (hstride : Stride l l' notices) : l'.cursor ≤ l'.size := by
  cases hstride with
  | drag target _ _ htarget _ _ =>
    show target ≤ (swapped l.entries l.cursor target).length
    rw [length_swapped]
    exact Nat.le_of_lt htarget.lt_length
  | walk target _ htarget =>
    rcases htarget with hvisible | hend
    · exact Nat.le_of_lt hvisible.lt_length
    · exact Nat.le_of_eq hend

theorem cursor_add_le {l : Listing} (h : l.cursor ≤ l.size) (r : Reference) (before : Bool) :
    (l.add r before).1.cursor ≤ (l.add r before).1.size := by
  have hsize : (l.add r before).1.size = l.size + 1 :=
    List.length_insertIdx_of_le_length (insertionPoint_le l before) r
  rw [hsize]
  by_cases hempty : l.entries = []
  · rw [add_cursor_of_empty hempty]
    exact Nat.zero_le _
  · rw [add_cursor hempty]
    split <;> omega

theorem cursor_sort_le (l : Listing) (order : Reference → Reference → Ordering) :
    (l.sort order).1.cursor ≤ (l.sort order).1.size := by
  have hsize : (l.sort order).1.size = l.entries.length := (sorted_perm order l.entries).length_eq
  rw [hsize, sort_cursor]
  by_cases hentry : l.cursor < l.entries.length
  · exact Nat.le_of_lt (sortedOrdinal_lt hentry)
  · exact Nat.le_of_eq (sortedOrdinal_of_length_le (Nat.not_lt.mp hentry))

/-- **An operation keeps the cursor within the list**, also where it makes the list shorter. -/
theorem cursor_le_perform {l : Listing} (h : l.cursor ≤ l.size) (sources : Sources)
    (op : ListingOp) :
    (perform sources op l).listing.cursor ≤ (perform sources op l).listing.size := by
  -- searches end at the end of the list at the latest, and so do bookmarks; insertions take the
  -- cursor along by one place at most
  cases op with
  | load root rootOnly =>
    cases rootOnly with
    | true => exact h
    | false => exact firstVisibleFrom_le_length _ 0
  | add entry before => exact cursor_add_le h entry before
  | append entry =>
    simp only [perform, append, size, List.length_append, List.length_singleton] at h ⊢
    split <;> omega
  | finishFill => exact cursor_set_le l 0
  | removeCurrent =>
    simp only [perform, removeCurrent]
    split
    · exact firstVisibleFrom_le_length _ l.cursor
    · exact h
  | sort => exact cursor_sort_le l sources.order
  | home => exact cursor_set_le l 0
  | toEnd => exact Nat.le_refl _
  | move count =>
    exact move_induction (P := fun m => m.cursor ≤ m.size)
      (fun _ _ _ hstride _ => cursor_le_of_stride hstride) count h
  | set ordinal => exact cursor_set_le l ordinal
  | select entry =>
    simp only [perform, select]
    split
    · exact cursor_set_le l _
    · exact h
  | goBack key =>
    simp only [perform, goBack]
    split
    · exact Bookmark.resolve_le_length _ l.entries
    · exact h
  | setDragging state =>
    simp only [perform, setDragging]
    split <;> exact h
  | _ => exact h

theorem cursor_le_runSteps {l : Listing} (h : l.cursor ≤ l.size)
    (steps : List (Sources × ListingOp)) : (runSteps steps l).cursor ≤ (runSteps steps l).size := by
  induction steps generalizing l with
  | nil => exact h
  | cons step steps ih => exact ih (cursor_le_perform h step.1 step.2)

end Listing

namespace ListView

/-- **No ordinal is ever out of range.** Whatever was done to a list before and whatever the sources
answered, the cursor is within the list, and no operation with any argument fails at an access or a
computation. Only to sort, the order has to rank the entries. -/
theorem ordinals_in_range (actions : List (Sources × ViewAction)) (sources : Sources)
    [Std.TransCmp sources.order] (op : ListingOp) :
    let l := (run actions empty).listing
    l.cursor ≤ l.size ∧ Guarded.perform sources op l = .ok (Listing.perform sources op l) := by
  intro l
  refine ⟨?_, Guarded.perform_eq sources op l fun _ => ranks_of_transCmp sources.order l.entries⟩
  have hlisting : l = Listing.empty.runSteps (listSteps actions) := run_listing actions empty
  rw [hlisting]
  exact Listing.cursor_le_runSteps (Nat.le_refl _) (listSteps actions)

/-- Two entries are listed, their place is kept, and the invisible one is all that is left when the
cursor goes back. -/
def staleBookmark : List (Sources × ViewAction) :=
  [(.silent, .list (.append hiddenEntry)), (.silent, .list (.append shownEntry)),
    (.silent, .list .home), (.silent, .list (.keep (.line 2))),
    (.silent, .list .removeCurrent), (.silent, .list (.goBack (.line 2)))]

/-- The bookmark is of an entry that is gone, and the list has become shorter than its ordinal asks
for: the cursor is at the end of the list, from where a search for a marker goes around. -/
theorem ordinals_in_range_staleBookmark :
    Std.TransCmp Listing.byNumber.order ∧
      let l := (run staleBookmark empty).listing
      (l.entries = [hiddenEntry] ∧ l.cursor = 1) ∧ l.cursor ≤ l.size ∧
        Guarded.perform Listing.byNumber .previousMarker l
          = .ok (Listing.perform Listing.byNumber .previousMarker l) ∧
        Guarded.perform Listing.byNumber .sort l
          = .ok (Listing.perform Listing.byNumber .sort l) := by
  obtain ⟨hcursor, hsearch⟩ := ordinals_in_range staleBookmark Listing.byNumber .previousMarker
  obtain ⟨-, hsort⟩ := ordinals_in_range staleBookmark Listing.byNumber .sort
  exact ⟨inferInstance, ⟨by decide, by decide⟩, hcursor, hsearch, hsort⟩

end ListView

end Bouquet
