import Bouquet.Proofs.Runs
import Bouquet.Proofs.Strides

/-!
# The Marked Set apart from the List

Marking and browsing share one state but do not interfere. A run from which all marking is left out
goes the same way for the list, and a run of the marking alone goes the same way for the marked
set. Only those answers cross over that are about marks: whether an entry is marked, which ones
are, whether the entry at the cursor can be selected, and how its row looks.

## Main definitions

- `ViewAction.isMarking`: the actions on the marked set
- `ViewAction.readsMarks`: the actions whose answer depends on the marked set
- `ListView.log`: the actions of a run with their replies
- `LogEntry.apartFromMarks`, `LogEntry.ofMarks`: the two sides of what an action does

## Main statements

- `Listing.perform_withMarks`: other operations take any marked set along
- `ListView.marks_and_list_apart`: each family of actions as if the other had not been there
-/

namespace Bouquet

/-! ## The two families -/

/-- Whether an operation changes the marked set or goes on with its pass. -/
def MarksOp.isMarking : MarksOp → Bool
  | .contains _ | .members => false
  | _ => true

/-- Whether the answer of an operation depends on the marked set. -/
def ListingOp.readsMarks : ListingOp → Bool
  | .marks _ | .isSelectable => true
  | _ => false

namespace ViewAction

/-- Whether an action changes the marked set or goes on with its pass. -/
def isMarking : ViewAction → Bool
  | .list (.marks op) => op.isMarking
  | _ => false

/-- Whether the answer of an action depends on the marked set. -/
def readsMarks : ViewAction → Bool
  | .list op => op.readsMarks
  | .describe .. | .paint .. => true
  | _ => false

end ViewAction

/-- An action that was carried out, and what it replied. -/
structure LogEntry where
  action : ViewAction
  reply : ViewReply

/-- The actions of a run with their replies, in order. -/
def ListView.log (actions : List (Sources × ViewAction)) (v : ListView) : List LogEntry :=
  List.zipWith LogEntry.mk (actions.map Prod.snd) (replies actions v)

/-- The same listing with another marked set. -/
def Listing.withMarks (l : Listing) (marks : Marks) : Listing := { l with marks := marks }

/-- The same view with another marked set. -/
def ListView.withMarks (v : ListView) (marks : Marks) : ListView :=
  { v with listing := v.listing.withMarks marks }

namespace LogEntry

/-- What an action does apart from the marked set: the view that it leaves, with an empty one, its
answer unless that depends on the marked set, its notices and its moves. -/
def apartFromMarks (entry : LogEntry) : ListView × Option ViewAnswer × List Notice × List Move :=
  (entry.reply.view.withMarks Marks.empty,
    if entry.action.readsMarks then none else some entry.reply.answer,
    entry.reply.notices, entry.reply.moves)

/-- The marked set after an action, and what the action answers. -/
def ofMarks (entry : LogEntry) : Marks × ViewAnswer :=
  (entry.reply.view.listing.marks, entry.reply.answer)

end LogEntry

/-! ## Operations with any marked set -/

namespace Listing

/-- A result that leaves another marked set. -/
def takeMarks {α : Type} (marks : Marks) (result : Listing × α) : Listing × α :=
  (result.1.withMarks marks, result.2)

@[simp]
theorem entries_withMarks (l : Listing) (marks : Marks) : (l.withMarks marks).entries = l.entries :=
  rfl

@[simp]
theorem cursor_withMarks (l : Listing) (marks : Marks) : (l.withMarks marks).cursor = l.cursor :=
  rfl

@[simp]
theorem dragging_withMarks (l : Listing) (marks : Marks) :
    (l.withMarks marks).dragging = l.dragging := rfl

@[simp]
theorem isOnEntry_withMarks (l : Listing) (marks : Marks) :
    (l.withMarks marks).isOnEntry = l.isOnEntry := rfl

@[simp]
theorem current?_withMarks (l : Listing) (marks : Marks) :
    (l.withMarks marks).current? = l.current? := rfl

@[simp]
theorem lookup?_withMarks (l : Listing) (marks : Marks) (r : Reference) :
    (l.withMarks marks).lookup? r = l.lookup? r := rfl

theorem select_withMarks (l : Listing) (marks : Marks) (r : Reference) :
    (l.withMarks marks).select r = takeMarks marks (l.select r) := by
  simp only [select, lookup?_withMarks]
  cases l.lookup? r <;> rfl

theorem travel_withMarks (l : Listing) (marks : Marks) (target : Nat) :
    (l.withMarks marks).travel target = takeMarks marks (l.travel target) := by
  cases hdrag : l.dragging && l.isOnEntry with
  | false =>
    simp only [travel, dragging_withMarks, isOnEntry_withMarks, hdrag, Bool.false_eq_true, if_false]
    rfl
  | true =>
    simp only [travel, dragging_withMarks, isOnEntry_withMarks, hdrag, if_true]
    rfl

theorem stepForward_withMarks (l : Listing) (marks : Marks) :
    (l.withMarks marks).stepForward = l.stepForward.map (takeMarks marks) := by
  cases hentry : l.isOnEntry with
  | false => simp [stepForward, hentry]
  | true =>
    simp only [stepForward, isOnEntry_withMarks, hentry, if_true, entries_withMarks,
      cursor_withMarks, dragging_withMarks, travel_withMarks]
    cases nextVisible? l.entries l.cursor with
    | some target => rfl
    | none => cases l.dragging <;> rfl

theorem stepBackward_withMarks (l : Listing) (marks : Marks) :
    (l.withMarks marks).stepBackward = l.stepBackward.map (takeMarks marks) := by
  have htravel : (l.withMarks marks).travel = takeMarks marks ∘ l.travel :=
    funext (travel_withMarks l marks)
  simp only [stepBackward, entries_withMarks, cursor_withMarks, htravel, Option.map_map]

theorem steps_withMarks {step : Listing → Option (Listing × List Notice)} {marks : Marks}
    (hstep : ∀ l : Listing, step (l.withMarks marks) = (step l).map (takeMarks marks))
    (count : Nat) (l : Listing) :
    steps step count (l.withMarks marks) = takeMarks marks (steps step count l) := by
  induction count generalizing l with
  | zero => rfl
  | succ count ih =>
    -- both listings come to a stop at the same step
    cases h : step l with
    | none =>
      have hmarks : step (l.withMarks marks) = none := by rw [hstep, h, Option.map_none]
      rw [steps_succ_of_none h, steps_succ_of_none hmarks]
      rfl
    | some result =>
      obtain ⟨l', notices⟩ := result
      have hmarks : step (l.withMarks marks) = some (l'.withMarks marks, notices) := by
        rw [hstep, h, Option.map_some]
        rfl
      rw [steps_succ_of_some h, steps_succ_of_some hmarks, ih]
      rfl

theorem move_withMarks (l : Listing) (marks : Marks) (count : Int) :
    (l.withMarks marks).move count = takeMarks marks (l.move count) := by
  have hstep : ∀ l : Listing,
      stepToward count (l.withMarks marks) = (stepToward count l).map (takeMarks marks) := by
    intro l
    by_cases h : 0 ≤ count
    · simp only [stepToward, if_pos h, stepForward_withMarks]
    · simp only [stepToward, if_neg h, stepBackward_withMarks]
  rw [move_eq_steps, move_eq_steps, steps_withMarks hstep]
  rfl

theorem goBack_withMarks (l : Listing) (marks : Marks) (key : BookmarkKey) :
    (l.withMarks marks).goBack key = takeMarks marks (l.goBack key) := by
  have hbookmarks : (l.withMarks marks).bookmarks = l.bookmarks := rfl
  simp only [goBack, hbookmarks]
  cases l.bookmarks.get? key <;> rfl

theorem setDragging_withMarks (l : Listing) (marks : Marks) (state : Bool) :
    (l.withMarks marks).setDragging state = takeMarks marks (l.setDragging state) := by
  simp only [setDragging, current?_withMarks]
  cases l.current? <;> rfl

theorem removeCurrent_withMarks (l : Listing) (marks : Marks) :
    (l.withMarks marks).removeCurrent = takeMarks marks l.removeCurrent := by
  cases hentry : l.isOnEntry with
  | false =>
    simp only [removeCurrent, isOnEntry_withMarks, hentry, Bool.false_eq_true, if_false]
    rfl
  | true =>
    simp only [removeCurrent, isOnEntry_withMarks, hentry, if_true]
    rfl

theorem load_withMarks (l : Listing) (marks : Marks) (sources : Sources) (root : Reference)
    (rootOnly : Bool) :
    (l.withMarks marks).load sources root rootOnly
      = takeMarks marks (l.load sources root rootOnly) := by
  cases rootOnly <;> rfl

end Listing

/-- A reply that leaves another marked set. -/
def Reply.withMarks (reply : Reply) (marks : Marks) : Reply :=
  { reply with listing := reply.listing.withMarks marks }

namespace Listing

/-- An operation that is not about marks takes any marked set along and does the same. -/
theorem perform_withMarks (sources : Sources) {op : ListingOp} (h : op.readsMarks = false)
    (l : Listing) (marks : Marks) :
    perform sources op (l.withMarks marks) = (perform sources op l).withMarks marks := by
  cases op with
  | marks | isSelectable => cases h
  | load root rootOnly =>
    simp only [perform, load_withMarks]
    rfl
  | removeCurrent =>
    simp only [perform, removeCurrent_withMarks]
    rfl
  | move count =>
    simp only [perform, move_withMarks]
    rfl
  | select entry =>
    simp only [perform, select_withMarks]
    rfl
  | goBack key =>
    simp only [perform, goBack_withMarks]
    rfl
  | setDragging state =>
    simp only [perform, setDragging_withMarks]
    rfl
  | _ => rfl

/-- The marked set is handled by its own operations only. -/
theorem perform_marks (sources : Sources) {op : ListingOp} (h : op.readsMarks = false)
    (l : Listing) : (perform sources op l).listing.marks = l.marks :=
  -- with its own marked set put back in, the listing is itself
  congrArg (fun reply : Reply => reply.listing.marks) (perform_withMarks sources h l l.marks)

/-- What reads the marked set without marking answers and does nothing else. -/
theorem perform_of_readsMarks (sources : Sources) {op : ListingOp} (h : op.readsMarks = true)
    (hop : (ViewAction.list op).isMarking = false) (l : Listing) :
    ∃ answer, perform sources op l = l.answering answer := by
  cases op with
  | marks op =>
    cases op with
    | contains | members => exact ⟨_, rfl⟩
    | _ => cases hop
  | isSelectable => exact ⟨_, rfl⟩
  | _ => cases h

end Listing

/-! ## Actions with any marked set -/

namespace ListView

/-- An action other than marking does the same with any marked set, apart from answers about
marks. -/
theorem apartFromMarks_withMarks (sources : Sources) {action : ViewAction}
    (h : action.isMarking = false) (v : ListView) (marks : Marks) :
    LogEntry.apartFromMarks ⟨action, perform sources action (v.withMarks marks)⟩
      = LogEntry.apartFromMarks ⟨action, perform sources action v⟩ := by
  cases action with
  | list op =>
    have hlisting : (v.withMarks marks).listing = v.listing.withMarks marks := rfl
    cases hreads : op.readsMarks with
    | true =>
      obtain ⟨answer, hanswer⟩ := Listing.perform_of_readsMarks sources hreads h v.listing
      obtain ⟨answer', hanswer'⟩ :=
        Listing.perform_of_readsMarks sources hreads h (v.listing.withMarks marks)
      simp only [LogEntry.apartFromMarks, ViewAction.readsMarks, hreads, if_true, perform,
        hlisting, hanswer, hanswer']
      rfl
    | false =>
      simp only [LogEntry.apartFromMarks, perform, hlisting,
        Listing.perform_withMarks sources hreads v.listing marks]
      rfl
  | loadOptions text =>
    have hlook : (v.withMarks marks).look = v.look := rfl
    simp only [perform, hlook]
    cases v.look.loadOptions? text <;> rfl
  | loadIcon slot file =>
    simp only [perform]
    cases sources.image file <;> rfl
  | describe style selected =>
    have hcurrent : (v.withMarks marks).listing.current? = v.listing.current? := rfl
    simp only [LogEntry.apartFromMarks, ViewAction.readsMarks, if_true, perform, describe, answering,
      afterRow, hcurrent]
    cases v.listing.current? <;> rfl
  | paint style canvas offset selected =>
    have hcurrent : (v.withMarks marks).listing.current? = v.listing.current? := rfl
    simp only [LogEntry.apartFromMarks, ViewAction.readsMarks, if_true, perform, paint, answering,
      afterRow, hcurrent]
    cases v.listing.current? <;> rfl
  | _ => rfl

/-- An action other than marking leaves the marked set alone. -/
theorem perform_marks (sources : Sources) {action : ViewAction} (h : action.isMarking = false)
    (v : ListView) : (perform sources action v).view.listing.marks = v.listing.marks := by
  cases hop : action.listOp? with
  | none => rw [perform_listing_of_listOp?_eq_none hop]
  | some op =>
    cases action with
    | list op =>
      cases hreads : op.readsMarks with
      | true =>
        obtain ⟨answer, hanswer⟩ := Listing.perform_of_readsMarks sources hreads h v.listing
        simp only [perform, hanswer, Listing.answering]
      | false => exact Listing.perform_marks sources hreads v.listing
    | _ => cases hop

/-- Marking says nothing to the view and asks for nothing, and it leaves all but the marked set. -/
theorem perform_of_isMarking (sources : Sources) {action : ViewAction}
    (h : action.isMarking = true) (v : ListView) :
    (perform sources action v).view.withMarks Marks.empty = v.withMarks Marks.empty ∧
      (perform sources action v).notices = [] ∧ (perform sources action v).moves = [] := by
  cases action with
  | list op =>
    cases op with
    | marks op => exact ⟨rfl, rfl, rfl⟩
    | _ => cases h
  | _ => cases h

/-- What marking does to the marked set and answers depends on the marked set alone. -/
theorem ofMarks_congr (sources : Sources) {action : ViewAction} (h : action.isMarking = true)
    {v w : ListView} (hmarks : v.listing.marks = w.listing.marks) :
    LogEntry.ofMarks ⟨action, perform sources action v⟩
      = LogEntry.ofMarks ⟨action, perform sources action w⟩ := by
  cases action with
  | list op =>
    cases op with
    | marks op => simp only [LogEntry.ofMarks, perform, Listing.perform, hmarks]
    | _ => cases h
  | _ => cases h

end ListView

/-! ## Two runs -/

/-- The entries of a log that are marking, or those that are not. -/
def LogEntry.family (marking : Bool) (entries : List LogEntry) : List LogEntry :=
  entries.filter fun entry => entry.action.isMarking == marking

namespace ListView

/-- The steps of a run that are marking, or those that are not. -/
def family (marking : Bool) (actions : List (Sources × ViewAction)) :
    List (Sources × ViewAction) :=
  actions.filter fun step => step.2.isMarking == marking

/-- The notices of a run, in order. -/
def notices (actions : List (Sources × ViewAction)) (v : ListView) : List Notice :=
  (replies actions v).flatMap ViewReply.notices

/-- The moves that a run asks for, in order. -/
def moves (actions : List (Sources × ViewAction)) (v : ListView) : List Move :=
  (replies actions v).flatMap ViewReply.moves

variable {sources : Sources} {action : ViewAction} {actions : List (Sources × ViewAction)}
  {v w : ListView} {marking : Bool}

theorem log_cons (sources : Sources) (action : ViewAction) (actions : List (Sources × ViewAction))
    (v : ListView) :
    log ((sources, action) :: actions) v
      = ⟨action, perform sources action v⟩ :: log actions (perform sources action v).view := rfl

theorem family_cons_of_eq (h : action.isMarking = marking) :
    family marking ((sources, action) :: actions) = (sources, action) :: family marking actions :=
  List.filter_cons_of_pos (by simpa using h)

theorem family_cons_of_ne (h : action.isMarking ≠ marking) :
    family marking ((sources, action) :: actions) = family marking actions :=
  List.filter_cons_of_neg (by simpa using h)

theorem family_log_cons_of_eq (h : action.isMarking = marking) :
    LogEntry.family marking (log ((sources, action) :: actions) v)
      = ⟨action, perform sources action v⟩
        :: LogEntry.family marking (log actions (perform sources action v).view) :=
  List.filter_cons_of_pos (by simpa using h)

theorem family_log_cons_of_ne (h : action.isMarking ≠ marking) :
    LogEntry.family marking (log ((sources, action) :: actions) v)
      = LogEntry.family marking (log actions (perform sources action v).view) :=
  List.filter_cons_of_neg (by simpa using h)

/-- Two views are alike when they differ in their marked sets at most. -/
def Alike (v w : ListView) : Prop := v.withMarks Marks.empty = w.withMarks Marks.empty

/-- An action other than marking does the same to views that are alike, answers about marks
apart. -/
theorem apartFromMarks_congr (sources : Sources) (h : action.isMarking = false) (halike : Alike v w) :
    LogEntry.apartFromMarks ⟨action, perform sources action v⟩
      = LogEntry.apartFromMarks ⟨action, perform sources action w⟩ :=
  calc LogEntry.apartFromMarks ⟨action, perform sources action v⟩
    _ = LogEntry.apartFromMarks ⟨action, perform sources action (v.withMarks Marks.empty)⟩ :=
        (apartFromMarks_withMarks sources h v Marks.empty).symm
    _ = LogEntry.apartFromMarks ⟨action, perform sources action (w.withMarks Marks.empty)⟩ := by
        rw [halike]
    _ = LogEntry.apartFromMarks ⟨action, perform sources action w⟩ :=
        apartFromMarks_withMarks sources h w Marks.empty

/-- Views that are alike come through a run alike when one of them is spared the marking. -/
theorem run_family_false (actions : List (Sources × ViewAction)) (halike : Alike v w) :
    Alike (run actions v) (run (family false actions) w) ∧
      (LogEntry.family false (log actions v)).map LogEntry.apartFromMarks
        = (log (family false actions) w).map LogEntry.apartFromMarks ∧
      notices actions v = notices (family false actions) w ∧
      moves actions v = moves (family false actions) w := by
  induction actions generalizing v w with
  | nil => exact ⟨halike, rfl, rfl, rfl⟩
  | cons step actions ih =>
    obtain ⟨sources, action⟩ := step
    cases h : action.isMarking with
    | true =>
      -- the other view waits while this one is marking, which is neither seen nor heard
      have hne : action.isMarking ≠ false := by simp [h]
      obtain ⟨hview, hnotices, hmoves⟩ := perform_of_isMarking sources h v
      have hrest := ih (Eq.trans hview halike : Alike (perform sources action v).view w)
      rw [family_cons_of_ne hne, family_log_cons_of_ne hne]
      simpa [notices, moves, replies, hnotices, hmoves, run_cons] using hrest
    | false =>
      have hreply := apartFromMarks_congr sources h halike
      have hview : Alike (perform sources action v).view (perform sources action w).view :=
        congrArg Prod.fst hreply
      have hnotices : (perform sources action v).notices = (perform sources action w).notices :=
        congrArg (fun side => side.2.2.1) hreply
      have hmoves : (perform sources action v).moves = (perform sources action w).moves :=
        congrArg (fun side => side.2.2.2) hreply
      have hrest := ih hview
      rw [family_cons_of_eq h, family_log_cons_of_eq h]
      simpa [notices, moves, replies, log_cons, hnotices, hmoves, hreply, run_cons] using hrest

/-- Views with the same marked set come through a run with the same marked set when one of them
is spared all but the marking. -/
theorem run_family_true (actions : List (Sources × ViewAction))
    (hmarks : v.listing.marks = w.listing.marks) :
    (run actions v).listing.marks = (run (family true actions) w).listing.marks ∧
      (LogEntry.family true (log actions v)).map LogEntry.ofMarks
        = (log (family true actions) w).map LogEntry.ofMarks := by
  induction actions generalizing v w with
  | nil => exact ⟨hmarks, rfl⟩
  | cons step actions ih =>
    obtain ⟨sources, action⟩ := step
    cases h : action.isMarking with
    | true =>
      have hreply := ofMarks_congr sources h hmarks
      have hrest := ih (congrArg Prod.fst hreply)
      rw [family_cons_of_eq h, family_log_cons_of_eq h]
      simpa [log_cons, hreply, run_cons] using hrest
    | false =>
      -- the other view waits while this one leaves its marked set alone
      have hne : action.isMarking ≠ true := by simp [h]
      have hrest := ih ((perform_marks sources h v).trans hmarks)
      rw [family_cons_of_ne hne, family_log_cons_of_ne hne]
      exact hrest

/-- Marking and all other actions do not interfere. With the marking left out, a run leaves the
same view apart from its marked set, gives the same notices and asks for the same moves, and every
other action leaves, answers and reports the same, answers about marks apart. With all but the
marking left out, it leaves the same marked set, and the marking leaves and answers the same. -/
theorem marks_and_list_apart (actions : List (Sources × ViewAction)) (v : ListView) :
    ((run actions v).withMarks Marks.empty
          = (run (family false actions) v).withMarks Marks.empty ∧
        notices actions v = notices (family false actions) v ∧
        moves actions v = moves (family false actions) v ∧
        (LogEntry.family false (log actions v)).map LogEntry.apartFromMarks
          = (log (family false actions) v).map LogEntry.apartFromMarks) ∧
      (run actions v).listing.marks = (run (family true actions) v).listing.marks ∧
      (LogEntry.family true (log actions v)).map LogEntry.ofMarks
        = (log (family true actions) v).map LogEntry.ofMarks := by
  obtain ⟨hview, hlog, hnotices, hmoves⟩ := run_family_false actions (rfl : Alike v v)
  exact ⟨⟨hview, hnotices, hmoves, hlog⟩, run_family_true actions rfl⟩

end ListView

end Bouquet
