import Bouquet.Proofs.Bookmarks
import Bouquet.Proofs.Strides
import Bouquet.Proofs.Runs

/-!
# Only Identity Counts

A listing tells entries apart by their identity. Names and channel numbers are kept and handed out,
but apart from sorting and from the search by a first letter nothing depends on them: forgetting
them before an operation comes to the same as forgetting them afterwards. So two runs that differ in
names and numbers only stay alike in everything else.

## Main definitions

- `Reference.bare`, `Listing.bare`, `Reply.bare`: without names and numbers
- `Sources.AnswersAlike`: sources whose answers differ in names and numbers only
- `ListingOp.ReadsNames`: the operations that look at names

## Main statements

- `Reference.bare_eq_bare_iff`: what is left without name and number is the identity
- `Listing.perform_bare`: one operation with names and numbers forgotten
- `Listing.only_identity_counts`: two runs
-/

namespace Bouquet

/-! ## Forgetting names and numbers -/

/-- A reference that keeps its identity only. -/
def Reference.bare (r : Reference) : Reference := { r with name := "", number := none }

/-- Being the same entry is being equal but for name and number. -/
theorem Reference.bare_eq_bare_iff (r s : Reference) : r.bare = s.bare ↔ r.same s = true := by
  simp [bare, same]

def bareAll (entries : List Reference) : List Reference := entries.map Reference.bare

def Bookmark.bare (b : Bookmark) : Bookmark := { b with entry := b.entry.map Reference.bare }

def Bookmarks.bare (b : Bookmarks) : Bookmarks :=
  { single := b.single.map Bookmark.bare
    lines := b.lines.map fun kept => (kept.1, kept.2.bare) }

def Marks.bare (m : Marks) : Marks :=
  { members := bareAll m.members, pass := m.pass.map bareAll }

def Move.bare (m : Move) : Move := { m with root := m.root.bare, entry := m.entry.bare }

/-- A listing in which all references keep their identities only. -/
def Listing.bare (l : Listing) : Listing :=
  { l with
    root := l.root.bare
    entries := bareAll l.entries
    bookmarks := l.bookmarks.bare
    marks := l.marks.bare }

def MarksOp.bare : MarksOp → MarksOp
  | .insert r => .insert r.bare
  | .erase r => .erase r.bare
  | .contains r => .contains r.bare
  | op => op

/-- An operation with references that keep their identities only. -/
def ListingOp.bare : ListingOp → ListingOp
  | .load r rootOnly => .load r.bare rootOnly
  | .add r before => .add r.bare before
  | .append r => .append r.bare
  | .select r => .select r.bare
  | .marks op => .marks op.bare
  | .lookup r => .lookup r.bare
  | .isRecorded r filter => .isRecorded r.bare filter
  | op => op

def MarksAnswer.bare : MarksAnswer → MarksAnswer
  | .member r => .member (r.map Reference.bare)
  | .members rs => .members (bareAll rs)
  | answer => answer

def Answer.bare : Answer → Answer
  | .entry value => .entry (value.map Reference.bare)
  | .entries value => .entries (bareAll value)
  | answer => answer

/-- A reply in which all references keep their identities only. -/
def Reply.bare (r : Reply) : Reply :=
  { r with
    listing := r.listing.bare
    answer := r.answer.bare
    moves := r.moves.map Move.bare }

/-- Sources that answer what a listing asks for with bare references, and nothing else. -/
def Sources.bare (s : Sources) : Sources :=
  { Sources.silent with
    children := fun r => (s.children r).map bareAll
    recordings := fun filter => bareAll (s.recordings filter) }

/-- The operations that look at names. -/
def ListingOp.ReadsNames : ListingOp → Prop
  | .sort => True
  | .nextBeginningWith _ => True
  | _ => False

/-! ## Lists of entries -/

@[simp]
theorem Reference.same_bare (r s : Reference) : r.bare.same s.bare = r.same s := rfl

@[simp]
theorem Reference.isVisible_bare (r : Reference) : r.bare.isVisible = r.isVisible := rfl

@[simp]
theorem length_bareAll (entries : List Reference) : (bareAll entries).length = entries.length :=
  List.length_map ..

@[simp]
theorem getElem?_bareAll (entries : List Reference) (ordinal : Nat) :
    (bareAll entries)[ordinal]? = (entries[ordinal]?).map Reference.bare :=
  List.getElem?_map ..

theorem insertIdx_bareAll (entries : List Reference) (ordinal : Nat) (r : Reference) :
    (bareAll entries).insertIdx ordinal r.bare = bareAll (entries.insertIdx ordinal r) :=
  (List.map_insertIdx ..).symm

theorem eraseIdx_bareAll (entries : List Reference) (ordinal : Nat) :
    (bareAll entries).eraseIdx ordinal = bareAll (entries.eraseIdx ordinal) :=
  List.eraseIdx_map ..

theorem append_bareAll (front back : List Reference) :
    bareAll front ++ bareAll back = bareAll (front ++ back) :=
  (List.map_append ..).symm

theorem any_bareAll (entries : List Reference) (r : Reference) :
    (bareAll entries).any r.bare.same = entries.any r.same := by
  simp [bareAll, Function.comp_def]

theorem findIdx?_bareAll (entries : List Reference) (r : Reference) :
    (bareAll entries).findIdx? r.bare.same = entries.findIdx? r.same := by
  simp [bareAll, List.findIdx?_map, Function.comp_def]

@[simp]
theorem rowOf_bareAll (entries : List Reference) (ordinal : Nat) :
    rowOf (bareAll entries) ordinal = rowOf entries ordinal := by
  simp [rowOf, bareAll, ← List.map_take, List.countP_map, Function.comp_def]

@[simp]
theorem firstVisibleFrom_bareAll (entries : List Reference) (start : Nat) :
    firstVisibleFrom (bareAll entries) start = firstVisibleFrom entries start := by
  induction entries generalizing start with
  | nil => rfl
  | cons e rest ih =>
    rw [bareAll, List.map_cons, ← bareAll]
    cases start with
    | zero => simp only [firstVisibleFrom, ih, Reference.isVisible_bare]
    | succ start => simp only [firstVisibleFrom, ih]

@[simp]
theorem nextVisible?_bareAll (entries : List Reference) (ordinal : Nat) :
    nextVisible? (bareAll entries) ordinal = nextVisible? entries ordinal := by
  simp [nextVisible?]

@[simp]
theorem lastVisibleBefore?_bareAll (entries : List Reference) (ordinal : Nat) :
    lastVisibleBefore? (bareAll entries) ordinal = lastVisibleBefore? entries ordinal := by
  induction entries generalizing ordinal with
  | nil => rfl
  | cons e rest ih =>
    rw [bareAll, List.map_cons, ← bareAll]
    cases ordinal with
    | zero => rfl
    | succ ordinal =>
      simp only [lastVisibleBefore?, ih, Reference.isVisible_bare]
      rfl

theorem swapped_bareAll (entries : List Reference) (i j : Nat) :
    swapped (bareAll entries) i j = bareAll (swapped entries i j) := by
  simp only [swapped, getElem?_bareAll]
  cases entries[i]? <;> cases entries[j]? <;> simp [bareAll, List.map_set]

/-! ## Bookmarks and marks -/

theorem Bookmark.resolve_bare (b : Bookmark) (entries : List Reference) :
    b.bare.resolve (bareAll entries) = b.resolve entries := by
  cases hentry : b.entry with
  | none => simp [resolve, bare, hentry]
  | some e =>
    simp [resolve, bare, hentry, findIdx?_bareAll, Option.any_map]

theorem Bookmarks.get?_bare (b : Bookmarks) (key : BookmarkKey) :
    b.bare.get? key = (b.get? key).map Bookmark.bare := by
  cases key with
  | single => rfl
  | line number => simp [get?, bare, List.find?_map, Function.comp_def]

theorem Bookmarks.put_bare (b : Bookmarks) (mark : Bookmark) (key : BookmarkKey) :
    b.bare.put mark.bare key = (b.put mark key).bare := by
  cases key with
  | single => rfl
  | line number => simp [put, bare, List.filter_map, Function.comp_def]

theorem Bookmarks.use_bare (b : Bookmarks) (key : BookmarkKey) :
    b.bare.use key = (b.use key).bare := by
  cases key <;> rfl

theorem Marks.insertSorted_bare (r : Reference) (members : List Reference) :
    insertSorted r.bare (bareAll members) = bareAll (insertSorted r members) := by
  induction members with
  | nil => rfl
  | cons m rest ih =>
    rw [bareAll, List.map_cons, ← bareAll]
    have hcmp : r.bare.cmp m.bare = r.cmp m := rfl
    simp only [insertSorted, hcmp]
    cases r.cmp m with
    | lt => rfl
    | eq => rfl
    | gt => exact congrArg (m.bare :: ·) ih

theorem Marks.contains_bare (m : Marks) (r : Reference) :
    m.bare.contains r.bare = m.contains r :=
  any_bareAll m.members r

theorem Marks.step_bare (m : Marks) (op : MarksOp) :
    m.bare.step op.bare = ((m.step op).1.bare, (m.step op).2.bare) := by
  cases op with
  | clear => rfl
  | insert r =>
    simp only [MarksOp.bare, step, insert, contains_bare]
    -- a member with the same identity stays, under the name that it has
    split
    · rfl
    · simp [bare, insertSorted_bare, MarksAnswer.bare]
  | erase r =>
    simp only [MarksOp.bare, step, erase, contains_bare]
    split
    · simp [bare, MarksAnswer.bare, bareAll, List.filter_map, Function.comp_def]
    · rfl
  | contains r => simp [MarksOp.bare, step, contains_bare, MarksAnswer.bare]
  | startPass => rfl
  | next =>
    cases hpass : m.pass with
    | none => simp [MarksOp.bare, step, next, bare, hpass, MarksAnswer.bare]
    | some rest =>
      cases rest with
      | nil => simp [MarksOp.bare, step, next, bare, hpass, MarksAnswer.bare, bareAll]
      | cons r rest => simp [MarksOp.bare, step, next, bare, hpass, MarksAnswer.bare, bareAll]
  | members => rfl

namespace Listing

/-! ## Places and steps -/

@[simp]
theorem size_bare (l : Listing) : l.bare.size = l.size := length_bareAll l.entries

@[simp]
theorem isOnEntry_bare (l : Listing) : l.bare.isOnEntry = l.isOnEntry := by
  rw [isOnEntry, isOnEntry, size_bare]
  rfl

@[simp]
theorem current?_bare (l : Listing) : l.bare.current? = l.current?.map Reference.bare :=
  getElem?_bareAll l.entries l.cursor

@[simp]
theorem cursorRow_bare (l : Listing) : l.bare.cursorRow = l.cursorRow :=
  rowOf_bareAll l.entries l.cursor

@[simp]
theorem lookup?_bare (l : Listing) (r : Reference) : l.bare.lookup? r.bare = l.lookup? r :=
  findIdx?_bareAll l.entries r

/-- What an operation leaves with names and numbers forgotten, together with what else it answers,
which has none. -/
def bareWith {α : Type} (result : Listing × α) : Listing × α := (result.1.bare, result.2)

theorem set_bare (l : Listing) (ordinal : Nat) : l.bare.set ordinal = (l.set ordinal).bare := by
  simp [set, bare]

theorem home_bare (l : Listing) : l.bare.home = l.home.bare := set_bare l 0

theorem toEnd_bare (l : Listing) : l.bare.toEnd = l.toEnd.bare := by
  rw [toEnd, size_bare]
  rfl

theorem select_bare (l : Listing) (r : Reference) :
    l.bare.select r.bare = bareWith (l.select r) := by
  simp only [select, lookup?_bare]
  cases l.lookup? r with
  | none => rfl
  | some ordinal => simp only [set_bare, bareWith]

theorem travel_bare (l : Listing) (target : Nat) :
    l.bare.travel target = bareWith (l.travel target) := by
  simp only [travel, isOnEntry_bare]
  -- only a drag touches entries, and it swaps them without looking at them
  by_cases hdrag : (l.dragging && l.isOnEntry) = true
  · have hbare : (l.bare.dragging && l.isOnEntry) = true := hdrag
    rw [if_pos hdrag, if_pos hbare]
    simp [bareWith, bare, swapped_bareAll]
  · have hbare : ¬ (l.bare.dragging && l.isOnEntry) = true := hdrag
    rw [if_neg hdrag, if_neg hbare]
    rfl

theorem stepForward_bare (l : Listing) :
    l.bare.stepForward = l.stepForward.map bareWith := by
  have hnext : nextVisible? l.bare.entries l.bare.cursor = nextVisible? l.entries l.cursor :=
    nextVisible?_bareAll l.entries l.cursor
  have hdragging : l.bare.dragging = l.dragging := rfl
  simp only [stepForward, isOnEntry_bare, hnext, hdragging, travel_bare, size_bare]
  split
  · split
    · rfl
    · split <;> rfl
  · rfl

theorem stepBackward_bare (l : Listing) :
    l.bare.stepBackward = l.stepBackward.map bareWith := by
  have hlast : lastVisibleBefore? l.bare.entries l.bare.cursor
      = lastVisibleBefore? l.entries l.cursor := lastVisibleBefore?_bareAll l.entries l.cursor
  rw [stepBackward, stepBackward, hlast, Option.map_map]
  congr 1
  funext target
  exact travel_bare l target

theorem steps_bare {step : Listing → Option (Listing × List Notice)}
    (hstep : ∀ l : Listing, step l.bare = (step l).map bareWith) (count : Nat) (l : Listing) :
    steps step count l.bare = bareWith (steps step count l) := by
  induction count generalizing l with
  | zero => rfl
  | succ count ih =>
    -- both listings come to a stop at the same step
    cases h : step l with
    | none =>
      have hbare : step l.bare = none := by rw [hstep, h, Option.map_none]
      rw [steps_succ_of_none h, steps_succ_of_none hbare]
      rfl
    | some result =>
      obtain ⟨l', notices⟩ := result
      have hbare : step l.bare = some (l'.bare, notices) := by
        rw [hstep, h, Option.map_some]
        rfl
      rw [steps_succ_of_some h, steps_succ_of_some hbare, ih]
      rfl

theorem move_bare (l : Listing) (count : Int) :
    l.bare.move count = bareWith (l.move count) := by
  have hstep : ∀ l : Listing, stepToward count l.bare = (stepToward count l).map bareWith := by
    intro l
    by_cases h : 0 ≤ count
    · simp only [stepToward, if_pos h, stepForward_bare]
    · simp only [stepToward, if_neg h, stepBackward_bare]
  rw [move_eq_steps, move_eq_steps, steps_bare hstep]
  rfl

theorem keep_bare (l : Listing) (key : BookmarkKey) : l.bare.keep key = (l.keep key).bare := by
  have hmark : l.bare.bookmark = l.bookmark.bare := by
    rw [bookmark, current?_bare]
    rfl
  rw [keep, hmark]
  exact congrArg (fun b : Bookmarks => { l.bare with bookmarks := b }) (Bookmarks.put_bare ..)

theorem goBack_bare (l : Listing) (key : BookmarkKey) :
    l.bare.goBack key = bareWith (l.goBack key) := by
  have hget : l.bare.bookmarks.get? key = (l.bookmarks.get? key).map Bookmark.bare :=
    Bookmarks.get?_bare l.bookmarks key
  cases hmark : l.bookmarks.get? key with
  | none => simp only [goBack, hget, hmark, Option.map_none, bareWith]
  | some mark =>
    -- the bookmark finds its entry by identity, else it falls back on its ordinal
    have hresolve : mark.bare.resolve l.bare.entries = mark.resolve l.entries :=
      Bookmark.resolve_bare mark l.entries
    have huse : l.bare.bookmarks.use key = (l.bookmarks.use key).bare :=
      Bookmarks.use_bare l.bookmarks key
    simp only [goBack, hget, hmark, Option.map_some, hresolve, huse, bareWith]
    rfl

theorem setDragging_bare (l : Listing) (state : Bool) :
    l.bare.setDragging state
      = ((l.setDragging state).1.bare, (l.setDragging state).2.1, (l.setDragging state).2.2.1,
        (l.setDragging state).2.2.2.map Move.bare) := by
  have hdragging : l.bare.dragging = l.dragging := rfl
  simp only [setDragging, current?_bare, cursorRow_bare, hdragging]
  -- without a current entry nothing happens, with one a drag may end and ask for a move
  cases l.current? with
  | none => rfl
  | some e =>
    by_cases hends : (l.dragging && !state) = true
    · simp only [Option.map_some, if_pos hends]
      rfl
    · simp only [Option.map_some, if_neg hends]
      rfl

/-! ## Edits and searches -/

theorem add_bare (l : Listing) (r : Reference) (before : Bool) :
    l.bare.add r.bare before = bareWith (l.add r before) := by
  have hpoint : l.bare.insertionPoint before = l.insertionPoint before := by
    simp only [insertionPoint, isOnEntry_bare, size_bare]
    rfl
  have hempty : l.bare.entries.isEmpty = l.entries.isEmpty := List.isEmpty_map
  have hentries : l.bare.entries.insertIdx (l.insertionPoint before) r.bare
      = bareAll (l.entries.insertIdx (l.insertionPoint before) r) := insertIdx_bareAll ..
  simp only [add, hpoint, hempty, hentries, rowOf_bareAll]
  rfl

theorem append_bare (l : Listing) (r : Reference) :
    l.bare.append r.bare = bareWith (l.append r) := by
  have hentries : l.bare.entries ++ [r.bare] = bareAll (l.entries ++ [r]) :=
    append_bareAll l.entries [r]
  simp only [append, isOnEntry_bare, size_bare, hentries, rowOf_bareAll, length_bareAll]
  rfl

theorem removeCurrent_bare (l : Listing) :
    l.bare.removeCurrent = bareWith l.removeCurrent := by
  have hentries : l.bare.entries.eraseIdx l.bare.cursor = bareAll (l.entries.eraseIdx l.cursor) :=
    eraseIdx_bareAll ..
  simp only [removeCurrent, isOnEntry_bare, hentries, firstVisibleFrom_bareAll, cursorRow_bare]
  split <;> rfl

theorem findAmong?_bare (l : Listing) {test : Reference → Bool}
    (htest : ∀ r : Reference, test r.bare = test r) (ordinals : List Nat) :
    l.bare.findAmong? test ordinals = l.findAmong? test ordinals := by
  have hentries : ∀ ordinal : Nat,
      (l.bare.entries[ordinal]?).any test = (l.entries[ordinal]?).any test := by
    intro ordinal
    rw [bare, getElem?_bareAll, Option.any_map]
    congr 1
    funext r
    exact htest r
  simp only [findAmong?, hentries]

theorem forwardOrdinals_bare (l : Listing) : l.bare.forwardOrdinals = l.forwardOrdinals := by
  simp only [forwardOrdinals, isOnEntry_bare, size_bare]
  rfl

theorem backwardOrdinals_bare (l : Listing) : l.bare.backwardOrdinals = l.backwardOrdinals := by
  simp only [backwardOrdinals, size_bare]
  rfl

theorem nextMarker?_bare (l : Listing) : l.bare.nextMarker? = l.nextMarker? := by
  rw [nextMarker?, forwardOrdinals_bare, findAmong?_bare l fun _ => rfl]
  rfl

theorem previousMarker?_bare (l : Listing) : l.bare.previousMarker? = l.previousMarker? := by
  rw [previousMarker?, backwardOrdinals_bare, findAmong?_bare l fun _ => rfl]
  rfl

theorem isSelectable_bare (l : Listing) : l.bare.isSelectable = l.isSelectable := by
  have hempty : l.bare.marks.isEmpty = l.marks.isEmpty := List.isEmpty_map
  simp only [isSelectable, current?_bare, hempty]
  cases l.current? <;> rfl

theorem previous?_bare (l : Listing) : l.bare.previous? = l.previous?.map Reference.bare := by
  simp only [previous?, bare, lastVisibleBefore?_bareAll, getElem?_bareAll]
  cases lastVisibleBefore? l.entries l.cursor <;> rfl

theorem next?_bare (l : Listing) : l.bare.next? = l.next?.map Reference.bare := by
  simp only [next?, isOnEntry_bare]
  split
  · simp only [bare, nextVisible?_bareAll, getElem?_bareAll]
    cases nextVisible? l.entries l.cursor <;> rfl
  · rfl

end Listing

/-! ## Sources -/

namespace Sources

/-- Sources whose lists of children and recordings differ in names and numbers only, when they are
asked about the same entry. -/
structure AnswersAlike (s s' : Sources) : Prop where
  children : ∀ r r' : Reference, r.same r' = true →
    (s.children r).map bareAll = (s'.children r').map bareAll
  recordings : ∀ filter, bareAll (s.recordings filter) = bareAll (s'.recordings filter)

/-- Sources that have an alike are alike themselves: they answer for an entry and not for its
name. -/
theorem AnswersAlike.left {s s' : Sources} (h : AnswersAlike s s') : AnswersAlike s s where
  children r r' hsame := (h.children r r (Reference.same_self r)).trans
    ((h.children r' r (by rwa [Reference.same_comm])).symm)
  recordings _ := rfl

theorem AnswersAlike.right {s s' : Sources} (h : AnswersAlike s s') : AnswersAlike s' s' where
  children r r' hsame := (h.children r r (Reference.same_self r)).symm.trans
    (h.children r r' hsame)
  recordings _ := rfl

theorem AnswersAlike.bare_eq {s s' : Sources} (h : AnswersAlike s s') : s.bare = s'.bare := by
  have hchildren : (fun r => (s.children r).map bareAll) = fun r => (s'.children r).map bareAll :=
    funext fun r => h.children r r (Reference.same_self r)
  have hrecordings : (fun filter => bareAll (s.recordings filter))
      = fun filter => bareAll (s'.recordings filter) := funext h.recordings
  simp only [bare, hchildren, hrecordings]

theorem AnswersAlike.children_bare {s : Sources} (h : AnswersAlike s s) (r : Reference) :
    s.bare.children r.bare = (s.children r).map bareAll :=
  -- the bare entry is the same entry, by definition
  h.children r.bare r (Reference.same_self r)

theorem AnswersAlike.isRecorded_bare {s : Sources} (h : AnswersAlike s s) (r : Reference)
    (filter : RecordType) : s.bare.isRecorded r.bare filter = s.isRecorded r filter := by
  have hgroup : r.bare.isGroup = r.isGroup := rfl
  have hrecorded : ∀ member : Reference,
      (s.bare.recordings filter).any member.bare.same = (s.recordings filter).any member.same :=
    any_bareAll (s.recordings filter)
  simp only [isRecorded, hgroup, h.children_bare, hrecorded]
  cases s.children r with
  | none => rfl
  | some members => simp [bareAll, Function.comp_def, hrecorded]

end Sources

namespace Listing

theorem load_bare {sources : Sources} (h : sources.AnswersAlike sources) (l : Listing)
    (r : Reference) (rootOnly : Bool) :
    l.bare.load sources.bare r.bare rootOnly = bareWith (l.load sources r rootOnly) := by
  cases rootOnly with
  | true => rfl
  | false =>
    have hentries : (sources.bare.children r.bare).getD []
        = bareAll ((sources.children r).getD []) := by
      rw [h.children_bare]
      cases sources.children r <;> rfl
    simp only [load, hentries]
    simp [bareWith, bare, home]
    rfl

/-! ## Operations and runs -/

/-- **One operation** that does not look at names comes to the same whether names and numbers are
forgotten before it or afterwards. -/
theorem perform_bare {sources : Sources} (h : sources.AnswersAlike sources) {op : ListingOp}
    (hop : ¬ op.ReadsNames) (l : Listing) :
    (perform sources op l).bare = perform sources.bare op.bare l.bare := by
  -- one case an operation; only `load` and `isRecorded` ask the sources anything
  cases op with
  | load r rootOnly =>
    simp only [ListingOp.bare, perform, load_bare h]
    rfl
  | add r before =>
    simp only [ListingOp.bare, perform, add_bare]
    rfl
  | append r =>
    simp only [ListingOp.bare, perform, append_bare]
    rfl
  | finishFill =>
    simp only [ListingOp.bare, perform, finishFill, home_bare]
    rfl
  | removeCurrent =>
    simp only [ListingOp.bare, perform, removeCurrent_bare]
    rfl
  | sort => exact absurd trivial hop
  | home =>
    simp only [ListingOp.bare, perform, home_bare]
    rfl
  | toEnd =>
    simp only [ListingOp.bare, perform, toEnd_bare]
    rfl
  | move count =>
    simp only [ListingOp.bare, perform, move_bare]
    rfl
  | set ordinal =>
    simp only [ListingOp.bare, perform, set_bare]
    rfl
  | select r =>
    simp only [ListingOp.bare, perform, select_bare]
    rfl
  | keep key =>
    simp only [ListingOp.bare, perform, keep_bare]
    rfl
  | goBack key =>
    simp only [ListingOp.bare, perform, goBack_bare]
    rfl
  | setDragging state =>
    simp only [ListingOp.bare, perform, setDragging_bare]
    rfl
  | marks op =>
    have hstep : l.bare.marks.step op.bare = ((l.marks.step op).1.bare, (l.marks.step op).2.bare) :=
      Marks.step_bare l.marks op
    simp only [ListingOp.bare, perform, hstep]
    cases (l.marks.step op).2 <;> rfl
  | root => rfl
  | size =>
    simp only [ListingOp.bare, perform, size_bare]
    rfl
  | entries => rfl
  | row ordinal =>
    have hrow : rowOf l.bare.entries ordinal = rowOf l.entries ordinal := rowOf_bareAll ..
    simp only [ListingOp.bare, perform, hrow]
    rfl
  | isOnEntry =>
    simp only [ListingOp.bare, perform, isOnEntry_bare]
    rfl
  | isSelectable =>
    simp only [ListingOp.bare, perform, isSelectable_bare]
    rfl
  | current =>
    simp only [ListingOp.bare, perform, current?_bare]
    rfl
  | previous =>
    simp only [ListingOp.bare, perform, previous?_bare]
    rfl
  | next =>
    simp only [ListingOp.bare, perform, next?_bare]
    rfl
  | lookup r =>
    simp only [ListingOp.bare, perform, lookup?_bare]
    rfl
  | nextBeginningWith c => exact absurd trivial hop
  | nextMarker =>
    simp only [ListingOp.bare, perform, nextMarker?_bare]
    rfl
  | previousMarker =>
    simp only [ListingOp.bare, perform, previousMarker?_bare]
    rfl
  | isRecorded r filter =>
    simp only [ListingOp.bare, perform, h.isRecorded_bare]
    rfl

/-- Two steps are alike: their operations differ in names and numbers only and do not look at them,
and so do the answers of their sources. -/
structure StepAlike (step step' : Sources × ListingOp) : Prop where
  sources : step.1.AnswersAlike step'.1
  op : step.2.bare = step'.2.bare
  blind : ¬ step.2.ReadsNames

theorem readsNames_bare (op : ListingOp) : op.bare.ReadsNames ↔ op.ReadsNames := by
  cases op <;> rfl

/-- Steps that are alike lead from listings that are alike to replies that are alike. -/
theorem perform_alike {step step' : Sources × ListingOp} (h : StepAlike step step')
    {l l' : Listing} (hl : l.bare = l'.bare) :
    (perform step.1 step.2 l).bare = (perform step'.1 step'.2 l').bare := by
  have hblind : ¬ step'.2.ReadsNames := by
    rw [← readsNames_bare, ← h.op, readsNames_bare]
    exact h.blind
  calc (perform step.1 step.2 l).bare
      = perform step.1.bare step.2.bare l.bare := perform_bare h.sources.left h.blind l
    _ = perform step'.1.bare step'.2.bare l'.bare := by rw [h.sources.bare_eq, h.op, hl]
    _ = (perform step'.1 step'.2 l').bare := (perform_bare h.sources.right hblind l').symm

theorem stepReplies_alike {steps steps' : List (Sources × ListingOp)}
    (h : List.Forall₂ StepAlike steps steps') {l l' : Listing} (hl : l.bare = l'.bare) :
    List.Forall₂ (fun r r' => r.bare = r'.bare) (stepReplies steps l) (stepReplies steps' l') := by
  -- the listings that the replies leave are alike, so the rest of the runs starts from alike ones
  induction h generalizing l l' with
  | nil => exact .nil
  | cons hstep _ ih =>
    have hreply := perform_alike hstep hl
    exact .cons hreply (ih (congrArg Reply.listing hreply))

/-- **Only identity counts**: two runs whose references are the same entries one by one, whatever
they are called and numbered, with sources of which the same holds, go through listings that are
equal but for names and numbers, and every step answers, reports and asks for the same but for names
and numbers. Only sorting and the search by a first letter are left out. -/
theorem only_identity_counts {steps steps' : List (Sources × ListingOp)}
    (h : List.Forall₂ StepAlike steps steps') :
    List.Forall₂ (fun r r' => r.bare = r'.bare) (stepReplies steps empty)
      (stepReplies steps' empty) :=
  stepReplies_alike h rfl

/-- Sources whose answers go by one name. -/
def namedSources (name : String) : Sources :=
  { Sources.silent with
    children := fun _ => some [{ shownEntry with name := name }, hiddenEntry, .marker "other"]
    recordings := fun _ => [{ shownEntry with name := name }] }

/-- A run in which every visible reference goes by one name. -/
def namedRun (name : String) : List (Sources × ListingOp) :=
  let entry : Reference := { shownEntry with name := name }
  [.load (.plain .folder "root" name) false, .marks (.insert entry), .keep .single,
    .setDragging true, .move 1, .setDragging false, .goBack .single, .select entry,
    .isRecorded entry .real].map fun op => (namedSources name, op)

theorem namedSources_alike (name name' : String) :
    (namedSources name).AnswersAlike (namedSources name') :=
  ⟨fun _ _ _ => rfl, fun _ => rfl⟩

/-- Two such runs differ, but in names only. -/
theorem only_identity_counts_namedRun :
    List.Forall₂ StepAlike (namedRun "one") (namedRun "two") ∧
      runSteps (namedRun "one") empty ≠ runSteps (namedRun "two") empty ∧
      List.Forall₂ (fun r r' => r.bare = r'.bare) (stepReplies (namedRun "one") empty)
        (stepReplies (namedRun "two") empty) := by
  have halike : List.Forall₂ StepAlike (namedRun "one") (namedRun "two") := by
    refine .cons ?_ (.cons ?_ (.cons ?_ (.cons ?_ (.cons ?_ (.cons ?_ (.cons ?_ (.cons ?_
      (.cons ?_ .nil))))))))
    all_goals exact ⟨namedSources_alike "one" "two", rfl, id⟩
  refine ⟨halike, fun heq => ?_, only_identity_counts halike⟩
  have hentries := congrArg (fun l => l.entries.map Reference.name) heq
  revert hentries
  decide

end Listing

end Bouquet
