import Bouquet.Listing.Edit
import Bouquet.Listing.Search

/-!
# Operations on listings

Every operation on a listing as data, what each does, and runs of them.

## Main definitions

- `ListingOp`, `Answer`, `Reply`
- `Listing.perform`: one operation
- `Listing.run`, `Listing.replies`: a run and what it answers
-/

namespace Bouquet

/-- An operation on a listing. -/
inductive ListingOp where
  | load (root : Reference) (rootOnly : Bool)
  | add (entry : Reference) (before : Bool)
  | append (entry : Reference)
  | finishFill
  | removeCurrent
  | sort
  | home
  | toEnd
  | move (count : Int)
  | set (ordinal : Nat)
  | select (entry : Reference)
  | keep (key : BookmarkKey)
  | goBack (key : BookmarkKey)
  | setDragging (state : Bool)
  | marks (op : MarksOp)
  | root
  | size
  | entries
  | row (ordinal : Nat)
  | isOnEntry
  | isSelectable
  | current
  | previous
  | next
  | lookup (entry : Reference)
  | nextBeginningWith (c : Char)
  | nextMarker
  | previousMarker
  | isRecorded (entry : Reference) (filter : RecordType)

/-- What an operation answers. -/
inductive Answer where
  | done
  | flag (value : Bool)
  | count (value : Int)
  | ordinal (value : Option Nat)
  | entry (value : Option Reference)
  | entries (value : List Reference)

/-- The answer of the marked set as an answer of the listing. -/
def Answer.ofMarks : MarksAnswer → Answer
  | .done => .done
  | .flag value => .flag value
  | .member r => .entry r
  | .members rs => .entries rs

/-- What an operation leaves, answers, reports and asks for. -/
structure Reply where
  listing : Listing
  answer : Answer
  notices : List Notice
  moves : List Move

namespace Listing

/-- A reply that changes nothing. -/
def answering (l : Listing) (answer : Answer) : Reply := ⟨l, answer, [], []⟩

/-- One operation. -/
def perform (sources : Sources) (op : ListingOp) (l : Listing) : Reply :=
  match op with
  | .load root rootOnly =>
    let (l, notices) := l.load sources root rootOnly
    ⟨l, .done, notices, []⟩
  | .add entry before =>
    let (l, notices) := l.add entry before
    ⟨l, .done, notices, []⟩
  | .append entry =>
    let (l, notices) := l.append entry
    ⟨l, .done, notices, []⟩
  | .finishFill =>
    let (l, notices) := l.finishFill
    ⟨l, .done, notices, []⟩
  | .removeCurrent =>
    let (l, removed, notices) := l.removeCurrent
    ⟨l, .flag removed, notices, []⟩
  | .sort =>
    let (l, notices) := l.sort sources.order
    ⟨l, .done, notices, []⟩
  | .home => ⟨l.home, .done, [], []⟩
  | .toEnd => ⟨l.toEnd, .done, [], []⟩
  | .move count =>
    let (l, taken, notices) := l.move count
    ⟨l, .count taken, notices, []⟩
  | .set ordinal => ⟨l.set ordinal, .done, [], []⟩
  | .select entry =>
    let (l, found) := l.select entry
    ⟨l, .flag found, [], []⟩
  | .keep key => ⟨l.keep key, .done, [], []⟩
  | .goBack key =>
    let (l, found) := l.goBack key
    ⟨l, .flag found, [], []⟩
  | .setDragging state =>
    let (l, done, notices, moves) := l.setDragging state
    ⟨l, .flag done, notices, moves⟩
  | .marks op =>
    let (marks, answer) := l.marks.step op
    ⟨{ l with marks := marks }, Answer.ofMarks answer, [], []⟩
  | .root => l.answering (.entry (some l.root))
  | .size => l.answering (.count l.size)
  | .entries => l.answering (.entries l.entries)
  | .row ordinal => l.answering (.count (rowOf l.entries ordinal))
  | .isOnEntry => l.answering (.flag l.isOnEntry)
  | .isSelectable => l.answering (.flag l.isSelectable)
  | .current => l.answering (.entry l.current?)
  | .previous => l.answering (.entry l.previous?)
  | .next => l.answering (.entry l.next?)
  | .lookup entry => l.answering (.ordinal (l.lookup? entry))
  | .nextBeginningWith c => l.answering (.ordinal (l.nextBeginningWith? sources c))
  | .nextMarker => l.answering (.ordinal l.nextMarker?)
  | .previousMarker => l.answering (.ordinal l.previousMarker?)
  | .isRecorded entry filter => l.answering (.flag (sources.isRecorded entry filter))

/-- The listing after a run. -/
def run (sources : Sources) (ops : List ListingOp) (l : Listing) : Listing :=
  ops.foldl (fun l op => (perform sources op l).listing) l

/-- The replies of a run, in order. -/
def replies (sources : Sources) : List ListingOp → Listing → List Reply
  | [], _ => []
  | op :: ops, l =>
    let reply := perform sources op l
    reply :: replies sources ops reply.listing

end Listing

end Bouquet
