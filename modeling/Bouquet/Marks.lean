import Bouquet.Reference.Order

/-!
# The marked set

A set of references, kept in reference order and independent of any list, with a pass that hands
out the members one by one as they were when it began.

## Main definitions

- `Marks`: members and the rest of the pass in flight
- `Marks.insert`, `Marks.erase`, `Marks.contains`
- `Marks.startPass`, `Marks.next`
- `MarksOp`, `Marks.step`: the operations as data, `Marks.run`, `Marks.answers`: runs of them
-/

namespace Bouquet

/-- Members in ascending order, one for each identity, and what a pass in flight has still to
hand out. -/
structure Marks where
  members : List Reference
  pass : Option (List Reference)

namespace Marks

/-- The empty set without a pass. -/
def empty : Marks := ⟨[], none⟩

/-- Puts `r` in its place among ascending members; an equal member is kept instead. -/
def insertSorted (r : Reference) : List Reference → List Reference
  | [] => [r]
  | m :: rest =>
    match r.cmp m with
    | .lt => r :: m :: rest
    | .eq => m :: rest
    | .gt => m :: insertSorted r rest

/-- Whether a reference is a member. -/
def contains (m : Marks) (r : Reference) : Bool :=
  m.members.any r.same

/-- Inserts a reference; the flag tells whether it was absent. -/
def insert (m : Marks) (r : Reference) : Marks × Bool :=
  if m.contains r then (m, false)
  else ({ m with members := insertSorted r m.members }, true)

/-- Removes a reference; the flag tells whether it was a member. -/
def erase (m : Marks) (r : Reference) : Marks × Bool :=
  if m.contains r then ({ m with members := m.members.filter fun s => !r.same s }, true)
  else (m, false)

/-- The number of members. -/
def size (m : Marks) : Nat := m.members.length

def isEmpty (m : Marks) : Bool := m.members.isEmpty

/-- Begins a pass over the present members, in place of any other. -/
def startPass (m : Marks) : Marks :=
  { m with pass := some m.members }

/-- The next member of the pass. The answer is absent when the pass is over, and the pass ends
with it. -/
def next (m : Marks) : Marks × Option Reference :=
  match m.pass with
  | some (r :: rest) => ({ m with pass := some rest }, some r)
  | _ => ({ m with pass := none }, none)

end Marks

/-! ## Operations as data -/

/-- One operation on a marked set. -/
inductive MarksOp where
  | clear
  | insert (r : Reference)
  | erase (r : Reference)
  | contains (r : Reference)
  | startPass
  | next
  | members

/-- What an operation on a marked set answers. -/
inductive MarksAnswer where
  | done
  | flag (value : Bool)
  | member (r : Option Reference)
  | members (rs : List Reference)

/-- The set and the answer after one operation. -/
def Marks.step (m : Marks) : MarksOp → Marks × MarksAnswer
  | .clear => (Marks.empty, .done)
  | .insert r => ((m.insert r).1, .flag (m.insert r).2)
  | .erase r => ((m.erase r).1, .flag (m.erase r).2)
  | .contains r => (m, .flag (m.contains r))
  | .startPass => (m.startPass, .done)
  | .next => (m.next.1, .member m.next.2)
  | .members => (m, .members m.members)

/-- The set after a run. -/
def Marks.run (ops : List MarksOp) (m : Marks) : Marks :=
  ops.foldl (fun m op => (m.step op).1) m

/-- The answers of a run, in order. -/
def Marks.answers : List MarksOp → Marks → List MarksAnswer
  | [], _ => []
  | op :: ops, m => (m.step op).2 :: Marks.answers ops (m.step op).1

end Bouquet
