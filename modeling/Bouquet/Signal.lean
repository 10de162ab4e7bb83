/-!
# Signals

A signal calls every connected slot once per emission. A slot may react on the signal that calls
it: connect or disconnect slots, block the signal, or emit again. What it does may depend on what it
has kept of earlier calls, in a memory of its own or in one that it shares with other slots.

## Main definitions

- `Reaction`, `Slot`: what a slot does while it is called
- `Signal`: cells of connections, freed positions and the block
- `Signal.connect`, `Signal.disconnect`, `Signal.disconnectAll`
- `Signal.emit`: the calls of an emission, nested ones included
- `SignalOp`, `Signal.step`: the operations as data
-/

namespace Bouquet

/-! ## Connections -/

/-- What a slot can see of the signal while it is called: the argument, how many connections were
ever made, which of them are live, and whether emission is blocked. -/
structure Sight where
  argument : Int
  made : Nat
  live : List Nat
  blocked : Bool

/-- What a slot does after it has recorded its call. `reemit` emits again with the argument minus
one as long as the argument is positive; `inTurn` does one thing after another. `remember` writes
into the memory `μ` that the slots share, and `recalling` goes by this memory and by what there is
to see. A connection is named by its number in the order of all connections ever made. -/
inductive Reaction (μ : Type) where
  | none
  | disconnectAll
  | disconnect (connection : Nat)
  | connectSlot (tag : String) (reaction : Reaction μ)
  | reemit
  | block
  | unblock
  | remember (write : μ → μ)
  | inTurn (first second : Reaction μ)
  | recalling (choose : μ → Sight → Reaction μ)

variable {μ : Type}

/-- Connects a slot that only records its calls. -/
def Reaction.connect (tag : String) : Reaction μ := .connectSlot tag .none

/-- A slot: a label for its calls, and its reaction. -/
structure Slot (μ : Type) where
  tag : String
  reaction : Reaction μ

/-- A slot under the number of its connection. -/
structure Connection (μ : Type) where
  id : Nat
  slot : Slot μ

/-- A signal. `cells` holds the connections by position; a position freed by a disconnection is
in `free`, the latest first, and the next connection takes it. `made` counts the connections ever
made. `memory` is what slots keep between their calls: all that they capture, of their own and in
common, also with others than slots. -/
structure Signal (μ : Type) where
  cells : List (Option (Connection μ))
  free : List Nat
  made : Nat
  blocked : Bool
  memory : μ

namespace Signal

/-- A signal without connections. -/
def empty (memory : μ) : Signal μ := ⟨[], [], 0, false, memory⟩

/-- The live connections in the order in which an emission calls them. -/
def live (s : Signal μ) : List (Connection μ) :=
  s.cells.filterMap id

/-- The number of live connections. -/
def count (s : Signal μ) : Nat := s.live.length

/-- What a slot that is called with `argument` can see. -/
def sight (s : Signal μ) (argument : Int) : Sight :=
  { argument := argument, made := s.made, live := s.live.map Connection.id, blocked := s.blocked }

/-- Connects a slot: the position freed last is taken first. -/
def connect (s : Signal μ) (slot : Slot μ) : Signal μ :=
  let connection : Connection μ := ⟨s.made, slot⟩
  match s.free with
  | position :: free =>
    { s with
      cells := s.cells.set position (some connection), free := free, made := s.made + 1 }
  | [] => { s with cells := s.cells ++ [some connection], made := s.made + 1 }

/-- The position of a live connection. -/
def position? (s : Signal μ) (connection : Nat) : Option Nat :=
  s.cells.findIdx? fun cell => cell.any fun c => c.id == connection

/-- Disconnects a connection; the flag tells whether it was live. -/
def disconnect (s : Signal μ) (connection : Nat) : Signal μ × Bool :=
  match s.position? connection with
  | some position =>
    ({ s with cells := s.cells.set position none, free := position :: s.free }, true)
  | none => (s, false)

/-- Disconnects every slot, in the order of the positions. -/
def disconnectAll (s : Signal μ) : Signal μ :=
  let occupied := (s.cells.zipIdx.filter fun (cell, _) => cell.isSome).map (·.2)
  { s with cells := s.cells.map fun _ => none, free := occupied.reverse ++ s.free }

/-- Blocks or unblocks emission. -/
def setBlocked (s : Signal μ) (blocked : Bool) : Signal μ :=
  { s with blocked := blocked }

/-- Changes what slots remember. -/
def remember (s : Signal μ) (write : μ → μ) : Signal μ :=
  { s with memory := write s.memory }

/-! ## Emission -/

/-- One call of a slot. -/
structure SlotCall where
  connection : Nat
  tag : String
  argument : Int
  deriving DecidableEq

/-- The signal after a reaction, and the calls that the reaction caused. `emitLower` emits with
the argument minus one. -/
def react (emitLower : Signal μ → Signal μ × List SlotCall) (argument : Int) :
    Reaction μ → Signal μ → Signal μ × List SlotCall
  | .none, s => (s, [])
  | .disconnectAll, s => (s.disconnectAll, [])
  | .disconnect connection, s => ((s.disconnect connection).1, [])
  | .connectSlot tag reaction, s => (s.connect ⟨tag, reaction⟩, [])
  | .block, s => (s.setBlocked true, [])
  | .unblock, s => (s.setBlocked false, [])
  | .remember write, s => (s.remember write, [])
  | .reemit, s => if 0 < argument then emitLower s else (s, [])
  | .inTurn first second, s =>
    let (s, calls) := react emitLower argument first s
    let (s, later) := react emitLower argument second s
    (s, calls ++ later)
  | .recalling choose, s =>
    react emitLower argument (choose s.memory (s.sight argument)) s

/-- Calls the connections of a snapshot one after the other. -/
def callEach (emitLower : Signal μ → Signal μ × List SlotCall) (argument : Int) :
    List (Connection μ) → Signal μ → Signal μ × List SlotCall
  | [], s => (s, [])
  | c :: rest, s =>
    let (s, inner) := react emitLower argument c.slot.reaction s
    let (s, later) := callEach emitLower argument rest s
    (s, ⟨c.id, c.slot.tag, argument⟩ :: inner ++ later)

/-- An emission with at most `depth` emissions nested inside. -/
def emitWithin : Nat → Int → Signal μ → Signal μ × List SlotCall
  | 0, argument, s =>
    if s.blocked then (s, []) else callEach (fun s => (s, [])) argument s.live s
  | depth + 1, argument, s =>
    if s.blocked then (s, [])
    else callEach (emitWithin depth (argument - 1)) argument s.live s

/-- Emits `argument`: every connection that is live now is called once, whatever the slots do
meanwhile; a blocked signal calls nothing. Nested arguments count down, so they bound the
nesting. -/
def emit (s : Signal μ) (argument : Int) : Signal μ × List SlotCall :=
  emitWithin argument.toNat argument s

end Signal

/-! ## Operations as data -/

/-- One operation on a signal. Between operations others may write what slots remember. -/
inductive SignalOp (μ : Type) where
  | connect (slot : Slot μ)
  | disconnect (connection : Nat)
  | disconnectAll
  | setBlocked (blocked : Bool)
  | remember (write : μ → μ)
  | emit (argument : Int)

/-- What an operation on a signal answers. -/
inductive SignalAnswer where
  | done
  | connection (number : Nat)
  | flag (value : Bool)
  | calls (calls : List Signal.SlotCall)

namespace Signal

/-- The signal and the answer after one operation. -/
def step (s : Signal μ) : SignalOp μ → Signal μ × SignalAnswer
  | .connect slot => (s.connect slot, .connection s.made)
  | .disconnect connection => ((s.disconnect connection).1, .flag (s.disconnect connection).2)
  | .disconnectAll => (s.disconnectAll, .done)
  | .setBlocked blocked => (s.setBlocked blocked, .done)
  | .remember write => (s.remember write, .done)
  | .emit argument => ((s.emit argument).1, .calls (s.emit argument).2)

/-- The signal after a run. -/
def run (ops : List (SignalOp μ)) (s : Signal μ) : Signal μ :=
  ops.foldl (fun s op => (s.step op).1) s

/-- The answers of a run, in order. -/
def answers : List (SignalOp μ) → Signal μ → List SignalAnswer
  | [], _ => []
  | op :: ops, s => (s.step op).2 :: answers ops (s.step op).1

end Signal

end Bouquet
