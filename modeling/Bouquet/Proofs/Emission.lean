import Bouquet.Signal
import Mathlib.Data.List.Basic

/-!
# What Happens During an Emission

An emission calls slots that change the very signal they are called by and may emit again. Here all
of this is a sequence of events, given by rules without any bound on the nesting. The rules leave no
choice and always come to an end, and what is computed is what they describe.

## Main definitions

- `Signal.Event`, `Signal.Moment`: what happens, and the signal right after it
- `Signal.Happens`: the rules
- `Signal.callsIn`: the calls among the events

## Main statements

- `Signal.Happens.unique`: the rules leave no choice
- `Signal.happens_run`: every run comes to an end, with the calls and the signal that are computed
-/

namespace Bouquet

variable {μ : Type}

/-- The call of a connection with an argument. -/
def Connection.callWith (c : Connection μ) (argument : Int) : Signal.SlotCall :=
  ⟨c.id, c.slot.tag, argument⟩

/-- The calls that an answer tells of. -/
def SignalAnswer.told : SignalAnswer → List Signal.SlotCall
  | .calls made => made
  | _ => []

namespace Signal

/-! ## Events -/

/-- One thing that happens on a signal: a connection gets its number, a disconnection is answered,
the memory of slots is written, an emission begins, calls a slot, or ends. -/
inductive Event where
  | connected (connection : Nat) (tag : String)
  | disconnected (connection : Nat) (wasLive : Bool)
  | allDisconnected
  | blocked (state : Bool)
  | remembered
  | began (argument : Int)
  | called (call : SlotCall)
  | ended

/-- The call that an event is. -/
def Event.call? : Event → Option SlotCall
  | .called call => some call
  | _ => none

/-- An event with the signal right after it. -/
structure Moment (μ : Type) where
  event : Event
  after : Signal μ

/-- The calls among some events, in order. -/
def callsIn (log : List (Moment μ)) : List SlotCall :=
  log.filterMap fun moment => moment.event.call?

@[simp]
theorem callsIn_nil : callsIn ([] : List (Moment μ)) = [] := rfl

@[simp]
theorem callsIn_append (first second : List (Moment μ)) :
    callsIn (first ++ second) = callsIn first ++ callsIn second :=
  List.filterMap_append

@[simp]
theorem callsIn_cons (moment : Moment μ) (log : List (Moment μ)) :
    callsIn (moment :: log) = moment.event.call?.toList ++ callsIn log := by
  cases h : moment.event.call? <;> simp [callsIn, h]

/-! ## Rules -/

/-- Something that is done to a signal: the reaction of a slot that was called with an argument, the
calls of some connections one after the other, an emission, or a run of operations. -/
inductive Task (μ : Type) where
  | reaction (argument : Int) (reaction : Reaction μ)
  | calls (argument : Int) (connections : List (Connection μ))
  | emission (argument : Int)
  | run (ops : List (SignalOp μ))

/-- An operation as a task. Apart from an emission it is what a slot may do too. -/
def Task.ofOp : SignalOp μ → Task μ
  | .connect slot => .reaction 0 (.connectSlot slot.tag slot.reaction)
  | .disconnect connection => .reaction 0 (.disconnect connection)
  | .disconnectAll => .reaction 0 .disconnectAll
  | .setBlocked true => .reaction 0 .block
  | .setBlocked false => .reaction 0 .unblock
  | .remember write => .reaction 0 (.remember write)
  | .emit argument => .emission argument

/-- `Happens task s log s'`: the task, begun on the signal `s`, comes to an end after the events of
`log` and leaves the signal `s'`. An emission takes the connections that are live when it begins and
calls them one after the other, each on the signal that the calls before have left. -/
inductive Happens : Task μ → Signal μ → List (Moment μ) → Signal μ → Prop where
  | none {x s} : Happens (.reaction x .none) s [] s
  | disconnectAll {x s} :
      Happens (.reaction x .disconnectAll) s [⟨.allDisconnected, s.disconnectAll⟩] s.disconnectAll
  | disconnect {x c s} :
      Happens (.reaction x (.disconnect c)) s
        [⟨.disconnected c (s.disconnect c).2, (s.disconnect c).1⟩] (s.disconnect c).1
  | connectSlot {x tag r s} :
      Happens (.reaction x (.connectSlot tag r)) s
        [⟨.connected s.made tag, s.connect ⟨tag, r⟩⟩] (s.connect ⟨tag, r⟩)
  | block {x s} :
      Happens (.reaction x .block) s [⟨.blocked true, s.setBlocked true⟩] (s.setBlocked true)
  | unblock {x s} :
      Happens (.reaction x .unblock) s [⟨.blocked false, s.setBlocked false⟩] (s.setBlocked false)
  | remember {x write s} :
      Happens (.reaction x (.remember write)) s [⟨.remembered, s.remember write⟩] (s.remember write)
  | reemit {x s log s'} (hx : 0 < x) (hemission : Happens (.emission (x - 1)) s log s') :
      Happens (.reaction x .reemit) s log s'
  | keepStill {x s} (hx : ¬ 0 < x) : Happens (.reaction x .reemit) s [] s
  | inTurn {x r r' s log s₁ later s'} (hfirst : Happens (.reaction x r) s log s₁)
      (hsecond : Happens (.reaction x r') s₁ later s') :
      Happens (.reaction x (.inTurn r r')) s (log ++ later) s'
  | recalling {x choose s log s'}
      (hchosen : Happens (.reaction x (choose s.memory (s.sight x))) s log s') :
      Happens (.reaction x (.recalling choose)) s log s'
  | allCalled {x s} : Happens (.calls x []) s [] s
  | call {x rest s inner s₁ later s'} {c : Connection μ}
      (hreaction : Happens (.reaction x c.slot.reaction) s inner s₁)
      (hrest : Happens (.calls x rest) s₁ later s') :
      Happens (.calls x (c :: rest)) s (⟨.called (c.callWith x), s⟩ :: (inner ++ later)) s'
  | silent {x s} (hblocked : s.blocked = true) :
      Happens (.emission x) s [⟨.began x, s⟩, ⟨.ended, s⟩] s
  | emission {x s log s'} (hblocked : s.blocked = false)
      (hcalls : Happens (.calls x s.live) s log s') :
      Happens (.emission x) s (⟨.began x, s⟩ :: (log ++ [⟨.ended, s'⟩])) s'
  | finished {s} : Happens (.run []) s [] s
  | operation {op ops s log s₁ later s'} (hop : Happens (Task.ofOp op) s log s₁)
      (hops : Happens (.run ops) s₁ later s') :
      Happens (.run (op :: ops)) s (log ++ later) s'

/-- The rules leave no choice. -/
theorem Happens.unique {task : Task μ} {s s' s'' : Signal μ} {log log' : List (Moment μ)}
    (h : Happens task s log s') (h' : Happens task s log' s'') : log' = log ∧ s'' = s' := by
  induction h generalizing log' s'' with
  | none => cases h'; exact ⟨rfl, rfl⟩
  | disconnectAll => cases h'; exact ⟨rfl, rfl⟩
  | disconnect => cases h'; exact ⟨rfl, rfl⟩
  | connectSlot => cases h'; exact ⟨rfl, rfl⟩
  | block => cases h'; exact ⟨rfl, rfl⟩
  | unblock => cases h'; exact ⟨rfl, rfl⟩
  | remember => cases h'; exact ⟨rfl, rfl⟩
  | reemit hx _ ih =>
    cases h' with
    | reemit _ h' => exact ih h'
    | keepStill hstill => exact absurd hx hstill
  | keepStill hstill =>
    cases h' with
    | reemit hx _ => exact absurd hx hstill
    | keepStill _ => exact ⟨rfl, rfl⟩
  | inTurn _ _ ihfirst ihsecond =>
    cases h' with
    | inTurn hfirst hsecond =>
      obtain ⟨rfl, rfl⟩ := ihfirst hfirst
      obtain ⟨rfl, rfl⟩ := ihsecond hsecond
      exact ⟨rfl, rfl⟩
  | recalling _ ih =>
    cases h' with
    | recalling h' => exact ih h'
  | allCalled => cases h'; exact ⟨rfl, rfl⟩
  | call _ _ ihreaction ihrest =>
    cases h' with
    | call hreaction hrest =>
      obtain ⟨rfl, rfl⟩ := ihreaction hreaction
      obtain ⟨rfl, rfl⟩ := ihrest hrest
      exact ⟨rfl, rfl⟩
  | silent hblocked =>
    cases h' with
    | silent _ => exact ⟨rfl, rfl⟩
    | emission hfree _ => simp [hblocked] at hfree
  | emission hfree _ ih =>
    cases h' with
    | silent hblocked => simp [hblocked] at hfree
    | emission _ hcalls =>
      obtain ⟨rfl, rfl⟩ := ih hcalls
      exact ⟨rfl, rfl⟩
  | finished => cases h'; exact ⟨rfl, rfl⟩
  | operation _ _ ihop ihops =>
    cases h' with
    | operation hop hops =>
      obtain ⟨rfl, rfl⟩ := ihop hop
      obtain ⟨rfl, rfl⟩ := ihops hops
      exact ⟨rfl, rfl⟩

/-! ## What is computed happens -/

/-- The task comes to an end with the given signal and calls. -/
def Yields (task : Task μ) (s : Signal μ) (outcome : Signal μ × List SlotCall) : Prop :=
  ∃ log, Happens task s log outcome.1 ∧ callsIn log = outcome.2

section Reactions

variable {lower : Signal μ → Signal μ × List SlotCall} {x : Int}

theorem yields_react (hlower : 0 < x → ∀ s, Yields (.emission (x - 1)) s (lower s))
    (r : Reaction μ) (s : Signal μ) : Yields (.reaction x r) s (react lower x r s) := by
  induction r generalizing s with
  | none => exact ⟨[], .none, rfl⟩
  | disconnectAll => exact ⟨_, .disconnectAll, rfl⟩
  | disconnect connection => exact ⟨_, .disconnect, rfl⟩
  | connectSlot tag reaction => exact ⟨_, .connectSlot, rfl⟩
  | reemit =>
    by_cases hx : 0 < x
    · obtain ⟨log, hlog, hcalls⟩ := hlower hx s
      simp only [react, if_pos hx]
      exact ⟨log, .reemit hx hlog, hcalls⟩
    · simp only [react, if_neg hx]
      exact ⟨[], .keepStill hx, rfl⟩
  | block => exact ⟨_, .block, rfl⟩
  | unblock => exact ⟨_, .unblock, rfl⟩
  | remember write => exact ⟨_, .remember, rfl⟩
  | inTurn first second ihfirst ihsecond =>
    obtain ⟨log, hlog, hcalls⟩ := ihfirst s
    obtain ⟨later, hlater, hmore⟩ := ihsecond (react lower x first s).1
    exact ⟨log ++ later, .inTurn hlog hlater, by simp [react, hcalls, hmore]⟩
  | recalling choose ih =>
    obtain ⟨log, hlog, hcalls⟩ := ih s.memory (s.sight x) s
    exact ⟨log, .recalling hlog, hcalls⟩

theorem yields_callEach (hlower : 0 < x → ∀ s, Yields (.emission (x - 1)) s (lower s))
    (connections : List (Connection μ)) (s : Signal μ) :
    Yields (.calls x connections) s (callEach lower x connections s) := by
  induction connections generalizing s with
  | nil => exact ⟨[], .allCalled, rfl⟩
  | cons c rest ih =>
    obtain ⟨inner, hinner, hcalls⟩ := yields_react hlower c.slot.reaction s
    obtain ⟨later, hlater, hmore⟩ := ih (react lower x c.slot.reaction s).1
    exact ⟨_, .call hinner hlater,
      by simp [callEach, Connection.callWith, Event.call?, hcalls, hmore]⟩

end Reactions

theorem yields_emission {lower : Signal μ → Signal μ × List SlotCall} {x : Int}
    (hlower : 0 < x → ∀ s, Yields (.emission (x - 1)) s (lower s)) (s : Signal μ) :
    Yields (.emission x) s (if s.blocked then (s, []) else callEach lower x s.live s) := by
  cases hblocked : s.blocked with
  | true => exact ⟨_, .silent hblocked, rfl⟩
  | false =>
    obtain ⟨log, hlog, hcalls⟩ := yields_callEach hlower s.live s
    exact ⟨_, .emission hblocked hlog, by simpa [Event.call?] using hcalls⟩

/-- The nesting never gets deeper than the argument is large, so the depth does not run out. -/
theorem yields_emitWithin {depth : Nat} {x : Int} (hdepth : x.toNat ≤ depth) (s : Signal μ) :
    Yields (.emission x) s (emitWithin depth x s) := by
  induction depth generalizing x s with
  | zero => exact yields_emission (fun hx => by omega) s
  | succ depth ih => exact yields_emission (fun hx s => ih (by omega) s) s

theorem yields_emit (x : Int) (s : Signal μ) : Yields (.emission x) s (s.emit x) :=
  yields_emitWithin (Nat.le_refl _) s

theorem yields_step (op : SignalOp μ) (s : Signal μ) :
    Yields (Task.ofOp op) s ((s.step op).1, (s.step op).2.told) := by
  cases op with
  | connect slot => exact ⟨_, .connectSlot, rfl⟩
  | disconnect connection => exact ⟨_, .disconnect, rfl⟩
  | disconnectAll => exact ⟨_, .disconnectAll, rfl⟩
  | setBlocked state =>
    cases state with
    | true => exact ⟨_, .block, rfl⟩
    | false => exact ⟨_, .unblock, rfl⟩
  | remember write => exact ⟨_, .remember, rfl⟩
  | emit argument => exact yields_emit argument s

/-- Every run comes to an end, with the calls that its emissions answer. -/
theorem happens_run (ops : List (SignalOp μ)) (s : Signal μ) :
    ∃ log, Happens (.run ops) s log (s.run ops)
      ∧ callsIn log = (answers ops s).flatMap SignalAnswer.told := by
  induction ops generalizing s with
  | nil => exact ⟨[], .finished, rfl⟩
  | cons op ops ih =>
    obtain ⟨log, hlog, hcalls⟩ := yields_step op s
    obtain ⟨later, hlater, hmore⟩ := ih (s.step op).1
    exact ⟨log ++ later, .operation hlog hlater, by simp [answers, hcalls, hmore]⟩

end Signal

end Bouquet
