import Bouquet.Proofs.Connections
import Bouquet.Proofs.Emission

/-!
# The Law of Re-entrant Emission

What a signal owes to those who connect to it, read off the events alone. Which connections are live
follows from the connections and disconnections so far. An emission owes one call to each connection
that is live when it begins, or none when the signal is blocked, whatever its slots do meanwhile;
the emissions nested inside owe calls of their own.

## Main definitions

- `Signal.Account`: what the events so far say, with no word about cells
- `Signal.ownCalls`: the calls that belong to an emission itself
- `Signal.Event.Lawful`: what is owed at each event

## Main statements

- `Signal.reentrant_emission`: every run comes to an end and keeps the law throughout
-/

namespace Bouquet.Signal

variable {μ : Type}

/-! ## Accounts -/

/-- The calls of an emission that begins on a signal. -/
def callsDue (s : Signal μ) (argument : Int) : List SlotCall :=
  if s.blocked then [] else s.live.map fun c => c.callWith argument

/-- What the events so far say of a signal: the live connections by number and tag, how many were
ever made, and whether emission is blocked. -/
structure Account where
  live : List (Nat × String)
  made : Nat
  blocked : Bool

namespace Account

/-- The account before any event. -/
def start : Account := ⟨[], 0, false⟩

/-- The numbers of the live connections. -/
def numbers (a : Account) : List Nat := a.live.map Prod.fst

/-- The account after one more event. -/
def enter (a : Account) : Event → Account
  | .connected connection tag =>
    { a with live := (connection, tag) :: a.live, made := a.made + 1 }
  | .disconnected connection _ => { a with live := a.live.filter fun c => c.1 ≠ connection }
  | .allDisconnected => { a with live := [] }
  | .blocked state => { a with blocked := state }
  | _ => a

/-- The account after some events. -/
def after (a : Account) (events : List Event) : Account := events.foldl enter a

/-- One call for each live connection, or none on a blocked signal. -/
def owed (a : Account) (argument : Int) : List SlotCall :=
  if a.blocked then [] else a.live.map fun c => ⟨c.1, c.2, argument⟩

/-- The account is right about a signal. -/
structure Matches (a : Account) (s : Signal μ) : Prop where
  sound : s.Sound
  live : (s.live.map fun c => (c.id, c.slot.tag)).Perm a.live
  made : s.made = a.made
  blocked : s.blocked = a.blocked

theorem matches_start (memory : μ) : start.Matches (Signal.empty memory) :=
  ⟨sound_empty memory, List.Perm.nil, rfl, rfl⟩

namespace Matches

variable {a : Account} {s : Signal μ}

theorem numbers_perm (h : a.Matches s) : (s.live.map Connection.id).Perm a.numbers := by
  have hfst := h.live.map Prod.fst
  rwa [List.map_map] at hfst

theorem count (h : a.Matches s) : s.count = a.live.length := by
  simpa [Signal.count] using h.live.length_eq

theorem nodup (h : a.Matches s) : a.numbers.Nodup :=
  h.numbers_perm.nodup_iff.mp h.sound.nodup

theorem disconnect_iff (h : a.Matches s) (connection : Nat) :
    (s.disconnect connection).2 = true ↔ connection ∈ a.numbers := by
  rw [Signal.disconnect_iff, h.numbers_perm.mem_iff]

theorem owed_perm (h : a.Matches s) (argument : Int) :
    (s.callsDue argument).Perm (a.owed argument) := by
  rw [callsDue, owed, ← h.blocked]
  cases s.blocked with
  | true => exact List.Perm.nil
  | false =>
    have hmap := h.live.map fun c : Nat × String => (⟨c.1, c.2, argument⟩ : SlotCall)
    rwa [List.map_map] at hmap

end Matches

end Account

/-! ## From one moment to the next -/

/-- What an event makes of the signal. A call and the ends of an emission leave it alone. -/
inductive Changes (s : Signal μ) : Event → Signal μ → Prop where
  | connected {slot} : Changes s (.connected s.made slot.tag) (s.connect slot)
  | disconnected {c} : Changes s (.disconnected c (s.disconnect c).2) (s.disconnect c).1
  | allDisconnected : Changes s .allDisconnected s.disconnectAll
  | blocked {state} : Changes s (.blocked state) (s.setBlocked state)
  | remembered {write} : Changes s .remembered (s.remember write)
  | began {x} : Changes s (.began x) s
  | called {call} : Changes s (.called call) s
  | ended : Changes s .ended s

/-- An account that is right stays right. -/
theorem Account.Matches.enter {a : Account} {s s' : Signal μ} {event : Event} (h : a.Matches s)
    (hchanges : s.Changes event s') : (a.enter event).Matches s' := by
  cases hchanges with
  | @connected slot =>
    refine ⟨h.sound.connect slot, ?_, ?_, ?_⟩
    · have hperm := (live_connect_perm h.sound slot).map fun c => (c.id, c.slot.tag)
      exact hperm.trans (h.live.cons _)
    · rw [connect_made, h.made]
      rfl
    · rw [connect_blocked, h.blocked]
      rfl
  | @disconnected connection =>
    refine ⟨h.sound.disconnect connection, ?_, ?_, ?_⟩
    · rw [live_disconnect h.sound]
      have hfilter := h.live.filter fun c => decide (c.1 ≠ connection)
      rwa [List.filter_map] at hfilter
    · rw [disconnect_made, h.made]
      rfl
    · rw [disconnect_blocked, h.blocked]
      rfl
  | allDisconnected =>
    refine ⟨h.sound.disconnectAll, ?_, h.made, h.blocked⟩
    rw [live_disconnectAll]
    exact List.Perm.nil
  | @blocked state => exact ⟨h.sound.setBlocked state, h.live, h.made, rfl⟩
  | @remembered write => exact ⟨h.sound.remember write, h.live, h.made, h.blocked⟩
  | began => exact h
  | called => exact h
  | ended => exact h

/-- Each moment comes out of the one before. -/
def Traces : Signal μ → List (Moment μ) → Signal μ → Prop
  | s, [], s' => s' = s
  | s, moment :: log, s' => s.Changes moment.event moment.after ∧ Traces moment.after log s'

theorem Traces.append {s s₁ s₂ : Signal μ} {log later : List (Moment μ)} (h : Traces s log s₁)
    (h' : Traces s₁ later s₂) : Traces s (log ++ later) s₂ := by
  induction log generalizing s with
  | nil =>
    obtain rfl := h
    exact h'
  | cons moment log ih => exact ⟨h.1, ih h.2⟩

theorem Happens.traces {task : Task μ} {s s' : Signal μ} {log : List (Moment μ)}
    (h : Happens task s log s') : Traces s log s' := by
  induction h with
  | none => rfl
  | disconnectAll => exact ⟨.allDisconnected, rfl⟩
  | disconnect => exact ⟨.disconnected, rfl⟩
  | @connectSlot x tag r s => exact ⟨@Changes.connected μ s ⟨tag, r⟩, rfl⟩
  | block => exact ⟨.blocked, rfl⟩
  | unblock => exact ⟨.blocked, rfl⟩
  | remember => exact ⟨.remembered, rfl⟩
  | reemit _ _ ih => exact ih
  | keepStill => rfl
  | inTurn _ _ ihfirst ihsecond => exact ihfirst.append ihsecond
  | recalling _ ih => exact ih
  | allCalled => rfl
  | call _ _ ihreaction ihrest => exact ⟨.called, ihreaction.append ihrest⟩
  | silent => exact ⟨.began, .ended, rfl⟩
  | emission _ _ ih => exact ⟨.began, ih.append ⟨.ended, rfl⟩⟩
  | finished => rfl
  | operation _ _ ihop ihops => exact ihop.append ihops

/-- The signal after some moments. -/
def signalAfter (s : Signal μ) (log : List (Moment μ)) : Signal μ :=
  log.foldl (fun _ moment => moment.after) s

/-- The account of the events so far is right at every moment, and says what the next event
changes. -/
theorem Traces.matches_at {s s' : Signal μ} {before after : List (Moment μ)} {a : Account}
    (h : Traces s (before ++ after) s') (ha : a.Matches s) :
    (a.after (before.map Moment.event)).Matches (s.signalAfter before)
      ∧ Traces (s.signalAfter before) after s' := by
  induction before generalizing s a with
  | nil => exact ⟨ha, h⟩
  | cons moment before ih => exact ih h.2 (ha.enter h.1)

/-! ## The calls of an emission -/

/-- The calls of an emission among the events that follow its beginning, up to its end; `none` when
it does not end. `nested` is the number of emissions under way inside, whose calls are not its
own. -/
def ownCalls : (nested : Nat) → List Event → Option (List SlotCall)
  | _, [] => none
  | nested, .began _ :: rest => ownCalls (nested + 1) rest
  | 0, .ended :: _ => some []
  | nested + 1, .ended :: rest => ownCalls nested rest
  | 0, .called call :: rest => (ownCalls 0 rest).map (call :: ·)
  | nested, _ :: rest => ownCalls nested rest

/-- The calls that a task makes itself, without those of emissions inside. -/
def Task.own : Task μ → List SlotCall
  | .calls x connections => connections.map fun c => c.callWith x
  | _ => []

theorem Task.own_run (ops : List (SignalOp μ)) : (Task.run ops).own = [] := rfl

theorem Task.own_ofOp (op : SignalOp μ) : (Task.ofOp op).own = [] := by
  cases op with
  | setBlocked state => cases state <;> rfl
  | _ => rfl

/-- The events of a task add its own calls to those of the emission that it is part of, and nothing
to the calls of emissions further out. -/
theorem Happens.ownCalls_append {task : Task μ} {s s' : Signal μ} {log : List (Moment μ)}
    (h : Happens task s log s') (tail : List Event) :
    ownCalls 0 (log.map Moment.event ++ tail) = (ownCalls 0 tail).map (task.own ++ ·)
      ∧ ∀ nested, ownCalls (nested + 1) (log.map Moment.event ++ tail)
          = ownCalls (nested + 1) tail := by
  induction h generalizing tail with
  | none => simp [Task.own]
  | disconnectAll => simp [Task.own, ownCalls]
  | disconnect => simp [Task.own, ownCalls]
  | connectSlot => simp [Task.own, ownCalls]
  | block => simp [Task.own, ownCalls]
  | unblock => simp [Task.own, ownCalls]
  | remember => simp [Task.own, ownCalls]
  | reemit _ _ ih => exact ih tail
  | keepStill => simp [Task.own]
  | inTurn _ _ ihfirst ihsecond =>
    simp only [List.map_append, List.append_assoc]
    simp [ihfirst, ihsecond, Task.own]
  | recalling _ ih => exact ih tail
  | allCalled => simp [Task.own]
  | call _ _ ihreaction ihrest =>
    simp only [List.map_cons, List.map_append, List.cons_append, List.append_assoc]
    simp [ownCalls, ihreaction, ihrest, Task.own, Function.comp_def]
  | silent => simp [Task.own, ownCalls]
  | emission _ _ ih =>
    -- inside, the calls of the nested emission are counted one level further out
    simp only [List.map_cons, List.map_append, List.cons_append, List.append_assoc]
    simp [ownCalls, ih, Task.own]
  | finished => simp [Task.own]
  | operation _ _ ihop ihops =>
    simp only [List.map_append, List.append_assoc]
    simp only [ihop, ihops, Task.own_ofOp, Task.own_run]
    simp

/-- Every emission among some events comes to its end, also when more events follow, and the calls
that it makes itself are those due on the signal on which it began. -/
def PaysItsDues : List (Moment μ) → Prop
  | [] => True
  | moment :: log =>
    (∀ x, moment.event = .began x → ∀ tail,
        ownCalls 0 (log.map Moment.event ++ tail) = some (moment.after.callsDue x))
      ∧ PaysItsDues log

theorem PaysItsDues.append {log later : List (Moment μ)} (h : PaysItsDues log)
    (h' : PaysItsDues later) : PaysItsDues (log ++ later) := by
  induction log with
  | nil => exact h'
  | cons moment log ih =>
    refine ⟨fun x hbegan tail => ?_, ih h.2⟩
    have hown := h.1 x hbegan (later.map Moment.event ++ tail)
    rwa [← List.append_assoc, ← List.map_append] at hown

theorem PaysItsDues.of_append {log later : List (Moment μ)} (h : PaysItsDues (log ++ later)) :
    PaysItsDues later := by
  induction log with
  | nil => exact h
  | cons moment log ih => exact ih h.2

/-- An event that begins no emission owes nothing. -/
theorem paysItsDues_singleton {event : Event} {s : Signal μ} (h : ∀ x, event ≠ .began x) :
    PaysItsDues [⟨event, s⟩] :=
  ⟨fun x hbegan => absurd hbegan (h x), trivial⟩

theorem Happens.paysItsDues {task : Task μ} {s s' : Signal μ} {log : List (Moment μ)}
    (h : Happens task s log s') : PaysItsDues log := by
  induction h with
  | none => trivial
  | disconnectAll => exact paysItsDues_singleton (by simp)
  | disconnect => exact paysItsDues_singleton (by simp)
  | connectSlot => exact paysItsDues_singleton (by simp)
  | block => exact paysItsDues_singleton (by simp)
  | unblock => exact paysItsDues_singleton (by simp)
  | remember => exact paysItsDues_singleton (by simp)
  | reemit _ _ ih => exact ih
  | keepStill => trivial
  | inTurn _ _ ihfirst ihsecond => exact ihfirst.append ihsecond
  | recalling _ ih => exact ih
  | allCalled => trivial
  | call _ _ ihreaction ihrest =>
    exact (paysItsDues_singleton (by simp)).append (ihreaction.append ihrest)
  | silent hblocked =>
    refine ⟨fun x hbegan tail => ?_, paysItsDues_singleton (by simp)⟩
    simp [ownCalls, callsDue, hblocked]
  | emission hfree hcalls ih =>
    refine ⟨fun x hbegan tail => ?_, ih.append (paysItsDues_singleton (by simp))⟩
    -- the snapshot is called through, and then the emission ends
    obtain rfl := Event.began.inj hbegan
    rw [List.map_append, List.append_assoc, (hcalls.ownCalls_append _).1]
    simp [ownCalls, callsDue, hfree, Task.own]
  | finished => trivial
  | operation _ _ ihop ihops => exact ihop.append ihops

/-! ## The law -/

/-- What is owed at an event, given the events before and after it: connections are numbered in
their order, a disconnection tells whether its connection is live, and an emission comes to its end
having called, itself, each connection once that was live when it began, or none if the signal was
blocked then. -/
def Event.Lawful (before : List Event) (event : Event) (after : List Event) : Prop :=
  match event with
  | .connected connection _ => connection = (Account.start.after before).made
  | .disconnected connection wasLive =>
    wasLive = true ↔ connection ∈ (Account.start.after before).numbers
  | .began argument =>
    ∃ calls, ownCalls 0 after = some calls
      ∧ calls.Perm ((Account.start.after before).owed argument)
  | _ => True

/-- An event that changes the signal by the rules is lawful, provided that the emission which it
begins, if any, makes the calls that are due. -/
theorem Changes.lawful {s s' : Signal μ} {before after : List Event} {event : Event}
    (h : s.Changes event s') (hmatches : (Account.start.after before).Matches s)
    (hown : ∀ x, event = .began x → ownCalls 0 after = some (s'.callsDue x)) :
    event.Lawful before after := by
  cases h with
  | connected => exact hmatches.made
  | @disconnected connection => exact hmatches.disconnect_iff connection
  | @began x => exact ⟨_, hown x rfl, hmatches.owed_perm x⟩
  | allDisconnected => trivial
  | blocked => trivial
  | remembered => trivial
  | called => trivial
  | ended => trivial

/-- **Re-entrant emission.** Every run on a new signal comes to an end, in one way only, and that is
what is computed, whatever the slots do while they are called: connect and disconnect slots, block
the signal, or emit again with a smaller argument. What they do may depend on all that they keep
between calls, each for itself or together, and what others write there. Throughout, nested
emissions included, the law of emission is kept; and at every moment the connections that are
counted, and that a disconnection would find, are those that the events so far have left live. -/
theorem reentrant_emission (memory : μ) (ops : List (SignalOp μ)) :
    ∃ log, Happens (.run ops) (empty memory) log ((empty memory).run ops)
      ∧ (∀ log' s', Happens (.run ops) (empty memory) log' s' →
          log' = log ∧ s' = (empty memory).run ops)
      ∧ callsIn log = (answers ops (empty memory)).flatMap SignalAnswer.told
      ∧ (∀ before event after,
          log.map Moment.event = before ++ event :: after → event.Lawful before after)
      ∧ ∀ before, before <+: log →
          ((empty memory).signalAfter before).count
              = (Account.start.after (before.map Moment.event)).live.length
            ∧ (Account.start.after (before.map Moment.event)).numbers.Nodup
            ∧ ∀ connection, (((empty memory).signalAfter before).disconnect connection).2 = true
                ↔ connection ∈ (Account.start.after (before.map Moment.event)).numbers := by
  obtain ⟨log, hlog, hcalls⟩ := happens_run ops (empty memory)
  refine ⟨log, hlog, fun log' s' h' => hlog.unique h', hcalls, ?_, ?_⟩
  · intro before event after hsplit
    obtain ⟨first, rest, rfl, rfl, hrest⟩ := List.map_eq_append_iff.mp hsplit
    obtain ⟨moment, later, rfl, rfl, rfl⟩ := List.map_eq_cons_iff.mp hrest
    obtain ⟨hmatches, hchanges, -⟩ := hlog.traces.matches_at (Account.matches_start memory)
    refine hchanges.lawful hmatches fun x hbegan => ?_
    have hown := hlog.paysItsDues.of_append.1 x hbegan []
    rwa [List.append_nil] at hown
  · rintro before ⟨after, rfl⟩
    obtain ⟨hmatches, -⟩ := hlog.traces.matches_at (Account.matches_start memory)
    exact ⟨hmatches.count, hmatches.nodup, hmatches.disconnect_iff⟩

/-- A slot that counts its calls and disconnects itself at the second one is called twice. -/
example :
    let counting : Slot Nat := ⟨"counting", .inTurn (.remember (· + 1))
      (.recalling fun calls _ => if calls = 2 then .disconnect 0 else .none)⟩
    (answers [.connect counting, .emit 7, .emit 8, .emit 9] (empty 0)).flatMap SignalAnswer.told
      = [⟨0, "counting", 7⟩, ⟨0, "counting", 8⟩] := rfl

end Bouquet.Signal
