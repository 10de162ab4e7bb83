import Bouquet.Numeric.Binary32
import Bouquet.Schedule.Instant

/-!
# Events

A scheduled event of a service, how much of it has passed, and how much is left.

## Main definitions

- `Event.progressAt`: the elapsed fraction of a running event
- `Event.remainingMinutes`: the minutes left, rounded up
-/

namespace Bouquet

/-- An event of the program guide. -/
structure Event where
  title : String
  start : Instant
  duration : Span
  deriving DecidableEq, Inhabited

/-- Which event of a service is asked for. -/
inductive EventSlot where
  | now
  | next
  deriving DecidableEq

namespace Event

/-- When the event is over. -/
def stop (e : Event) : Except Fault Instant :=
  e.start.after e.duration

/-- Whether the event runs at `now`: whole seconds have passed since its start, no more than its
duration has, and the duration has at least one. -/
def isRunningAt (e : Event) (now : Instant) : Bool :=
  let elapsed := (now.since e.start).seconds
  0 < e.duration.seconds && 0 ≤ elapsed && elapsed ≤ e.duration.seconds

/-- The elapsed fraction at `now`, from zero to one; `none` when the event is not running. -/
def progressAt (e : Event) (now : Instant) : Option Float32 :=
  if e.isRunningAt now then
    some (Binary32.quotient (now.since e.start).seconds.toNat e.duration.seconds.toNat)
  else none

/-- The minutes left at `now`, rounded up; `none` when the event is not running. -/
def remainingMinutes (e : Event) (now : Instant) : Except Fault (Option Int) :=
  if e.isRunningAt now then do
    let stop ← e.stop
    pure (some (((stop.since now).seconds + 59).tdiv 60))
  else pure none

end Event

end Bouquet
