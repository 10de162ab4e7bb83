import Bouquet.Fault

/-!
# Instants and spans

Time is counted in seconds from the start of 1970 in universal time, with 86400 seconds to a day,
and in nanoseconds within a second. A leap second has no number of its own. It prolongs the second
before it, whose nanoseconds then go on up to two billion.

## Main definitions

- `Instant`, `Span`
- `Instant.since`: the span between two instants
- `Instant.later`, `Instant.after`: the instant a span later
-/

namespace Bouquet

/-- Nanoseconds in a second. -/
def nanosPerSecond : Int := 1000000000

/-! ## Spans -/

/-- A length of time in nanoseconds, which may be negative. -/
structure Span where
  nanos : Int
  deriving DecidableEq, Inhabited

/-- Whole seconds of a span; a fraction is dropped toward zero. -/
def Span.seconds (s : Span) : Int := s.nanos.tdiv nanosPerSecond

/-- What a span has besides its whole seconds, with the sign of the span. -/
def Span.rest (s : Span) : Int := s.nanos.tmod nanosPerSecond

/-! ## Instants -/

/-- A point in time: a second since the epoch and the nanoseconds since that second. From a full
second on these lie in a leap second. -/
structure Instant where
  second : Int
  fraction : Fin 2000000000
  deriving DecidableEq, Inhabited

namespace Instant

/-- The instant at a second and a fraction in nanoseconds. -/
def ofParts (second fraction : Int) : Instant := ⟨second, Fin.ofNat _ fraction.toNat⟩

/-- The instant outside of leap seconds that lies so many nanoseconds after the epoch. -/
def ofNanos (nanos : Int) : Instant :=
  ofParts (nanos / nanosPerSecond) (nanos % nanosPerSecond)

/-- The nanoseconds since the epoch. A leap second shares its own with the second after it. -/
def nanos (t : Instant) : Int := t.second * nanosPerSecond + t.fraction.val

/-- Whether the instant lies in a leap second. -/
def isLeap (t : Instant) : Bool := nanosPerSecond ≤ t.fraction.val

/-- The seconds since the start of the day. -/
def secondOfDay (t : Instant) : Int := t.second % 86400

/-- The leap second to count between two instants: one at an instant that is earlier in the day
than the other. Which days they are on does not matter. -/
def leapBetween (t earlier : Instant) : Int :=
  if earlier.secondOfDay < t.secondOfDay ∧ earlier.isLeap then 1
  else if t.secondOfDay < earlier.secondOfDay ∧ t.isLeap then -1
  else 0

/-- The time from `earlier` to `t`. -/
def since (t earlier : Instant) : Span :=
  ⟨t.nanos - earlier.nanos + t.leapBetween earlier * nanosPerSecond⟩

/-- The instant a span later. From a leap second a span leads on as from the second that it
prolongs, and back as from the second after it, unless it ends in the leap second itself. -/
def later (t : Instant) (s : Span) : Instant :=
  if t.isLeap then
    if 0 < s.seconds ∨ 2000000000 ≤ t.fraction.val + s.rest then
      ofNanos (t.nanos - nanosPerSecond + s.nanos)
    else if s.seconds < 0 then ofNanos (t.nanos + s.nanos)
    else ofParts t.second (t.fraction.val + s.rest)
  else ofNanos (t.nanos + s.nanos)

/-- The first second that the calendar covers, at the start of the year -262143. -/
def firstSecond : Int := -8334601228800

/-- The last second that the calendar covers, at the end of the year 262142. -/
def lastSecond : Int := 8210266876799

/-- Whether the calendar covers the instant. -/
def inRange (t : Instant) : Bool := firstSecond ≤ t.second && t.second ≤ lastSecond

/-- The instant a span later, which the calendar has to cover. -/
def after (t : Instant) (s : Span) : Except Fault Instant :=
  if (t.later s).inRange then .ok (t.later s) else .error .instantOutOfRange

end Instant

end Bouquet
