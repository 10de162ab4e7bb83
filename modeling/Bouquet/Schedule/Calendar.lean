import Bouquet.Schedule.Instant

/-!
# The calendar

The proleptic Gregorian calendar over all days, and the clock reading of an instant.

## Main definitions

- `Date.ofDayNumber`: the date of a day counted from the epoch
- `Date.weekday`, `Date.isoWeek`, `Date.weekFrom`: week reckoning
- `Reading`: date and time of day at an offset from universal time
-/

namespace Bouquet

/-! ## Dates -/

/-- A date. `day` counts from one, `ordinal` is the day of the year, `number` the day since the
epoch. -/
structure Date where
  year : Int
  month : Nat
  day : Nat
  ordinal : Nat
  number : Int

namespace Date

/-- Whether a year has 366 days. -/
def isLeap (year : Int) : Bool :=
  year % 4 == 0 && (year % 100 != 0 || year % 400 == 0)

/-- The number of days of a month. -/
def daysIn (year : Int) (month : Nat) : Nat :=
  if month == 2 then (if isLeap year then 29 else 28)
  else if month == 4 || month == 6 || month == 9 || month == 11 then 30
  else 31

/-- The number of days of a year. -/
def yearLength (year : Int) : Nat :=
  if isLeap year then 366 else 365

/-- The number of days from the epoch to the first day of a year. -/
def yearStart (year : Int) : Int :=
  let before := year - 1
  365 * before + before.fdiv 4 - before.fdiv 100 + before.fdiv 400 - 719162

/-- The year that holds a day. The mean length of a year gives a guess that is at most one year
off. -/
def yearOf (number : Int) : Int :=
  let guess := ((number + 719162) * 400).fdiv 146097 + 1
  if number < yearStart guess then guess - 1
  else if yearStart (guess + 1) ≤ number then guess + 1
  else guess

/-- The month and the day of the month of the day `left` days after the first one of a list of
months. -/
def monthFrom (year : Int) (left : Nat) : List Nat → Nat × Nat
  | [] => (12, left + 1)
  | month :: later =>
    if left < daysIn year month || later.isEmpty then (month, left + 1)
    else monthFrom year (left - daysIn year month) later

/-- The date of the day that lies `number` days after the epoch. -/
def ofDayNumber (number : Int) : Date :=
  let year := yearOf number
  let index := (number - yearStart year).toNat
  let (month, day) := monthFrom year index [1, 2, 3, 4, 5, 6, 7, 8, 9, 10, 11, 12]
  { year := year, month := month, day := day, ordinal := index + 1, number := number }

/-- Days since Monday. The epoch was a Thursday. -/
def weekday (d : Date) : Nat :=
  ((d.number + 3) % 7).toNat

/-- Days since Sunday. -/
def weekdayFromSunday (d : Date) : Nat :=
  (d.weekday + 1) % 7

/-- The week of the year when a week begins `sinceStart` days ago; the days before the first such
week are week zero. -/
def weekFrom (d : Date) (sinceStart : Nat) : Nat :=
  (d.ordinal + 6 - sinceStart) / 7

/-- The year and the number of the ISO week: the year is the one that holds the Thursday of the
week. -/
def isoWeek (d : Date) : Int × Nat :=
  let thursday := d.number - d.weekday + 3
  let year := yearOf thursday
  (year, (thursday - yearStart year).toNat / 7 + 1)

/-- The quarter of the year. -/
def quarter (d : Date) : Nat :=
  (d.month - 1) / 3 + 1

/-- The names of the weekdays from Monday on. -/
def weekdayNames : List String :=
  ["Monday", "Tuesday", "Wednesday", "Thursday", "Friday", "Saturday", "Sunday"]

/-- The names of the months. -/
def monthNames : List String :=
  ["January", "February", "March", "April", "May", "June", "July", "August", "September",
    "October", "November", "December"]

/-- The name of the weekday. -/
def weekdayName (d : Date) : String :=
  weekdayNames.getD d.weekday ""

/-- The name of the month. -/
def monthName (d : Date) : String :=
  monthNames.getD (d.month - 1) ""

end Date

/-! ## Clock readings -/

/-- What calendar and clock show. `offset` is the distance to universal time in seconds, east
positive. In a leap second `second` is one more than the second that it prolongs, so that it may be
60. -/
structure Reading where
  date : Date
  hour : Nat
  minute : Nat
  second : Nat
  nano : Nat
  offset : Int
  timestamp : Int

/-- The reading of an instant at an offset. -/
def Reading.ofInstant (t : Instant) (offset : Int) : Reading :=
  let shown := t.second + offset
  let clock := (shown % 86400).toNat
  { date := Date.ofDayNumber (shown.fdiv 86400)
    hour := clock / 3600
    minute := clock / 60 % 60
    second := clock % 60 + t.fraction.val / 1000000000
    nano := t.fraction.val % 1000000000
    offset := offset
    timestamp := t.second }

/-- The hour on a twelve-hour dial. -/
def Reading.hour12 (r : Reading) : Nat :=
  if r.hour % 12 == 0 then 12 else r.hour % 12

/-- Whether the reading lies in the second half of the day. -/
def Reading.isAfternoon (r : Reading) : Bool :=
  12 ≤ r.hour

end Bouquet
