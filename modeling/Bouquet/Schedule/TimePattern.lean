import Bouquet.Schedule.Calendar
import Bouquet.Text.Blank

/-!
# Time patterns

A time pattern is a text in which a percent sign introduces a field of a clock reading. A pattern
with an unknown field is no pattern at all, and hours and minutes are shown instead.

## Main definitions

- `TimeItem`: literal text or a field
- `readPattern?`: the items of a pattern, absent for an invalid one
- `TimeItem.render`: the text of an item
- `formatTime`: a reading through a pattern, or through hours and minutes
-/

namespace Bouquet

/-! ## Items -/

/-- What fills a numeric field up to its width. -/
inductive Padding where
  | none
  | zero
  | space
  deriving DecidableEq

/-- A field that is a number and takes a padding. -/
inductive NumericField where
  | year
  | century
  | yearOfCentury
  | isoYear
  | isoYearOfCentury
  | quarter
  | month
  | day
  | weekFromSunday
  | weekFromMonday
  | isoWeek
  | daysFromSunday
  | weekday
  | ordinal
  | hour
  | hour12
  | minute
  | second
  | nanosecond
  | timestamp
  deriving DecidableEq

/-- A field with a form of its own. The fraction of a second has `digits` digits; the offset shows
hours, minutes and seconds up to its precision. -/
inductive FixedField where
  | shortMonth
  | longMonth
  | shortWeekday
  | longWeekday
  | upperHalfDay
  | lowerHalfDay
  | neededFraction
  | fraction (digits : Nat) (point : Bool)
  | zoneName
  | offsetMinutes (colon : Bool)
  | offsetSeconds
  | offsetHours
  deriving DecidableEq

/-- A piece of a time pattern. -/
inductive TimeItem where
  | literal (text : List Char)
  | numeric (field : NumericField) (padding : Padding)
  | fixed (field : FixedField)
  deriving DecidableEq

namespace TimeItem

/-- A number padded with zeros. -/
def zeros (field : NumericField) : TimeItem := .numeric field .zero

/-- A number padded with blanks. -/
def spaces (field : NumericField) : TimeItem := .numeric field .space

/-- One character of literal text. -/
def char (c : Char) : TimeItem := .literal [c]

/-! ## Reading patterns -/

/-- Month, day and year of the century. -/
def slashDate : List TimeItem :=
  [zeros .month, char '/', zeros .day, char '/', zeros .yearOfCentury]

/-- Year, month and day. -/
def dashDate : List TimeItem :=
  [zeros .year, char '-', zeros .month, char '-', zeros .day]

/-- Hour and minute. -/
def hourMinute : List TimeItem :=
  [zeros .hour, char ':', zeros .minute]

/-- Hour, minute and second. -/
def clock : List TimeItem :=
  hourMinute ++ [char ':', zeros .second]

/-- The items of a one-letter field. -/
def ofLetter : Char → Option (List TimeItem)
  | 'A' => some [.fixed .longWeekday]
  | 'B' => some [.fixed .longMonth]
  | 'C' => some [zeros .century]
  | 'D' => some slashDate
  | 'F' => some dashDate
  | 'G' => some [zeros .isoYear]
  | 'H' => some [zeros .hour]
  | 'I' => some [zeros .hour12]
  | 'M' => some [zeros .minute]
  | 'P' => some [.fixed .lowerHalfDay]
  | 'R' => some hourMinute
  | 'S' => some [zeros .second]
  | 'T' => some clock
  | 'U' => some [zeros .weekFromSunday]
  | 'V' => some [zeros .isoWeek]
  | 'W' => some [zeros .weekFromMonday]
  | 'X' => some clock
  | 'Y' => some [zeros .year]
  | 'Z' => some [.fixed .zoneName]
  | 'a' => some [.fixed .shortWeekday]
  | 'b' => some [.fixed .shortMonth]
  | 'c' =>
    some ([.fixed .shortWeekday, char ' ', .fixed .shortMonth, char ' ', spaces .day, char ' ']
      ++ clock ++ [char ' ', zeros .year])
  | 'd' => some [zeros .day]
  | 'e' => some [spaces .day]
  | 'f' => some [zeros .nanosecond]
  | 'g' => some [zeros .isoYearOfCentury]
  | 'h' => some [.fixed .shortMonth]
  | 'j' => some [zeros .ordinal]
  | 'k' => some [spaces .hour]
  | 'l' => some [spaces .hour12]
  | 'm' => some [zeros .month]
  | 'n' => some [char '\n']
  | 'p' => some [.fixed .upperHalfDay]
  | 'q' => some [.numeric .quarter .none]
  | 'r' =>
    some [zeros .hour12, char ':', zeros .minute, char ':', zeros .second, char ' ',
      .fixed .upperHalfDay]
  | 's' => some [.numeric .timestamp .none]
  | 't' => some [char '\t']
  | 'u' => some [.numeric .weekday .none]
  | 'v' => some [spaces .day, char '-', .fixed .shortMonth, char '-', zeros .year]
  | 'w' => some [.numeric .daysFromSunday .none]
  | 'x' => some slashDate
  | 'y' => some [zeros .yearOfCentury]
  | 'z' => some [.fixed (.offsetMinutes false)]
  | '+' =>
    some (dashDate ++ [char 'T'] ++ clock ++ [.fixed .neededFraction, .fixed (.offsetMinutes true)])
  | '%' => some [char '%']
  | _ => none

/-- The field that begins a text after its percent sign and padding flag: its items and the rest
of the text. -/
def readField : List Char → Option (List TimeItem × List Char)
  | ':' :: ':' :: ':' :: 'z' :: rest => some ([.fixed .offsetHours], rest)
  | ':' :: ':' :: 'z' :: rest => some ([.fixed .offsetSeconds], rest)
  | ':' :: 'z' :: rest => some ([.fixed (.offsetMinutes true)], rest)
  | '.' :: '3' :: 'f' :: rest => some ([.fixed (.fraction 3 true)], rest)
  | '.' :: '6' :: 'f' :: rest => some ([.fixed (.fraction 6 true)], rest)
  | '.' :: '9' :: 'f' :: rest => some ([.fixed (.fraction 9 true)], rest)
  | '.' :: 'f' :: rest => some ([.fixed .neededFraction], rest)
  | '3' :: 'f' :: rest => some ([.fixed (.fraction 3 false)], rest)
  | '6' :: 'f' :: rest => some ([.fixed (.fraction 6 false)], rest)
  | '9' :: 'f' :: rest => some ([.fixed (.fraction 9 false)], rest)
  | c :: rest => (ofLetter c).map fun items => (items, rest)
  | [] => none

/-- The padding that a flag asks for. -/
def paddingOfFlag : Char → Option Padding
  | '-' => some .none
  | '0' => some .zero
  | '_' => some .space
  | _ => none

/-- Another padding for a field, which has to be a single number. -/
def repad (padding : Padding) : List TimeItem → Option (List TimeItem)
  | [.numeric field _] => some [.numeric field padding]
  | _ => none

/-- A field with its optional padding flag. -/
def readFlagged : List Char → Option (List TimeItem × List Char)
  | [] => none
  | c :: rest =>
    match paddingOfFlag c with
    | some padding => do
      let (items, rest) ← readField rest
      let items ← repad padding items
      pure (items, rest)
    | none => readField (c :: rest)

/-- The items of a pattern. The fuel bounds the number of items, and the length of the pattern
does. -/
def readWithin : Nat → List Char → Option (List TimeItem)
  | _, [] => some []
  | 0, _ :: _ => none
  | fuel + 1, '%' :: rest => do
    let (items, rest) ← readFlagged rest
    let later ← readWithin fuel rest
    pure (items ++ later)
  | fuel + 1, c :: rest => do
    let later ← readWithin fuel rest
    pure (char c :: later)

/-! ## Rendering -/

/-- The decimal digits of a number. -/
def digits (n : Nat) : List Char := Nat.toDigits 10 n

/-- Text filled up on the left to a width. -/
def fill (c : Char) (width : Nat) (text : List Char) : List Char :=
  List.replicate (width - text.length) c ++ text

/-- A number of at most one byte in two places. Beyond 99 the tens go on past the digit nine in
code point order. -/
def twoPlaces (padding : Padding) (n : Nat) : List Char :=
  let tens := n / 10
  let ones := Char.ofNat (48 + n % 10)
  if tens == 0 then
    match padding with
    | .none => [ones]
    | .zero => ['0', ones]
    | .space => [' ', ones]
  else [Char.ofNat (48 + tens), ones]

/-- A number in `width` places. With `signed` it carries its sign in one place more; the sign
stands before zeros and after blanks. -/
def places (width : Nat) (padding : Padding) (signed : Bool) (n : Int) : List Char :=
  let sign : List Char := if n < 0 then ['-'] else if signed then ['+'] else []
  let width := if signed then width + 1 else width
  let magnitude := digits n.natAbs
  match padding with
  | .none => sign ++ magnitude
  | .zero => sign ++ fill '0' (width - sign.length) magnitude
  | .space => fill ' ' width (sign ++ magnitude)

/-- A year in four places; one outside of 0 to 9999 carries a sign. -/
def yearPlaces (padding : Padding) (year : Int) : List Char :=
  places 4 padding (year < 0 || 9999 < year) year

/-- The text of a numeric field. -/
def renderNumeric (r : Reading) (padding : Padding) : NumericField → List Char
  | .year => yearPlaces padding r.date.year
  | .century => twoPlaces padding ((r.date.year.fdiv 100) % 256).toNat
  | .yearOfCentury => twoPlaces padding (r.date.year % 100).toNat
  | .isoYear => yearPlaces padding r.date.isoWeek.1
  | .isoYearOfCentury => twoPlaces padding (r.date.isoWeek.1 % 100).toNat
  | .quarter => digits r.date.quarter
  | .month => twoPlaces padding r.date.month
  | .day => twoPlaces padding r.date.day
  | .weekFromSunday => twoPlaces padding (r.date.weekFrom r.date.weekdayFromSunday)
  | .weekFromMonday => twoPlaces padding (r.date.weekFrom r.date.weekday)
  | .isoWeek => twoPlaces padding r.date.isoWeek.2
  | .daysFromSunday => digits r.date.weekdayFromSunday
  | .weekday => digits (r.date.weekday + 1)
  | .ordinal => places 3 padding false r.date.ordinal
  | .hour => twoPlaces padding r.hour
  | .hour12 => twoPlaces padding r.hour12
  | .minute => twoPlaces padding r.minute
  | .second => twoPlaces padding r.second
  | .nanosecond => places 9 padding false r.nano
  | .timestamp => places 9 padding false r.timestamp

/-- The first `count` digits of a fraction of a second. -/
def fractionDigits (count nano : Nat) : List Char :=
  fill '0' count (digits (nano / Nat.pow 10 (9 - count)))

/-- The fraction in as many groups of three digits as it needs, after a point; nothing for a whole
second. -/
def neededFraction (nano : Nat) : List Char :=
  if nano == 0 then []
  else if nano % 1000000 == 0 then '.' :: fractionDigits 3 nano
  else if nano % 1000 == 0 then '.' :: fractionDigits 6 nano
  else '.' :: fractionDigits 9 nano

/-- The sign of an offset; zero is positive. -/
def offsetSign (offset : Int) : Char :=
  if offset < 0 then '-' else '+'

/-- Hours and minutes of an offset, the magnitude rounded to the minute with a half going up. -/
def offsetMinutes (colon : Bool) (offset : Int) : List Char :=
  let minutes := (offset.natAbs + 30) / 60
  offsetSign offset :: twoPlaces .zero (minutes / 60)
    ++ (if colon then [':'] else []) ++ twoPlaces .zero (minutes % 60)

/-- Hours, minutes and seconds of an offset. -/
def offsetSeconds (offset : Int) : List Char :=
  let seconds := offset.natAbs
  offsetSign offset :: twoPlaces .zero (seconds / 3600)
    ++ [':'] ++ twoPlaces .zero (seconds / 60 % 60) ++ [':'] ++ twoPlaces .zero (seconds % 60)

/-- The text of a field with a form of its own. A zone has no other name than its offset, with the
seconds only where there are any. -/
def renderFixed (r : Reading) : FixedField → List Char
  | .shortMonth => r.date.monthName.toList.take 3
  | .longMonth => r.date.monthName.toList
  | .shortWeekday => r.date.weekdayName.toList.take 3
  | .longWeekday => r.date.weekdayName.toList
  | .upperHalfDay => if r.isAfternoon then ['P', 'M'] else ['A', 'M']
  | .lowerHalfDay => if r.isAfternoon then ['p', 'm'] else ['a', 'm']
  | .neededFraction => neededFraction r.nano
  | .fraction count point => (if point then ['.'] else []) ++ fractionDigits count r.nano
  | .zoneName =>
    if r.offset % 60 == 0 then offsetMinutes true r.offset else offsetSeconds r.offset
  | .offsetMinutes colon => offsetMinutes colon r.offset
  | .offsetSeconds => offsetSeconds r.offset
  | .offsetHours => offsetSign r.offset :: twoPlaces .zero (r.offset.natAbs / 3600)

/-- The text of an item. -/
def render (r : Reading) : TimeItem → List Char
  | .literal text => text
  | .numeric field padding => renderNumeric r padding field
  | .fixed field => renderFixed r field

end TimeItem

/-! ## Formatting -/

/-- The items of a pattern, or `none` for an invalid one. -/
def readPattern? (pattern : String) : Option (List TimeItem) :=
  TimeItem.readWithin pattern.toList.length pattern.toList

/-- A reading through a pattern; hours and minutes where the pattern is invalid. -/
def formatTime (pattern : String) (r : Reading) : String :=
  String.ofList (((readPattern? pattern).getD TimeItem.hourMinute).flatMap (TimeItem.render r))

end Bouquet
