import Bouquet.Schedule.Calendar
import Bouquet.Toml.Digit
import Bouquet.Toml.Item

/-!
# Numbers and date-times in TOML

Reading integers, floats, dates and times from the start of the input.

## Main definitions

- `readInteger`, `readFloat`, `readDateTime`
- `readNumeric`: whichever of them the input starts with
-/

namespace Bouquet.Toml

/-! ## Digits -/

/-- The digits that go on here, each with at most one underscore before it, and the rest. -/
def moreDigits (base : Nat) : List Char → List Char × List Char
  | '_' :: c :: rest =>
    if isDigitOf base c then
      let (digits, rest) := moreDigits base rest
      (c :: digits, rest)
    else ([], '_' :: c :: rest)
  | c :: rest =>
    if isDigitOf base c then
      let (digits, rest) := moreDigits base rest
      (c :: digits, rest)
    else ([], c :: rest)
  | [] => ([], [])

/-- One digit or more. -/
def readDigits (base : Nat) : List Char → Option (List Char × List Char)
  | [] => none
  | c :: rest =>
    if isDigitOf base c then
      let (digits, rest) := moreDigits base rest
      some (c :: digits, rest)
    else none

/-- A sign and the rest; the flag is set for a minus. -/
def readSign : List Char → Bool × List Char
  | '-' :: rest => (true, rest)
  | '+' :: rest => (false, rest)
  | input => (false, input)

/-- A whole number in decimal digits: a zero stands alone. -/
def readWhole : List Char → Option (List Char × List Char)
  | '0' :: rest => some (['0'], rest)
  | input => readDigits 10 input

/-! ## Integers -/

/-- The smallest integer of 64 bits. -/
def minInteger : Int := -9223372036854775808

/-- The largest integer of 64 bits. -/
def maxInteger : Int := 9223372036854775807

/-- An integer of 64 bits with the rest of the input. -/
def asInteger (value : Int) (rest : List Char) : Option (Item × List Char) :=
  if minInteger ≤ value ∧ value ≤ maxInteger then some (.integer value, rest) else none

/-- The digits of a prefixed integer. -/
def readBased (base : Nat) (input : List Char) : Option (Item × List Char) := do
  let (digits, rest) ← readDigits base input
  asInteger (numberOf base digits) rest

/-- An integer: decimal with an optional sign, or hexadecimal, octal or binary after its mark. -/
def readInteger : List Char → Option (Item × List Char)
  | '0' :: 'x' :: rest => readBased 16 rest
  | '0' :: 'o' :: rest => readBased 8 rest
  | '0' :: 'b' :: rest => readBased 2 rest
  | input => do
    let (negative, rest) := readSign input
    let (digits, rest) ← readWhole rest
    let magnitude : Int := numberOf 10 digits
    asInteger (if negative then -magnitude else magnitude) rest

/-! ## Floats -/

/-- Whether `digits * 10 ^ exponent` rounds to infinity in binary64. The bound is half a unit above
the largest finite number. Only exponents near it need exact arithmetic. -/
def overflows (digits : Nat) (exponent : Int) : Bool :=
  let places := ((Nat.toDigits 10 digits).length : Int) + exponent
  if digits == 0 || places < 300 then false
  else if 400 < places then true
  else
    (Nat.pow 2 1024 - Nat.pow 2 970) * Nat.pow 10 (-exponent).toNat
      ≤ digits * Nat.pow 10 exponent.toNat

/-- A fraction after its point: the digits, and the rest. -/
def readFraction : List Char → Option (List Char × List Char)
  | '.' :: rest => readDigits 10 rest
  | _ => none

/-- An exponent after its letter. -/
def readExponent : List Char → Option (Int × List Char)
  | [] => none
  | c :: rest =>
    if c == 'e' || c == 'E' then do
      let (negative, rest) := readSign rest
      let (digits, rest) ← readDigits 10 rest
      let magnitude : Int := numberOf 10 digits
      pure (if negative then -magnitude else magnitude, rest)
    else none

/-- The part of the input before `rest`, which is its end. -/
def consumed (input rest : List Char) : String :=
  String.ofList (input.take (input.length - rest.length))

/-- Infinity or not a number. -/
def readSpecial (input : List Char) : Option (Item × List Char) :=
  match (readSign input).2 with
  | 'i' :: 'n' :: 'f' :: rest => some (.float (consumed input rest), rest)
  | 'n' :: 'a' :: 'n' :: rest => some (.float (consumed input rest), rest)
  | _ => none

/-- A float with a fraction, an exponent or both. A positive one has to stay below infinity. -/
def readDecimal (input : List Char) : Option (Item × List Char) := do
  let (negative, rest) := readSign input
  let (whole, rest) ← readWhole rest
  let (fraction, rest, isFloat) :=
    match readFraction rest with
    | some (fraction, rest) => (fraction, rest, true)
    | none => ([], rest, false)
  let (exponent, rest, isFloat) :=
    match readExponent rest with
    | some (exponent, rest) => (exponent, rest, true)
    | none => (0, rest, isFloat)
  if !isFloat then none
  else if !negative && overflows (numberOf 10 (whole ++ fraction)) (exponent - fraction.length) then
    none
  else some (.float (consumed input rest), rest)

/-- A float. -/
def readFloat (input : List Char) : Option (Item × List Char) :=
  (readDecimal input).or (readSpecial input)

/-! ## Dates and times -/

/-- Exactly `count` decimal digits as a number. -/
def readFixed : Nat → List Char → Option (Nat × List Char)
  | 0, input => some (0, input)
  | count + 1, input =>
    match input with
    | [] => none
    | c :: rest => do
      let value ← digitValue? 10 c
      let (later, rest) ← readFixed count rest
      pure (value * Nat.pow 10 count + later, rest)

/-- Two digits between two bounds. -/
def readPair (lo hi : Nat) (input : List Char) : Option (Nat × List Char) :=
  (readFixed 2 input).filter fun (value, _) => lo ≤ value && value ≤ hi

/-- The input after a given character. -/
def expect (mark : Char) : List Char → Option (List Char)
  | [] => none
  | c :: rest => if c == mark then some rest else none

/-- Year, month and day; the rest of the input. -/
def readDate (input : List Char) : Option (List Char) := do
  let (year, rest) ← readFixed 4 input
  let rest ← expect '-' rest
  let (month, rest) ← readPair 1 12 rest
  let rest ← expect '-' rest
  let (_, rest) ← readPair 1 (Date.daysIn year month) rest
  pure rest

/-- The rest of the input after a fraction of a second, if there is one. -/
def dropFraction : List Char → List Char
  | '.' :: c :: rest =>
    if isDigitOf 10 c then rest.dropWhile (isDigitOf 10) else '.' :: c :: rest
  | input => input

/-- Hour, minute and second; the rest of the input. -/
def readTime (input : List Char) : Option (List Char) := do
  let (_, rest) ← readPair 0 23 input
  let rest ← expect ':' rest
  let (_, rest) ← readPair 0 59 rest
  let rest ← expect ':' rest
  let (_, rest) ← readPair 0 60 rest
  pure (dropFraction rest)

/-- The distance to universal time; the rest of the input. -/
def readOffset : List Char → Option (List Char)
  | [] => none
  | c :: rest =>
    if c == 'Z' || c == 'z' then some rest
    else if c == '+' || c == '-' then do
      let (_, rest) ← readPair 0 23 rest
      let rest ← expect ':' rest
      let (_, rest) ← readPair 0 59 rest
      pure rest
    else none

/-- The rest of the input after a time that follows a date, if there is one. -/
def dropTime (input : List Char) : List Char :=
  match input with
  | [] => []
  | c :: rest =>
    if c == 'T' || c == 't' || c == ' ' then
      match readTime rest with
      | some rest => (readOffset rest).getD rest
      | none => input
    else input

/-- A date, a time of day, or both with an optional offset. -/
def readDateTime (input : List Char) : Option (Item × List Char) :=
  let rest :=
    match readDate input with
    | some rest => some (dropTime rest)
    | none => readTime input
  rest.map fun rest => (.dateTime (consumed input rest), rest)

/-- The number or date-time at the start of the input. -/
def readNumeric (input : List Char) : Option (Item × List Char) :=
  ((readDateTime input).or (readFloat input)).or (readInteger input)

end Bouquet.Toml
