import Bouquet.Toml.Digit

/-!
# Quoted text in TOML

The four quoted forms: basic and literal, each on one line or on several. A basic form knows
escapes, a literal form takes every character as it stands.

## Main definitions

- `readQuoted`: the text at the start of the input and what follows it
- `writeQuoted`: a text in the plainest form that can hold it
-/

namespace Bouquet.Toml

/-- The quotation mark of the basic forms. -/
def doubleQuote : Char := '\x22'

/-- The quotation mark of the literal forms. -/
def singleQuote : Char := '\x27'

/-- Whether a character may stand in a line: the tab, and everything but control characters. -/
def isPlain (c : Char) : Bool :=
  c == '\t' || (0x20 ≤ c.toNat && c.toNat != 0x7F)

/-- Whether a character is a blank inside a line. -/
def isSpace (c : Char) : Bool := c == ' ' || c == '\t'

/-- The character whose code point hexadecimal digits write. -/
def scalar? (digits : List Char) : Option Char :=
  let code := numberOf 16 digits
  if digits.all (isDigitOf 16) && decide code.isValidChar then some (Char.ofNat code) else none

/-- The character that a one-letter escape stands for. -/
def escaped? (c : Char) : Option Char :=
  if c == 'b' then some '\x08'
  else if c == 't' then some '\t'
  else if c == 'n' then some '\n'
  else if c == 'f' then some '\x0c'
  else if c == 'r' then some '\r'
  else if c == doubleQuote then some doubleQuote
  else if c == '\\' then some '\\'
  else none

/-- A text and what follows it, with one character more in front. -/
def withChar (c : Char) (read : List Char × List Char) : List Char × List Char :=
  (c :: read.1, read.2)

/-! ## Reading -/

/-- The rest of a basic text on one line. -/
def readBasic : List Char → Option (List Char × List Char)
  | [] => none
  | '\\' :: 'u' :: a :: b :: c :: d :: rest => do
    let char ← scalar? [a, b, c, d]
    let read ← readBasic rest
    pure (withChar char read)
  | '\\' :: 'U' :: a :: b :: c :: d :: e :: f :: g :: h :: rest => do
    let char ← scalar? [a, b, c, d, e, f, g, h]
    let read ← readBasic rest
    pure (withChar char read)
  | '\\' :: letter :: rest => do
    let char ← escaped? letter
    let read ← readBasic rest
    pure (withChar char read)
  | c :: rest =>
    if c == doubleQuote then some ([], rest)
    else if c != '\\' && isPlain c then (readBasic rest).map (withChar c)
    else none

/-- The rest of a literal text on one line. -/
def readLiteral : List Char → Option (List Char × List Char)
  | [] => none
  | c :: rest =>
    if c == singleQuote then some ([], rest)
    else if isPlain c then (readLiteral rest).map (withChar c)
    else none

/-- Whether a line ends here, blanks aside. -/
def endsLine (input : List Char) : Bool :=
  match input.dropWhile isSpace with
  | '\n' :: _ => true
  | '\r' :: '\n' :: _ => true
  | _ => false

/-- The rest of a basic text on several lines. A backslash at the end of a line starts `skipping`:
all blanks and line ends up to the next other character are left out. Up to two quotation marks
may stand before the three that close the text. -/
def readLongBasic (skipping : Bool) : List Char → Option (List Char × List Char)
  | [] => none
  | '\x22' :: '\x22' :: '\x22' :: '\x22' :: '\x22' :: rest =>
    some ([doubleQuote, doubleQuote], rest)
  | '\x22' :: '\x22' :: '\x22' :: '\x22' :: rest => some ([doubleQuote], rest)
  | '\x22' :: '\x22' :: '\x22' :: rest => some ([], rest)
  | '\r' :: '\n' :: rest =>
    if skipping then readLongBasic true rest
    else (readLongBasic false rest).map (withChar '\n')
  | '\\' :: 'u' :: a :: b :: c :: d :: rest => do
    let char ← scalar? [a, b, c, d]
    let read ← readLongBasic false rest
    pure (withChar char read)
  | '\\' :: 'U' :: a :: b :: c :: d :: e :: f :: g :: h :: rest => do
    let char ← scalar? [a, b, c, d, e, f, g, h]
    let read ← readLongBasic false rest
    pure (withChar char read)
  | '\\' :: letter :: rest =>
    if endsLine (letter :: rest) then readLongBasic true (letter :: rest)
    else do
      let char ← escaped? letter
      let read ← readLongBasic false rest
      pure (withChar char read)
  | c :: rest =>
    if skipping && (isSpace c || c == '\n') then readLongBasic true rest
    else if c == '\n' || (c != '\\' && isPlain c) then
      (readLongBasic false rest).map (withChar c)
    else none

/-- The rest of a literal text on several lines. -/
def readLongLiteral : List Char → Option (List Char × List Char)
  | [] => none
  | '\x27' :: '\x27' :: '\x27' :: '\x27' :: '\x27' :: rest =>
    some ([singleQuote, singleQuote], rest)
  | '\x27' :: '\x27' :: '\x27' :: '\x27' :: rest => some ([singleQuote], rest)
  | '\x27' :: '\x27' :: '\x27' :: rest => some ([], rest)
  | '\r' :: '\n' :: rest => (readLongLiteral rest).map (withChar '\n')
  | c :: rest =>
    if c == '\n' || isPlain c then (readLongLiteral rest).map (withChar c) else none

/-- The input after a line end, if it starts with one. -/
def dropLineEnd : List Char → List Char
  | '\n' :: rest => rest
  | '\r' :: '\n' :: rest => rest
  | input => input

/-- The quoted text at the start of the input, and what follows it. A line end right after three
opening marks is no part of the text. -/
def readQuoted : List Char → Option (List Char × List Char)
  | '\x22' :: '\x22' :: '\x22' :: rest => readLongBasic false (dropLineEnd rest)
  | '\x22' :: rest => readBasic rest
  | '\x27' :: '\x27' :: '\x27' :: rest => readLongLiteral (dropLineEnd rest)
  | '\x27' :: rest => readLiteral rest
  | _ => none

/-! ## Writing -/

/-- Whether a character can only be written as an escape: a control character other than the tab
and the line feed. -/
def needsEscape (c : Char) : Bool :=
  (c.toNat < 0x20 && c != '\t' && c != '\n') || c.toNat == 0x7F

/-- The length of the longest run of a character, given the length of the run that is open and of
the longest so far. -/
def longestRunFrom (mark : Char) (running best : Nat) : List Char → Nat
  | [] => best
  | c :: rest =>
    if c == mark then longestRunFrom mark (running + 1) (max best (running + 1)) rest
    else longestRunFrom mark 0 best rest

/-- The length of the longest run of a character. -/
def longestRun (mark : Char) (text : List Char) : Nat :=
  longestRunFrom mark 0 0 text

/-- An upper-case hexadecimal digit. -/
def hexDigit (n : Nat) : Char :=
  if n < 10 then Char.ofNat (48 + n) else Char.ofNat (55 + n)

/-- A character inside a basic text, apart from quotation marks and line feeds. -/
def writeChar (c : Char) : List Char :=
  if c == '\x08' then ['\\', 'b']
  else if c == '\t' then ['\\', 't']
  else if c == '\x0c' then ['\\', 'f']
  else if c == '\r' then ['\\', 'r']
  else if c == '\\' then ['\\', '\\']
  else if needsEscape c then
    ['\\', 'u', '0', '0', hexDigit (c.toNat / 16), hexDigit (c.toNat % 16)]
  else [c]

/-- The inside of a basic text on one line. -/
def writeBasic : List Char → List Char
  | [] => []
  | c :: rest =>
    (if c == doubleQuote then ['\\', doubleQuote]
      else if c == '\n' then ['\\', 'n']
      else writeChar c) ++ writeBasic rest

/-- The inside of a basic text on several lines: of three quotation marks in a row the third is
escaped, and then counting starts again. -/
def writeLongBasic (marks : Nat) : List Char → List Char
  | [] => []
  | c :: rest =>
    if c == doubleQuote then
      if marks == 2 then ['\\', doubleQuote] ++ writeLongBasic 0 rest
      else doubleQuote :: writeLongBasic (marks + 1) rest
    else if c == '\n' then '\n' :: writeLongBasic 0 rest
    else writeChar c ++ writeLongBasic 0 rest

/-- A text between two equal delimiters. -/
def enclose (delimiter body : List Char) : List Char :=
  delimiter ++ body ++ delimiter

/-- A text in the plainest form that can hold it: basic when nothing needs an escape, then literal,
then the forms on several lines, and a basic form with escapes when all else fails. -/
def writeQuoted (text : List Char) : List Char :=
  let escape := text.any needsEscape
  let lines := text.contains '\n'
  let backslash := text.contains '\\'
  let double := longestRun doubleQuote text
  let single := longestRun singleQuote text
  let lead : List Char := if lines then ['\n'] else []
  let one := [doubleQuote]
  let three := [doubleQuote, doubleQuote, doubleQuote]
  if !escape && !backslash && double == 0 && !lines then enclose one (writeBasic text)
  else if !escape && single == 0 && !lines then enclose [singleQuote] text
  else if !escape && !backslash && double ≤ 2 then enclose three (lead ++ writeLongBasic 0 text)
  else if !escape && single ≤ 2 then
    enclose [singleQuote, singleQuote, singleQuote] (lead ++ text)
  else if lines then enclose three (lead ++ writeLongBasic 0 text)
  else enclose one (writeBasic text)

end Bouquet.Toml
