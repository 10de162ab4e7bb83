import Bouquet.Toml.Number
import Bouquet.Toml.Quoted

/-!
# Reading TOML documents

A document is a sequence of lines: key-value pairs, table headers, comments and blank lines.

## Main definitions

- `readKey`: a plain or dotted key
- `readValue`: a value, with containers nested up to a limit
- `readDocument?`: the entries of a document, absent when it is not well formed
-/

namespace Bouquet.Toml

/-! ## Blanks, comments and line ends -/

/-- The input after its leading blanks. -/
def skipSpaces (input : List Char) : List Char :=
  input.dropWhile isSpace

/-- The input after a line end. -/
def readLineEnd : List Char → Option (List Char)
  | '\n' :: rest => some rest
  | '\r' :: '\n' :: rest => some rest
  | _ => none

/-- The input after a comment, if it starts with one. -/
def skipComment : List Char → List Char
  | '#' :: rest => rest.dropWhile isPlain
  | input => input

/-- The input after the end of a line, which may hold blanks and a comment. The end of the input
ends a line too. -/
def readRestOfLine (input : List Char) : Option (List Char) :=
  match skipComment (skipSpaces input) with
  | [] => some []
  | rest => readLineEnd rest

/-- The input after blanks, comments and line ends. A comment has to be ended by its line. -/
def skipFiller : Nat → List Char → List Char
  | 0, input => input
  | fuel + 1, input =>
    match skipComment (skipSpaces input) with
    | '\n' :: rest => skipFiller fuel rest
    | '\r' :: '\n' :: rest => skipFiller fuel rest
    | _ => skipSpaces input

/-! ## Keys -/

/-- How deep containers and keys may nest. -/
def nestingLimit : Nat := 80

/-- Whether a character may stand in an unquoted key. -/
def isBare (c : Char) : Bool :=
  c.isAlphanum || c == '-' || c == '_'

/-- One part of a key: bare characters, or a quoted text on one line. -/
def readKeyPart : List Char → Option (String × List Char)
  | '\x22' :: rest => (readBasic rest).map fun (text, rest) => (String.ofList text, rest)
  | '\x27' :: rest => (readLiteral rest).map fun (text, rest) => (String.ofList text, rest)
  | input =>
    match input.takeWhile isBare with
    | [] => none
    | part => some (String.ofList part, input.dropWhile isBare)

/-- The parts of a key, joined by points. The fuel bounds their number. -/
def readKeyParts : Nat → List Char → Option (List String × List Char)
  | 0, _ => none
  | fuel + 1, input => do
    let (part, rest) ← readKeyPart (skipSpaces input)
    match skipSpaces rest with
    | '.' :: rest =>
      let (parts, rest) ← readKeyParts fuel rest
      pure (part :: parts, rest)
    | rest => pure ([part], rest)

/-- A key as the path to its last part, and that part. Blanks around it are skipped. -/
def readKey (input : List Char) : Option ((List String × String) × List Char) := do
  let (parts, rest) ← readKeyParts (nestingLimit - 1) input
  match parts.reverse with
  | [] => none
  | last :: path => pure ((path.reverse, last), rest)

/-! ## Values -/

/-- The items of an array after its opening bracket, up to and including the closing one. An item
ends with a comma or the bracket; a comma may stand before the bracket. -/
def readItems (nested : List Char → Option (Item × List Char)) :
    Nat → List Char → Option (List Item × List Char)
  | 0, _ => none
  | fuel + 1, input =>
    match skipFiller (fuel + 1) input with
    | ']' :: rest => some ([], rest)
    | start => do
      let (item, rest) ← nested start
      match skipFiller (fuel + 1) rest with
      | ',' :: rest =>
        let (items, rest) ← readItems nested fuel rest
        pure (item :: items, rest)
      | ']' :: rest => pure ([item], rest)
      | _ => none

/-- The pairs of an inline table from a key on, up to and including the closing brace, added to
the entries so far. -/
def readPairs (nested : List Char → Option (Item × List Char)) :
    Nat → Entries → List Char → Option (Entries × List Char)
  | 0, _, _ => none
  | fuel + 1, entries, input => do
    let ((path, key), rest) ← readKey input
    let rest ← expect '=' rest
    let (item, rest) ← nested (skipSpaces rest)
    let entries ← putKey path key item entries
    match skipSpaces rest with
    | ',' :: rest => readPairs nested fuel entries rest
    | '}' :: rest => pure (entries, rest)
    | _ => none

/-- A value whose containers hold what `nested` reads. -/
def readValueWith (nested : List Char → Option (Item × List Char)) (input : List Char) :
    Option (Item × List Char) :=
  match input with
  | 't' :: 'r' :: 'u' :: 'e' :: rest => some (.boolean true, rest)
  | 'f' :: 'a' :: 'l' :: 's' :: 'e' :: rest => some (.boolean false, rest)
  | '[' :: rest =>
    (readItems nested (rest.length + 1) rest).map fun (items, rest) => (.array items, rest)
  | '\x7b' :: rest =>
    match skipSpaces rest with
    | '\x7d' :: rest => some (.table .inline [], rest)
    | start =>
      (readPairs nested (start.length + 1) [] start).map fun (entries, rest) =>
        (.table .inline entries, rest)
  | _ =>
    ((readQuoted input).map fun (text, rest) => (Item.text (String.ofList text), rest)).or
      (readNumeric input)

/-- A value with at most `depth` containers around one another. -/
def readValue : Nat → List Char → Option (Item × List Char)
  | 0, input =>
    match input with
    | '[' :: _ => none
    | '\x7b' :: _ => none
    | _ => readValueWith (fun _ => none) input
  | depth + 1, input => readValueWith (readValue depth) input

/-! ## Documents -/

/-- The document so far, and the table that key-value lines go to. -/
structure Draft where
  root : Entries
  current : List String

/-- A key-value line. -/
def readPairLine (draft : Draft) (input : List Char) : Option (Draft × List Char) := do
  let ((path, key), rest) ← readKey input
  let rest ← expect '=' rest
  let (item, rest) ← readValue (nestingLimit - 1) (skipSpaces rest)
  let rest ← readRestOfLine rest
  let root ← changeAt (putKey path key item) draft.current draft.root
  pure ({ draft with root := root }, rest)

/-- The line of a table header, after its opening bracket. -/
def readTableLine (draft : Draft) (input : List Char) : Option (Draft × List Char) := do
  let ((path, key), rest) ← readKey input
  let rest ← expect ']' rest
  let rest ← readRestOfLine rest
  let root ← defineTable path key draft.root
  pure (⟨root, path ++ [key]⟩, rest)

/-- The line of a header of an array of tables, after its opening brackets. -/
def readElementLine (draft : Draft) (input : List Char) : Option (Draft × List Char) := do
  let ((path, key), rest) ← readKey input
  let rest ← expect ']' rest
  let rest ← expect ']' rest
  let rest ← readRestOfLine rest
  let root ← appendTable path key draft.root
  pure (⟨root, path ++ [key]⟩, rest)

/-- One line of a document. -/
def readLine (draft : Draft) (input : List Char) : Option (Draft × List Char) :=
  match skipSpaces input with
  | '[' :: '[' :: rest => readElementLine draft rest
  | '[' :: rest => readTableLine draft rest
  | '#' :: rest => (readRestOfLine ('#' :: rest)).map fun rest => (draft, rest)
  | '\n' :: rest => some (draft, rest)
  | '\r' :: '\n' :: rest => some (draft, rest)
  | [] => some (draft, [])
  | rest => readPairLine draft rest

/-- The lines of a document. The fuel bounds their number. -/
def readLines : Nat → Draft → List Char → Option Entries
  | _, draft, [] => some draft.root
  | 0, _, _ :: _ => none
  | fuel + 1, draft, input => do
    let (draft, rest) ← readLine draft input
    readLines fuel draft rest

/-- The input after a byte order mark, if it starts with one. -/
def dropByteOrderMark : List Char → List Char
  | '\ufeff' :: rest => rest
  | input => input

/-- The entries of a document, or `none` when it is not well formed. -/
def readDocument? (text : String) : Option Entries :=
  let input := dropByteOrderMark text.toList
  readLines input.length ⟨[], []⟩ input

end Bouquet.Toml
