/-!
# Items of a TOML document

The tree that a document describes, and the rules for growing it line by line. Every table
remembers how it came about, since that decides whether a later line may extend it.

## Main definitions

- `Item`, `Entries`: values, tables and arrays of tables
- `putKey`: what a key-value line does to the table that it stands in
- `defineTable`, `appendTable`: what a header line does to the document
-/

namespace Bouquet.Toml

/-! ## The tree -/

/-- How a table came about: by its own header, by the header of a table below it, by a dotted key,
or in one line between braces. -/
inductive Origin where
  | header
  | implied
  | dotted
  | inline
  deriving DecidableEq

/-- An item of a document. Floats and date-times keep their text. -/
inductive Item where
  | text (content : String)
  | integer (value : Int)
  | float (source : String)
  | boolean (value : Bool)
  | dateTime (source : String)
  | array (items : List Item)
  | table (origin : Origin) (entries : List (String × Item))
  | tables (items : List Item)

/-- The entries of a table, in the order in which they were made. -/
abbrev Entries := List (String × Item)

/-- The item under a key. -/
def lookup (key : String) (entries : Entries) : Option Item :=
  (entries.find? fun entry => entry.1 == key).map (·.2)

/-- The entries with another item under a key, which is added when it is new. -/
def replace (key : String) (item : Item) (entries : Entries) : Entries :=
  if entries.any fun entry => entry.1 == key then
    entries.map fun entry => if entry.1 == key then (key, item) else entry
  else entries ++ [(key, item)]

/-- The last table of an array of tables, changed. -/
def changeLast (change : Entries → Option Entries) : List Item → Option (List Item)
  | [] => none
  | [.table origin entries] => (change entries).map fun entries => [.table origin entries]
  | item :: later => (changeLast change later).map (item :: ·)

/-! ## Key-value lines -/

/-- Adds a key to a table. Only a table that a dotted key made may be reached by a dotted key, and
no key may be given twice. -/
def addKey (reached : Bool) (origin : Origin) (key : String) (item : Item) (entries : Entries) :
    Option Entries :=
  if reached && origin != .dotted then none
  else if (lookup key entries).isSome then none
  else some (entries ++ [(key, item)])

/-- Adds the item at the end of a dotted key to the table where the key starts. Tables on the way
are made as needed. A table with a header of its own, or between braces, is closed to dotted
keys. -/
def putKeyFrom (reached : Bool) (origin : Origin) : List String → String → Item → Entries →
    Option Entries
  | [], key, item, entries => addKey reached origin key item entries
  | part :: path, key, item, entries =>
    match lookup part entries with
    | none =>
      (putKeyFrom true .dotted path key item []).map fun inner =>
        replace part (.table .dotted inner) entries
    | some (.table .dotted inner) =>
      (putKeyFrom true .dotted path key item inner).map fun inner =>
        replace part (.table .dotted inner) entries
    | some (.table .implied inner) =>
      (putKeyFrom true .implied path key item inner).map fun inner =>
        replace part (.table .implied inner) entries
    | some (.tables items) =>
      (changeLast (putKeyFrom true .header path key item) items).map fun items =>
        replace part (.tables items) entries
    | some _ => none

/-- What a key-value line does to the table that it stands in. -/
def putKey (path : List String) (key : String) (item : Item) (entries : Entries) :
    Option Entries :=
  putKeyFrom false .header path key item entries

/-! ## Header lines -/

/-- Changes the entries of the table at a path. Missing tables on the way are implied; in an array
of tables the way leads through the last one. -/
def changeAt (change : Entries → Option Entries) : List String → Entries → Option Entries
  | [], entries => change entries
  | part :: path, entries =>
    match lookup part entries with
    | none =>
      (changeAt change path []).map fun inner => replace part (.table .implied inner) entries
    | some (.table .inline _) => none
    | some (.table origin inner) =>
      (changeAt change path inner).map fun inner => replace part (.table origin inner) entries
    | some (.tables items) =>
      (changeLast (changeAt change path) items).map fun items =>
        replace part (.tables items) entries
    | some _ => none

/-- Opens a table under a key: a new one, or one that was only implied so far. -/
def openTable (key : String) (entries : Entries) : Option Entries :=
  match lookup key entries with
  | none => some (entries ++ [(key, .table .header [])])
  | some (.table .implied inner) => some (replace key (.table .header inner) entries)
  | some _ => none

/-- Adds a table to the array of tables under a key. -/
def openElement (key : String) (entries : Entries) : Option Entries :=
  match lookup key entries with
  | none => some (entries ++ [(key, .tables [.table .header []])])
  | some (.tables items) => some (replace key (.tables (items ++ [.table .header []])) entries)
  | some _ => none

/-- What the header of a table does to the document. -/
def defineTable (path : List String) (key : String) (root : Entries) : Option Entries :=
  changeAt (openTable key) path root

/-- What the header of an element of an array of tables does to the document. -/
def appendTable (path : List String) (key : String) (root : Entries) : Option Entries :=
  changeAt (openElement key) path root

end Bouquet.Toml
