import Bouquet.Listing.Bookmark
import Bouquet.Listing.Rows
import Bouquet.Marks

/-!
# Listings

A listing holds the entries under a root and a cursor over them.

## Main definitions

- `Listing`: root, entries, cursor, bookmarks, marked set, and whether an entry is being dragged
- `Notice`, `Move`: what an operation tells the view and the list source
- `Listing.current?`, `Listing.previous?`, `Listing.next?`, `Listing.isSelectable`
-/

namespace Bouquet

/-- What a view is told about rows. `reset` says whether the first row is to be selected. -/
inductive Notice where
  | added (row : Nat)
  | removed (row : Nat)
  | changed (row : Nat)
  | reset (selectFirst : Bool)
  deriving DecidableEq

/-- A request to keep the new position of an entry in the list under a root. -/
structure Move where
  root : Reference
  entry : Reference
  position : Nat
  deriving DecidableEq

/-- The entries under a root with a cursor, which is an ordinal or the end of the list. While
`dragging`, moving the cursor takes the current entry along. -/
structure Listing where
  root : Reference
  entries : List Reference
  cursor : Nat
  bookmarks : Bookmarks
  marks : Marks
  dragging : Bool

namespace Listing

/-- An empty listing without a root. -/
def empty : Listing :=
  { root := Reference.blank
    entries := []
    cursor := 0
    bookmarks := Bookmarks.empty
    marks := Marks.empty
    dragging := false }

/-- The number of entries. -/
def size (l : Listing) : Nat := l.entries.length

/-- Whether the cursor is on an entry. -/
def isOnEntry (l : Listing) : Bool := l.cursor < l.size

/-- The entry at the cursor. -/
def current? (l : Listing) : Option Reference := l.entries[l.cursor]?

/-- The row of the cursor. -/
def cursorRow (l : Listing) : Nat := rowOf l.entries l.cursor

/-- The visible entry before the cursor. -/
def previous? (l : Listing) : Option Reference :=
  (lastVisibleBefore? l.entries l.cursor).bind fun ordinal => l.entries[ordinal]?

/-- The visible entry after the cursor, which has to be on an entry. -/
def next? (l : Listing) : Option Reference :=
  if l.isOnEntry then (nextVisible? l.entries l.cursor).bind fun ordinal => l.entries[ordinal]?
  else none

/-- Whether the user may select the entry at the cursor. Groups and invisible entries cannot be
selected, markers only while something is marked. -/
def isSelectable (l : Listing) : Bool :=
  match l.current? with
  | none => false
  | some entry =>
    if entry.isInvisible then false
    else
      match entry.kind with
      | .marker => !l.marks.isEmpty
      | .group => false
      | _ => true

/-- The first ordinal of an entry. -/
def lookup? (l : Listing) (r : Reference) : Option Nat :=
  l.entries.findIdx? r.same

end Listing

end Bouquet
