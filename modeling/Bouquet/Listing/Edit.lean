import Bouquet.Listing.Cursor
import Bouquet.Sources

/-!
# Editing the list

## Main definitions

- `Listing.load`: the children of a new root
- `Listing.add`, `Listing.append`, `Listing.finishFill`: inserting entries
- `Listing.removeCurrent`: removing the entry at the cursor
- `Listing.sort`: stable sorting, with the cursor following its entry
-/

namespace Bouquet.Listing

/-- Takes another root. Unless only the root is to be known, its children replace the entries, the
cursor goes home, and bookmarks and a drag end. -/
def load (l : Listing) (sources : Sources) (root : Reference) (rootOnly : Bool) :
    Listing × List Notice :=
  if rootOnly then ({ l with root := root }, [])
  else
    let loaded :=
      { l with
        root := root
        entries := (sources.children root).getD []
        dragging := false
        bookmarks := Bookmarks.empty }
    (loaded.home, [.reset true])

/-- The ordinal at which an entry is inserted next to the cursor: before it, after it, or at the end
of the list when the cursor is there. -/
def insertionPoint (l : Listing) (before : Bool) : Nat :=
  if before || !l.isOnEntry then min l.cursor l.size else l.cursor + 1

/-- Inserts an entry next to the cursor, which stays on its entry; in an empty list it goes to the
new one. -/
def add (l : Listing) (r : Reference) (before : Bool) : Listing × List Notice :=
  let ordinal := l.insertionPoint before
  let entries := l.entries.insertIdx ordinal r
  let cursor :=
    if l.entries.isEmpty then 0
    else if ordinal ≤ l.cursor then l.cursor + 1
    else l.cursor
  ({ l with entries := entries, cursor := cursor }, [.added (rowOf entries ordinal)])

/-- Appends an entry. A cursor at the end of the list stays there. -/
def append (l : Listing) (r : Reference) : Listing × List Notice :=
  let entries := l.entries ++ [r]
  let cursor := if l.isOnEntry then l.cursor else entries.length
  ({ l with entries := entries, cursor := cursor }, [.added (rowOf entries l.size)])

/-- Ends a bulk fill: the cursor goes home and the view starts anew. -/
def finishFill (l : Listing) : Listing × List Notice :=
  (l.home, [.reset true])

/-- Removes the entry at the cursor, which goes on to the next visible one; the flag tells whether
there was an entry. -/
def removeCurrent (l : Listing) : Listing × Bool × List Notice :=
  if l.isOnEntry then
    let entries := l.entries.eraseIdx l.cursor
    ({ l with
        entries := entries
        dragging := false
        cursor := firstVisibleFrom entries l.cursor },
      true, [.removed l.cursorRow])
  else (l, false, [])

/-- The entries with their ordinals, stably sorted. -/
def sortedPairs (order : Reference → Reference → Ordering) (entries : List Reference) :
    List (Reference × Nat) :=
  entries.zipIdx.mergeSort fun a b => order a.1 b.1 != .gt

/-- Sorts the entries. The cursor follows the entry that it was on. -/
def sort (l : Listing) (order : Reference → Reference → Ordering) : Listing × List Notice :=
  let sorted := sortedPairs order l.entries
  ({ l with
      entries := sorted.map (·.1)
      cursor := sorted.findIdx fun entry => entry.2 == l.cursor },
    [.reset false])

end Bouquet.Listing
