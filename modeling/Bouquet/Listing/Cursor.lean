import Bouquet.Listing.Basic

/-!
# Moving the cursor

## Main definitions

- `Listing.home`, `Listing.toEnd`, `Listing.set`, `Listing.select`: going to a place
- `Listing.move`: going by a number of rows, or dragging the current entry by it
- `Listing.keep`, `Listing.goBack`: bookmarks
- `Listing.setDragging`: beginning and ending a drag
-/

namespace Bouquet.Listing

/-! ## Places -/

/-- Goes to the first row. -/
def home (l : Listing) : Listing :=
  { l with cursor := firstVisibleFrom l.entries 0 }

/-- Goes to the end of the list. -/
def toEnd (l : Listing) : Listing :=
  { l with cursor := l.size }

/-- Goes to an ordinal, or from an invisible entry on to the next visible one; beyond the last entry
to the end of the list. -/
def set (l : Listing) (ordinal : Nat) : Listing :=
  { l with cursor := firstVisibleFrom l.entries ordinal }

/-- Goes to the first place of an entry; the flag tells whether it is listed. -/
def select (l : Listing) (r : Reference) : Listing × Bool :=
  match l.lookup? r with
  | some ordinal => (l.set ordinal, true)
  | none => (l, false)

/-! ## Steps -/

/-- Takes the cursor to another ordinal. A drag exchanges the entries at both ordinals and reports
their rows. -/
def travel (l : Listing) (target : Nat) : Listing × List Notice :=
  if l.dragging && l.isOnEntry then
    let entries := swapped l.entries l.cursor target
    ({ l with entries := entries, cursor := target },
      [.changed (rowOf entries l.cursor), .changed (rowOf entries target)])
  else ({ l with cursor := target }, [])

/-- One row forward. From the last row the cursor goes to the end of the list, a dragged entry
stays. -/
def stepForward (l : Listing) : Option (Listing × List Notice) :=
  if l.isOnEntry then
    match nextVisible? l.entries l.cursor with
    | some target => some (l.travel target)
    | none => if l.dragging then none else some (l.travel l.size)
  else none

/-- One row backward, down to the first row. -/
def stepBackward (l : Listing) : Option (Listing × List Notice) :=
  (lastVisibleBefore? l.entries l.cursor).map l.travel

/-- At most `count` steps, ended by the first one that cannot be taken: the listing, the number of
steps taken, and what they report. -/
def steps (step : Listing → Option (Listing × List Notice)) :
    Nat → Listing → Listing × Nat × List Notice
  | 0, l => (l, 0, [])
  | count + 1, l =>
    match step l with
    | none => (l, 0, [])
    | some (l, notices) =>
      let (l, taken, later) := steps step count l
      (l, taken + 1, notices ++ later)

/-- Moves by `count` rows, backward when it is negative: the listing, the steps taken with their
sign, and what they report. -/
def move (l : Listing) (count : Int) : Listing × Int × List Notice :=
  if 0 ≤ count then
    let (l, taken, notices) := steps stepForward count.natAbs l
    (l, taken, notices)
  else
    let (l, taken, notices) := steps stepBackward count.natAbs l
    (l, -(taken : Int), notices)

/-! ## Bookmarks -/

/-- The bookmark of the cursor. -/
def bookmark (l : Listing) : Bookmark :=
  ⟨l.cursor, l.current?⟩

/-- Keeps the place of the cursor under a key. -/
def keep (l : Listing) (key : BookmarkKey) : Listing :=
  { l with bookmarks := l.bookmarks.put l.bookmark key }

/-- Goes back to the place under a key; the flag tells whether there is one. -/
def goBack (l : Listing) (key : BookmarkKey) : Listing × Bool :=
  match l.bookmarks.get? key with
  | some mark =>
    ({ l with cursor := mark.resolve l.entries, bookmarks := l.bookmarks.use key }, true)
  | none => (l, false)

/-! ## Drags -/

/-- Begins or ends the drag of the current entry. The end of a drag asks for its new position to be
kept. The row of the entry changes its look either way; without a current entry nothing happens,
which the flag tells. -/
def setDragging (l : Listing) (state : Bool) : Listing × Bool × List Notice × List Move :=
  match l.current? with
  | none => (l, false, [], [])
  | some entry =>
    ({ l with dragging := state }, true, [.changed l.cursorRow],
      if l.dragging && !state then [⟨l.root, entry, l.cursor⟩] else [])

end Bouquet.Listing
