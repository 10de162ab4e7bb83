import Bouquet.Reference.Basic

/-!
# Bookmarks

A bookmark remembers where the cursor stood, by ordinal and by entry, so that it finds the entry
again after the list was edited. One bookmark may be kept without a key and is used up by going
back to it; those kept under a line stay until they are overwritten.

## Main definitions

- `Bookmark.resolve`: where a bookmark leads in a list
- `Bookmarks`: the bookmarks that are kept
-/

namespace Bouquet

/-- A remembered cursor position; without an entry it is the end of the list. -/
structure Bookmark where
  ordinal : Nat
  entry : Option Reference
  deriving DecidableEq

/-- Where a bookmark leads: its ordinal as long as the entry is still there, else the first place of
the entry, else the ordinal or the end of the list, whichever comes first. -/
def Bookmark.resolve (b : Bookmark) (entries : List Reference) : Nat :=
  match b.entry with
  | none => entries.length
  | some entry =>
    if (entries[b.ordinal]?).any entry.same then b.ordinal
    else (entries.findIdx? entry.same).getD (min b.ordinal entries.length)

/-- What a bookmark is kept under: nothing, or the number of a line. -/
inductive BookmarkKey where
  | single
  | line (number : Int)
  deriving DecidableEq

/-- The bookmarks that are kept. -/
structure Bookmarks where
  single : Option Bookmark
  lines : List (Int × Bookmark)

namespace Bookmarks

/-- No bookmark. -/
def empty : Bookmarks := ⟨none, []⟩

/-- The bookmark under a key. -/
def get? (b : Bookmarks) : BookmarkKey → Option Bookmark
  | .single => b.single
  | .line number => (b.lines.find? fun kept => kept.1 == number).map (·.2)

/-- Keeps a bookmark under a key, in place of the one before. -/
def put (b : Bookmarks) (mark : Bookmark) : BookmarkKey → Bookmarks
  | .single => { b with single := some mark }
  | .line number =>
    { b with lines := (number, mark) :: b.lines.filter fun kept => kept.1 != number }

/-- What is left after going back to a key: the bookmark without a line is used up. -/
def use (b : Bookmarks) : BookmarkKey → Bookmarks
  | .single => { b with single := none }
  | .line _ => b

end Bookmarks

end Bouquet
