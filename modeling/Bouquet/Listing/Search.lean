import Bouquet.Listing.Basic
import Bouquet.Sources

/-!
# Circular searches

A search goes once around the list, from the entry after or before the cursor to the entry at the
cursor. From the end of the list it goes from the first entry on, or from the last one back.

## Main definitions

- `Listing.forwardOrdinals`, `Listing.backwardOrdinals`: the ordinals in the order of a search
- `Listing.nextBeginningWith?`: the next entry whose name begins with a character
- `Listing.nextMarker?`, `Listing.previousMarker?`: the nearest marker
-/

namespace Bouquet.Listing

/-- All ordinals from the one after the cursor on. -/
def forwardOrdinals (l : Listing) : List Nat :=
  let start := if l.isOnEntry then l.cursor else l.size - 1
  (List.range l.size).map fun k => (start + (k + 1)) % l.size

/-- All ordinals from the one before the cursor back. -/
def backwardOrdinals (l : Listing) : List Nat :=
  let start := min l.cursor l.size
  (List.range l.size).map fun k => (start + 2 * l.size - (k + 1)) % l.size

/-- The first of some ordinals whose entry passes a test. -/
def findAmong? (l : Listing) (test : Reference → Bool) (ordinals : List Nat) : Option Nat :=
  ordinals.find? fun ordinal => (l.entries[ordinal]?).any test

/-- The first character of a text that is neither blank nor control. -/
def firstLetter? (text : String) : Option Char :=
  text.toList.find? fun c => !Text.isBlank c && !Text.isControl c

/-- Whether a visible entry is shown under a name that begins with a character, in either case. -/
def beginsWith (sources : Sources) (c : Char) (r : Reference) : Bool :=
  r.isVisible
    && (firstLetter? (sources.displayName r)).any fun first =>
      Text.lowerChar first == Text.lowerChar c

/-- Whether an entry is a visible marker. -/
def isVisibleMarker (r : Reference) : Bool :=
  r.isMarker && r.isVisible

/-- The next entry after the cursor whose name begins with a character. -/
def nextBeginningWith? (l : Listing) (sources : Sources) (c : Char) : Option Nat :=
  l.findAmong? (beginsWith sources c) l.forwardOrdinals

/-- The nearest marker after the cursor. -/
def nextMarker? (l : Listing) : Option Nat :=
  l.findAmong? isVisibleMarker l.forwardOrdinals

/-- The nearest marker before the cursor. -/
def previousMarker? (l : Listing) : Option Nat :=
  l.findAmong? isVisibleMarker l.backwardOrdinals

end Bouquet.Listing
