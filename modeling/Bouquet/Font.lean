import Bouquet.Numeric.Binary32
import Bouquet.Text.Blank
import Bouquet.Text.Cluster

/-!
# Fonts

A font is known by its family and pixel size. Drawing glyphs is the host's work; the layout only
estimates how wide a text is, from an average advance per grapheme cluster, and shortens what does
not fit.

## Main definitions

- `Font.measure`: the estimated width of a text
- `Font.elide`: the text, or its beginning followed by an ellipsis
-/

namespace Bouquet

open Text (clusters dropTrailingBlanks)

/-- Where a text stands inside its rectangle. -/
inductive TextAlign where
  | left
  | center
  | right
  deriving DecidableEq, Inhabited

/-- A font. Without an average advance of its own it derives one from its size. -/
structure Font where
  family : String
  size : Float32
  advance : Option Float32
  deriving BEq, Inhabited

namespace Font

/-- The row font when nothing else is configured. -/
def regular : Font :=
  { family := "Regular", size := 20, advance := none }

/-- What an elided text ends with. -/
def ellipsis : List Char := ['.', '.', '.']

/-- The average width of one cluster: the configured one, else 55 hundredths of the size. -/
def averageAdvance (f : Font) : Float32 :=
  f.advance.getD (f.size * 0.55)

/-- The estimated width of a text. -/
def measure (f : Font) (text : String) : Float32 :=
  Binary32.ofNat (clusters text.toList).length * f.averageAdvance

/-- How many clusters fit into `width`. -/
def slots (f : Font) (width : Float32) : Nat :=
  Binary32.toUnsigned .down 64 (width / f.averageAdvance)

/-- The first `kept` clusters without their trailing blanks, followed by the ellipsis. -/
def shorten (kept : Nat) (text : String) : String :=
  String.ofList (dropTrailingBlanks ((clusters text.toList).take kept).flatten ++ ellipsis)

/-- The text when it fits into `width` or the font has no positive advance to count with. Else
the ellipsis takes three of the slots and the beginning of the text the others; with fewer than
three slots nothing is left. -/
def elide (f : Font) (text : String) (width : Float32) : String :=
  if f.measure text ≤ width then text
  else if f.averageAdvance ≤ 0 then text
  else if f.slots width < ellipsis.length then ""
  else shorten (f.slots width - ellipsis.length) text

end Font

end Bouquet
