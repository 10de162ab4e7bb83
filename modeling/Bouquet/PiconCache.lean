import Bouquet.FilePath
import Bouquet.Pixmap.Basic

/-!
# The picon cache

Picons are decoded once for each path and kept until the cache is cleared. A failure is kept too, so
that a missing file costs one attempt. However a path is spelt, it is known by its route.

## Main definitions

- `Decoded`: a pixmap with the number of the decoding that made it
- `PiconCache`, `PiconCache.load`, `PiconCache.clear`
-/

namespace Bouquet

/-- A decoded pixmap. Two results share their pixels exactly when they have the same stamp. -/
structure Decoded where
  stamp : Nat
  pixmap : Pixmap

/-- What is known of each path that was asked for, and the number of decodings so far. -/
structure PiconCache where
  entries : List (Route × Option Decoded)
  decodings : Nat

namespace PiconCache

/-- A cache that knows no path. -/
def empty : PiconCache := ⟨[], 0⟩

/-- What is known of a path: a pixmap, a failure, or nothing yet. -/
def get? (c : PiconCache) (file : FilePath) : Option (Option Decoded) :=
  c.entries.lookup file.route

/-- The picon at a path, which `image` decodes when it is asked for the first time. -/
def load (c : PiconCache) (image : FilePath → Option Pixmap) (file : FilePath) :
    PiconCache × Option Decoded :=
  match c.get? file with
  | some known => (c, known)
  | none =>
    let decoded := (image file).map fun pixmap => (⟨c.decodings, pixmap⟩ : Decoded)
    (⟨(file.route, decoded) :: c.entries, c.decodings + 1⟩, decoded)

/-- The number of paths that are known, failures included. -/
def size (c : PiconCache) : Nat := c.entries.length

/-- Whether no path is known. -/
def isEmpty (c : PiconCache) : Bool := c.entries.isEmpty

/-- Forgets every path. The decodings are counted on. -/
def clear (c : PiconCache) : PiconCache :=
  { c with entries := [] }

end PiconCache

end Bouquet
