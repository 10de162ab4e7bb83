/-!
# File paths

A path is a sequence of bytes, cut into parts by slashes. Different bytes may spell one path: parts
that are empty or a single dot lead nowhere and do not count, except for a dot in front. Two dots do
count, since the part before them may be a link.

## Main definitions

- `FilePath`, `FilePath.ofText`
- `FilePath.route`: what a path is compared by
-/

namespace Bouquet

/-- The path of a file, as the system takes it. -/
structure FilePath where
  bytes : List UInt8
  deriving DecidableEq

/-- The way that a path leads: whether it starts at the root, and the parts that count. -/
structure Route where
  rooted : Bool
  parts : List (List UInt8)
  deriving DecidableEq

namespace FilePath

/-- The path that a text spells. -/
def ofText (text : String) : FilePath := ⟨text.toUTF8.data.toList⟩

/-- The byte that separates parts. -/
def slash : UInt8 := 47

/-- The byte of which the part is made that leads nowhere. -/
def dot : UInt8 := 46

/-- The parts between slashes, empty ones included. There is always one. -/
def split : List UInt8 → List (List UInt8)
  | [] => [[]]
  | b :: rest =>
    if b = slash then [] :: split rest
    else
      match split rest with
      | [] => [[b]]
      | part :: parts => (b :: part) :: parts

/-- Whether a part leads anywhere. -/
def counts (part : List UInt8) : Bool := part ≠ [] ∧ part ≠ [dot]

/-- What a path is compared by. A dot in front of a path without a root is kept. -/
def route (path : FilePath) : Route :=
  let rooted := path.bytes.head? == some slash
  let parts := split path.bytes
  let ahead := if parts.head? = some [dot] then [[dot]] else []
  { rooted := rooted, parts := ahead ++ parts.filter counts }

end FilePath

end Bouquet
