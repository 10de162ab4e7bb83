import Bouquet.FilePath
import Bouquet.Pixmap.Basic
import Bouquet.Recording
import Bouquet.Reference.Order
import Bouquet.Schedule.Event
import Bouquet.Text.Case

/-!
# Sources

What a list asks of the rest of the receiver: the children of a root, metadata, events, recordings,
picons and the time. A source that has nothing to say answers with nothing.

## Main definitions

- `Sources`: the answers, as functions
- `Sources.displayName`, `Sources.isRecorded`: what follows from them
- `compareNames`: the order of entries when a list source brings none of its own
-/

namespace Bouquet

/-- Metadata of a service. -/
structure ServiceInfo where
  name : String
  playable : Bool
  crypted : Bool
  fallback : Bool
  advertisement : Bool
  deriving DecidableEq, Inhabited

/-- Metadata of a service that can be tuned, and no more. -/
def ServiceInfo.tunable (name : String) : ServiceInfo :=
  { name := name, playable := true, crypted := false, fallback := false, advertisement := false }

/-- What a picon is looked up by. -/
structure PiconKey where
  path : String
  name : String
  locator : Option Locator
  deriving DecidableEq

/-- The key of a service that is shown under a name. -/
def PiconKey.ofReference (r : Reference) (shown : String) : PiconKey :=
  ⟨r.path, shown, r.locator⟩

/-- The order of names in lower case. -/
def compareNames (a b : Reference) : Ordering :=
  compare (Text.lower a.name) (Text.lower b.name)

/-- The answers of the receiver. `children` is absent for a root that cannot be listed, `picon` for
a receiver without picons; `image` is the content of an image file that can be decoded. -/
structure Sources where
  children : Reference → Option (List Reference)
  order : Reference → Reference → Ordering
  info : Reference → Option ServiceInfo
  event : Reference → EventSlot → Option Event
  recordings : RecordType → List Reference
  picon : Option (PiconKey → Option FilePath)
  image : FilePath → Option Pixmap
  now : Instant
  offset : Int

namespace Sources

/-- Sources that know nothing. -/
def silent : Sources :=
  { children := fun _ => none
    order := compareNames
    info := fun _ => none
    event := fun _ _ => none
    recordings := fun _ => []
    picon := none
    image := fun _ => none
    now := .ofParts 0 0
    offset := 0 }

/-- The name under which an entry is shown: that of the metadata unless it is empty, else the name
of the reference. -/
def displayName (s : Sources) (r : Reference) : String :=
  match s.info r with
  | some info => if info.name.isEmpty then r.name else info.name
  | none => r.name

/-- Whether an entry is being recorded under a filter. A group is when one of its listed members
is. -/
def isRecorded (s : Sources) (r : Reference) (filter : RecordType) : Bool :=
  let recorded := s.recordings filter
  if r.isGroup then
    ((s.children r).getD []).any fun member => recorded.any member.same
  else recorded.any r.same

end Sources

end Bouquet
