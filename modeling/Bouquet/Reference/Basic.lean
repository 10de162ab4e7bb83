import Bouquet.Text.Blank

/-!
# References

A reference names one entry of a list: a service, a folder, a marker, a group of alternatives or
a placeholder. What makes it that entry is its identity; the display name and the channel number
belong to one listing of it.

## Main definitions

- `Identity`: kind, path, locator and flags
- `Reference`: an identity with a name and a channel number
- `Reference.display`: the text of a reference
- `Reference.delivery?`: how a service reaches the receiver
-/

namespace Bouquet

/-! ## Identity -/

/-- What kind of entry a reference names. -/
inductive EntryKind where
  | service
  | folder
  | marker
  | group
  | ignore
  deriving DecidableEq, Inhabited

/-- The name of a kind. -/
def EntryKind.label : EntryKind → String
  | .service => "Service"
  | .folder => "Folder"
  | .marker => "Marker"
  | .group => "Group"
  | .ignore => "Ignore"

/-- Flags of an entry. An invisible entry is listed and skipped when steps and rows are counted; a
numbered marker shows a channel number. -/
structure EntryFlags where
  invisible : Bool
  numbered : Bool
  deriving DecidableEq, Inhabited

/-- The locator of a broadcast service. The upper half of `region` carries the orbital position,
or the mark of a terrestrial or cable service. -/
structure Locator where
  serviceType : UInt16
  serviceId : UInt16
  transportStream : UInt16
  network : UInt16
  region : UInt32
  deriving DecidableEq, Inhabited

/-- What makes two references name the same entry. -/
structure Identity where
  kind : EntryKind
  path : String
  locator : Option Locator
  flags : EntryFlags
  deriving DecidableEq, Inhabited

/-! ## References -/

/-- An entry as one listing shows it. -/
structure Reference where
  identity : Identity
  name : String
  number : Option UInt32
  deriving DecidableEq, Inhabited

/-- How a service is delivered. -/
inductive Delivery where
  | satellite
  | terrestrial
  | cable
  | stream
  deriving DecidableEq

/-- The name of a delivery. -/
def Delivery.label : Delivery → String
  | .satellite => "Satellite"
  | .terrestrial => "Terrestrial"
  | .cable => "Cable"
  | .stream => "Stream"

namespace Locator

/-- The upper half of the region of terrestrial services. -/
def terrestrialRegion : UInt32 := 0xEEEE

/-- The upper half of the region of cable services. -/
def cableRegion : UInt32 := 0xFFFF

/-- The delivery of a service with a locator but no stream address. -/
def delivery (l : Locator) : Delivery :=
  if l.region >>> 16 == terrestrialRegion then .terrestrial
  else if l.region >>> 16 == cableRegion then .cable
  else .satellite

end Locator

namespace Reference

/-- A reference with no locator, no flags and no number. -/
def plain (kind : EntryKind) (path name : String) : Reference :=
  { identity := ⟨kind, path, none, ⟨false, false⟩⟩, name := name, number := none }

/-- The reference of a list that has no root yet. -/
def blank : Reference := plain .service "" ""

/-- A marker is identified by its text. -/
def marker (name : String) : Reference :=
  plain .marker ("marker:" ++ name) name

def kind (r : Reference) : EntryKind := r.identity.kind

def path (r : Reference) : String := r.identity.path

def locator (r : Reference) : Option Locator := r.identity.locator

def flags (r : Reference) : EntryFlags := r.identity.flags

/-- Whether two references name the same entry. -/
def same (r s : Reference) : Bool := r.identity == s.identity

/-- Whether the entry is skipped when steps and rows are counted. -/
def isInvisible (r : Reference) : Bool := r.flags.invisible

/-- Whether the entry takes part in steps and rows. -/
def isVisible (r : Reference) : Bool := !r.isInvisible

def isMarker (r : Reference) : Bool := r.kind == .marker

def isFolder (r : Reference) : Bool := r.kind == .folder

def isGroup (r : Reference) : Bool := r.kind == .group

/-- Services and groups can be tuned and carry events. -/
def isPlayable (r : Reference) : Bool := r.kind == .service || r.kind == .group

/-- The name with the path in parentheses, or the path alone when there is no name. -/
def display (r : Reference) : String :=
  if r.name.isEmpty then r.path else r.name ++ " (" ++ r.path ++ ")"

/-- Whether the path holds the address of a stream, plain or with its colon escaped. -/
def isStream (r : Reference) : Bool :=
  Text.hasPart "://".toList r.path.toList || Text.hasPart "%3a//".toList r.path.toList

/-- The delivery of a service: a stream by its path, else by the region of its locator. Other
entries have none, and neither has a service without either. -/
def delivery? (r : Reference) : Option Delivery :=
  if r.kind != .service then none
  else if r.isStream then some .stream
  else r.locator.map Locator.delivery

end Reference

end Bouquet
