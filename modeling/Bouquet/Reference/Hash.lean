import Bouquet.Reference.Order

/-!
# What a reference feeds to a hash

References are hashed by their identities, so that references of the same entry are looked up in
the same place. The parts of an identity are fed one after the other, each piece of data with its
width. Names and channel numbers take no part.

## Main definitions

- `HashDatum`: one piece of data
- `Identity.pathBytes`: a path as bytes
- `Reference.hashData`: all that is fed for a reference, in order
-/

namespace Bouquet

/-- One piece of data that a hash is fed. -/
inductive HashDatum where
  /-- Which of several alternatives a value is. -/
  | position (n : Nat)
  | bytes (data : List UInt8)
  | byte (value : UInt8)
  | half (value : UInt16)
  | word (value : UInt32)
  deriving DecidableEq

/-- The path in UTF-8. -/
def Identity.pathBytes (i : Identity) : List UInt8 :=
  i.path.toUTF8.data.toList

/-- The fields from the first to the last. -/
def Locator.hashData (l : Locator) : List HashDatum :=
  [.half l.serviceType, .half l.serviceId, .half l.transportStream, .half l.network,
    .word l.region]

/-- Whether there is a locator, and then its fields. -/
def Locator.hashDataOption : Option Locator → List HashDatum
  | none => [.position 0]
  | some l => .position 1 :: l.hashData

def EntryFlags.hashData (f : EntryFlags) : List HashDatum :=
  [.byte f.invisible.toUInt8, .byte f.numbered.toUInt8]

/-- Kind, path, locator and flags. The bytes of the path are closed by the byte `0xFF`. -/
def Identity.hashData (i : Identity) : List HashDatum :=
  .position i.kind.rank :: .bytes i.pathBytes :: .byte 0xFF ::
    (Locator.hashDataOption i.locator ++ i.flags.hashData)

/-- The data of a reference are those of its identity. -/
def Reference.hashData (r : Reference) : List HashDatum :=
  r.identity.hashData

end Bouquet
