import Bouquet.Reference.Basic

/-!
# The order of references

References are ordered by kind, then path, then locator, then flags, which is a total order on
identities. Names and channel numbers take no part.
-/

namespace Bouquet

/-- The rank of a kind. -/
def EntryKind.rank : EntryKind → Nat
  | .service => 0
  | .folder => 1
  | .marker => 2
  | .group => 3
  | .ignore => 4

/-- Locators by their fields from the first to the last. -/
def Locator.cmp (a b : Locator) : Ordering :=
  (compare a.serviceType b.serviceType).then <|
    (compare a.serviceId b.serviceId).then <|
      (compare a.transportStream b.transportStream).then <|
        (compare a.network b.network).then <| compare a.region b.region

/-- An absent locator comes before every other. -/
def Locator.cmpOption : Option Locator → Option Locator → Ordering
  | none, none => .eq
  | none, some _ => .lt
  | some _, none => .gt
  | some a, some b => a.cmp b

/-- Invisible entries after visible ones, then numbered after unnumbered. -/
def EntryFlags.cmp (a b : EntryFlags) : Ordering :=
  (compare a.invisible.toNat b.invisible.toNat).then <|
    compare a.numbered.toNat b.numbered.toNat

/-- The order of identities. Paths compare by code point. -/
def Identity.cmp (a b : Identity) : Ordering :=
  (compare a.kind.rank b.kind.rank).then <|
    (compare a.path b.path).then <|
      (Locator.cmpOption a.locator b.locator).then <| a.flags.cmp b.flags

/-- The order of references is that of their identities. -/
def Reference.cmp (a b : Reference) : Ordering :=
  a.identity.cmp b.identity

/-- The comparison that may find two references incomparable, which no two are. -/
def Reference.partialCmp (a b : Reference) : Option Ordering :=
  some (a.cmp b)

end Bouquet
