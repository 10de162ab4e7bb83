import Bouquet.Text.Cluster.Property

/-!
# Grapheme clusters

A text falls into extended grapheme clusters, the characters that a reader perceives.

## Main definitions

- `Tail`: what the open cluster says about a character that follows it
- `Tail.joins`: whether that character continues the cluster
- `clusters`: the clusters of a text, in order
-/

namespace Bouquet.Text

/-! ## The open cluster -/

/-- A pictographic character waits for a joiner, and then for its partner. -/
inductive PictureState where
  | none
  | open
  | joined
  deriving DecidableEq

/-- A conjunct waits for a linker, and then for its next consonant. -/
inductive ConjunctState where
  | none
  | open
  | linked
  deriving DecidableEq

/-- What the open cluster says about the next character. `oddRegional` tells whether the cluster
ends with a regional indicator that still lacks a partner. -/
structure Tail where
  last : BreakClass
  picture : PictureState
  conjunct : ConjunctState
  oddRegional : Bool

/-- The tail of a cluster that `c` has just opened. -/
def Tail.start (c : Char) : Tail :=
  { last := breakClassOf c.toNat
    picture := if isPictographic c.toNat then .open else .none
    conjunct := if conjunctRoleOf c.toNat = .consonant then .open else .none
    oddRegional := breakClassOf c.toNat = .regional }

/-- The tail after `c` has continued the cluster. -/
def Tail.push (t : Tail) (c : Char) : Tail :=
  let breakClass := breakClassOf c.toNat
  { last := breakClass
    picture :=
      if isPictographic c.toNat then .open
      else if t.picture = .open ∧ breakClass = .extend then .open
      else if t.picture = .open ∧ breakClass = .joiner then .joined
      else .none
    conjunct :=
      match conjunctRoleOf c.toNat with
      | .consonant => .open
      | .linker => if t.conjunct = .none then .none else .linked
      | .extend => t.conjunct
      | .none => .none
    oddRegional := breakClass = .regional ∧ ¬ t.oddRegional }

/-- Whether a class ends a line or stands for no glyph, so that nothing joins it. -/
def BreakClass.isControl : BreakClass → Bool
  | .carriageReturn | .lineFeed | .control => true
  | _ => false

/-- Whether two neighbouring parts of a Hangul syllable stay together. -/
def BreakClass.syllableJoins : BreakClass → BreakClass → Bool
  | .leading, .leading | .leading, .vowel | .leading, .openSyllable | .leading, .closedSyllable =>
    true
  | .openSyllable, .vowel | .openSyllable, .trailing | .vowel, .vowel | .vowel, .trailing => true
  | .closedSyllable, .trailing | .trailing, .trailing => true
  | _, _ => false

/-- Whether `c` continues the cluster. The rules are tried in order; the first that applies
decides, and a pair that none applies to is parted. -/
def Tail.joins (t : Tail) (c : Char) : Bool :=
  let next := breakClassOf c.toNat
  if t.last = .carriageReturn ∧ next = .lineFeed then true
  else if t.last.isControl ∨ next.isControl then false
  else if t.last.syllableJoins next then true
  else if next = .extend ∨ next = .joiner ∨ next = .spacingMark then true
  else if t.last = .prepend then true
  else if t.conjunct = .linked ∧ conjunctRoleOf c.toNat = .consonant then true
  else if t.picture = .joined ∧ isPictographic c.toNat then true
  else t.oddRegional ∧ next = .regional

/-! ## Segmentation -/

/-- The clusters of a text whose first cluster is already open, its characters last first. -/
def clustersFrom (t : Tail) (opened : List Char) : List Char → List (List Char)
  | [] => [opened.reverse]
  | c :: rest =>
    if t.joins c then clustersFrom (t.push c) (c :: opened) rest
    else opened.reverse :: clustersFrom (Tail.start c) [c] rest

/-- The clusters of a text, in order. -/
def clusters : List Char → List (List Char)
  | [] => []
  | c :: rest => clustersFrom (Tail.start c) [c] rest

end Bouquet.Text
