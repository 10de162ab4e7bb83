import Bouquet.Reference.Basic

/-!
# Ordinals and rows

An entry has an ordinal, its place among all entries, and a visible one also has a row, its place
among the visible ones. The ordinal just past the last entry is the end of the list.

## Main definitions

- `rowOf`: the number of visible entries before an ordinal
- `firstVisibleFrom`, `nextVisible?`, `lastVisibleBefore?`: searches for visible entries
- `swapped`: two entries exchanged
-/

namespace Bouquet

/-- The number of visible entries before an ordinal. -/
def rowOf (entries : List Reference) (ordinal : Nat) : Nat :=
  (entries.take ordinal).countP Reference.isVisible

/-- The number of rows. -/
def rowCount (entries : List Reference) : Nat :=
  entries.countP Reference.isVisible

/-- The first visible ordinal at or after `start`, or the end of the list. -/
def firstVisibleFrom : List Reference → Nat → Nat
  | [], _ => 0
  | e :: rest, 0 => if e.isVisible then 0 else firstVisibleFrom rest 0 + 1
  | _ :: rest, start + 1 => firstVisibleFrom rest start + 1

/-- The first visible ordinal after `ordinal`. -/
def nextVisible? (entries : List Reference) (ordinal : Nat) : Option Nat :=
  let next := firstVisibleFrom entries (ordinal + 1)
  if next < entries.length then some next else none

/-- The last visible ordinal before `ordinal`. -/
def lastVisibleBefore? : List Reference → Nat → Option Nat
  | [], _ => none
  | _ :: _, 0 => none
  | e :: rest, ordinal + 1 =>
    match lastVisibleBefore? rest ordinal with
    | some last => some (last + 1)
    | none => if e.isVisible then some 0 else none

/-- The entries with those at two ordinals exchanged. -/
def swapped (entries : List Reference) (i j : Nat) : List Reference :=
  match entries[i]?, entries[j]? with
  | some a, some b => (entries.set i b).set j a
  | _, _ => entries

/-- The entries in rows, in order. -/
def visibleEntries (entries : List Reference) : List Reference :=
  entries.filter Reference.isVisible

end Bouquet
