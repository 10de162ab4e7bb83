import Bouquet.Text.Case.Property

/-!
# Lower case

Lower-case forms of characters and texts. A character has one form of its own; in a text a sigma
that ends a word takes the final form.

## Main definitions

- `lowerChar`: the lower-case form of a character, which may be two characters
- `lower`: the lower-case form of a text
-/

namespace Bouquet.Text

/-- The lower-case form of a character. The dotted capital I keeps its dot as a mark. -/
def lowerChar (c : Char) : List Char :=
  if c.toNat == 0x130 then ['i', '\u0307']
  else
    match caseShiftOf? c.toNat with
    | some s => [Char.ofNat ((c.toNat : Int) + s.shift).toNat]
    | none => [c]

/-- Whether the first character that a word does not look through has a case. -/
def startsCased (cs : List Char) : Bool :=
  match cs.dropWhile (fun c => isCaseIgnorable c.toNat) with
  | [] => false
  | c :: _ => isCased c.toNat

/-- The form of a capital sigma between `before`, read backward, and `after`: final when a letter
stands before it and none after it. -/
def sigmaBetween (before after : List Char) : Char :=
  if startsCased before && !startsCased after then 'ς' else 'σ'

/-- The lower-case form of the text after `before`, which is read backward. -/
def lowerAfter (before : List Char) : List Char → List Char
  | [] => []
  | c :: rest =>
    (if c == 'Σ' then [sigmaBetween before rest] else lowerChar c) ++ lowerAfter (c :: before) rest

/-- The lower-case form of a text. -/
def lower (s : String) : String :=
  String.ofList (lowerAfter [] s.toList)

end Bouquet.Text
