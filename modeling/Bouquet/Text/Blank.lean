/-!
# Blanks and controls

The white space and the control characters of Unicode, and trimming by the former.
-/

namespace Bouquet.Text

/-- Whether a character is white space. -/
def isBlank (c : Char) : Bool :=
  let code := c.toNat
  (0x09 ≤ code && code ≤ 0x0D) || code == 0x20 || code == 0x85 || code == 0xA0 || code == 0x1680
    || (0x2000 ≤ code && code ≤ 0x200A) || code == 0x2028 || code == 0x2029 || code == 0x202F
    || code == 0x205F || code == 0x3000

/-- Whether a character is a control character. -/
def isControl (c : Char) : Bool :=
  let code := c.toNat
  code < 0x20 || (0x7F ≤ code && code ≤ 0x9F)

/-- The characters up to the last one that is no blank. -/
def dropTrailingBlanks : List Char → List Char
  | [] => []
  | c :: rest =>
    match dropTrailingBlanks rest with
    | [] => if isBlank c then [] else [c]
    | kept => c :: kept

/-- The text without its trailing blanks. -/
def trimEnd (s : String) : String :=
  String.ofList (dropTrailingBlanks s.toList)

/-- Whether `part` stands somewhere in the text. -/
def hasPart (part : List Char) : List Char → Bool
  | [] => part.isEmpty
  | c :: rest => part.isPrefixOf (c :: rest) || hasPart part rest

end Bouquet.Text
