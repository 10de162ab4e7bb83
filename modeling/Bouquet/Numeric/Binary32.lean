/-!
# Binary32 numbers

Every measure of this library is an IEEE binary32 number, and every arithmetic step on one is a
single rounding. Core supplies the arithmetic; this module adds the rules that a layout needs
around it.

## Main definitions

- `maxNum`, `minNum`: the extremum that ignores a NaN operand
- `clamp`: keeps a number between two bounds and lets a NaN through
- `Exact`, `decode`: the exact dyadic value of a number
- `toRange`: rounding to an integer, saturating at the ends of a range
- `ofNat`, `ofInt`, `ofDyadic`, `quotient`: numbers from exact values, ties to even
-/

namespace Bouquet.Binary32

/-! ## Order -/

/-- The larger operand; when one is a NaN, the other. -/
def maxNum (a b : Float32) : Float32 :=
  if a.isNaN then b else if b.isNaN then a else if a < b then b else a

/-- The smaller operand; when one is a NaN, the other. -/
def minNum (a b : Float32) : Float32 :=
  if a.isNaN then b else if b.isNaN then a else if b < a then b else a

/-- `x` moved to the nearer bound when it lies outside them; a NaN stays a NaN. -/
def clamp (lo hi x : Float32) : Float32 :=
  if x < lo then lo else if hi < x then hi else x

/-! ## Exact values -/

/-- What a binary32 number stands for: a finite one is `± significand * 2 ^ exponent`. -/
inductive Exact where
  | nan
  | infinite (negative : Bool)
  | finite (negative : Bool) (significand : Nat) (exponent : Int)

/-- Reads sign, exponent and fraction out of the bit pattern. -/
def decode (x : Float32) : Exact :=
  let bits := x.toBits.toNat
  let negative := bits / 0x80000000 == 1
  let biased : Nat := bits / 0x800000 % 0x100
  let fraction : Nat := bits % 0x800000
  if biased == 255 then
    if fraction == 0 then .infinite negative else .nan
  else if biased == 0 then .finite negative fraction (-149)
  else .finite negative (0x800000 + fraction) ((biased : Int) - 150)

/-- How a number with a fractional part becomes an integer. `nearest` sends a half away from
zero. -/
inductive Rounding where
  | down
  | up
  | nearest
  | towardZero

/-- The integer that `rounding` chooses for `± significand * 2 ^ exponent`. -/
def Rounding.apply (rounding : Rounding) (negative : Bool) (significand : Nat) (exponent : Int) :
    Int :=
  let unit := Nat.pow 2 (-exponent).toNat
  let scaled := significand * Nat.pow 2 exponent.toNat
  let whole := scaled / unit
  let rest := scaled % unit
  let away := if rest == 0 then whole else whole + 1
  let magnitude :=
    match rounding, negative with
    | .down, true => away
    | .down, false => whole
    | .up, true => whole
    | .up, false => away
    | .nearest, _ => if unit ≤ 2 * rest then whole + 1 else whole
    | .towardZero, _ => whole
  if negative then -(magnitude : Int) else magnitude

/-- `x` rounded to an integer of `lo .. hi`: values beyond an end take that end, a NaN is zero. -/
def toRange (rounding : Rounding) (lo hi : Int) (x : Float32) : Int :=
  match decode x with
  | .nan => 0
  | .infinite negative => if negative then lo else hi
  | .finite negative significand exponent =>
    max lo (min hi (rounding.apply negative significand exponent))

/-- `x` rounded to a natural number of `bits` bits, saturating at both ends. -/
def toUnsigned (rounding : Rounding) (bits : Nat) (x : Float32) : Nat :=
  (toRange rounding 0 ((Nat.pow 2 bits : Int) - 1) x).toNat

/-- The integer that `x` is, when it is one. -/
def integer? (x : Float32) : Option Int :=
  match decode x with
  | .finite negative significand exponent =>
    if significand * Nat.pow 2 exponent.toNat % Nat.pow 2 (-exponent).toNat == 0 then
      some (Rounding.towardZero.apply negative significand exponent)
    else none
  | _ => none

/-! ## Numbers from exact values -/

/-- The number nearest to `n`, for `n` below `2 ^ 64`. -/
def ofNat (n : Nat) : Float32 :=
  n.toUInt64.toFloat32

/-- The number nearest to `n`, for magnitudes below `2 ^ 64`. -/
def ofInt (n : Int) : Float32 :=
  if n < 0 then -ofNat n.natAbs else ofNat n.natAbs

/-- `n / unit` rounded to an integer, a tie going to the even neighbour. -/
def divToEven (n unit : Nat) : Nat :=
  let whole := n / unit
  let rest := n % unit
  if unit < 2 * rest || (2 * rest == unit && whole % 2 == 1) then whole + 1 else whole

/-- The number nearest to `significand * 2 ^ exponent`, a tie going to the even neighbour. The
last place kept is the 24th of the significand, or `2 ^ -149` for tiny values. -/
def ofDyadic (significand : Nat) (exponent : Int) : Float32 :=
  let place := max (exponent + (significand.log2 + 1) - 24) (-149)
  let kept := divToEven (significand * Nat.pow 2 (exponent - place).toNat)
    (Nat.pow 2 (place - exponent).toNat)
  let carried := kept == 0x1000000
  let fraction := if carried then 0x800000 else kept
  let place := if carried then place + 1 else place
  let bits :=
    if fraction < 0x800000 then fraction
    else if 104 < place then 0x7f800000
    else (place + 150).toNat * 0x800000 + (fraction - 0x800000)
  Float32.ofBits bits.toUInt32

/-- `n / d` computed in binary64 and then narrowed: two roundings, each to nearest. The operands
stay below `2 ^ 64`, and `d` is positive. -/
def quotient (n d : Nat) : Float32 :=
  let bits := (n.toUInt64.toFloat / d.toUInt64.toFloat).toBits.toNat
  let biased : Nat := bits / 0x10000000000000
  let fraction : Nat := bits % 0x10000000000000
  if biased == 0 then ofDyadic fraction (-1074)
  else ofDyadic (0x10000000000000 + fraction) ((biased : Int) - 1075)

end Bouquet.Binary32
