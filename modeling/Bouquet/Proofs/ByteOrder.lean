import Bouquet.Reference.Hash
import Mathlib.Data.String.Basic

/-!
# Texts Compare as Their Bytes

Paths compare code point by code point. In UTF-8 this is the comparison byte by byte: a character
with more bytes has a greater first byte, and characters with as many bytes hold their code points
in digits of six bits, the highest first.

## Main definitions

- `Utf8.extraBytes`, `Utf8.leadByte`, `Utf8.trailing`: the bytes of a code point, by its digits

## Main statements

- `Utf8.encode_append_lt`: the bytes of a smaller character are smaller, whatever follows
- `Identity.pathBytes_lt_iff`, `Identity.pathBytes_inj`: paths and their bytes
-/

namespace Bouquet

open String (utf8EncodeChar)

namespace Utf8

/-! ## The bytes of a code point -/

/-- How many bytes follow the first one. -/
def extraBytes (n : Nat) : Nat :=
  if n ≤ 0x7F then 0 else if n ≤ 0x7FF then 1 else if n ≤ 0xFFFF then 2 else 3

/-- What marks a first byte that `extra` bytes follow. -/
def leadMark (extra : Nat) : Nat :=
  match extra with
  | 0 => 0
  | 1 => 0xC0
  | 2 => 0xE0
  | _ => 0xF0

/-- The first byte holds the highest digit. -/
def leadByte (n : Nat) : Nat :=
  n / 64 ^ extraBytes n + leadMark (extraBytes n)

/-- The lowest `extra` digits, the highest of them first. -/
def trailing (extra n : Nat) : List UInt8 :=
  match extra with
  | 0 => []
  | k + 1 => trailing k (n / 64) ++ [UInt8.ofNat (n % 64 + 0x80)]

theorem codePoint_lt (c : Char) : c.toNat < 0x110000 := by
  rcases c.valid with h | h <;> simp only [Char.toNat] <;> omega

theorem encode_eq (c : Char) :
    utf8EncodeChar c
      = UInt8.ofNat (leadByte c.toNat) :: trailing (extraBytes c.toNat) c.toNat := by
  have hc := codePoint_lt c
  have hval : c.val.toNat = c.toNat := rfl
  -- the digit in the first byte is not reduced, as the code point is in range
  simp only [utf8EncodeChar, hval, leadByte, extraBytes]
  split
  · simp [leadMark, trailing]
  · split
    · have hlead : c.toNat / 64 % 32 = c.toNat / 64 := Nat.mod_eq_of_lt (by omega)
      simp [leadMark, trailing, hlead]
    · split
      · have hlead : c.toNat / 4096 % 16 = c.toNat / 4096 := Nat.mod_eq_of_lt (by omega)
        simp [leadMark, trailing, hlead]
      · have hlead : c.toNat / 262144 % 8 = c.toNat / 262144 := Nat.mod_eq_of_lt (by omega)
        simp [leadMark, trailing, hlead, Nat.div_div_eq_div_mul]

/-! ## Comparing characters -/

theorem ofNat_cons_lt {m n : Nat} (h : m < n) (hn : n < 256) (xs ys : List UInt8) :
    UInt8.ofNat m :: xs < UInt8.ofNat n :: ys := by
  apply List.cons_lt_cons_iff.mpr
  left
  exact (UInt8.ofNat_lt_iff_lt (h.trans hn) hn).mpr h

theorem leadByte_lt {n : Nat} (h : n < 0x110000) : leadByte n < 256 := by
  simp only [leadByte, extraBytes]
  split_ifs <;> simp only [leadMark] <;> omega

theorem extraBytes_mono {m n : Nat} (h : m ≤ n) : extraBytes m ≤ extraBytes n := by
  simp only [extraBytes]
  split_ifs <;> omega

theorem leadByte_lt_of_extraBytes_lt {m n : Nat} (hm : m < 0x110000)
    (h : extraBytes m < extraBytes n) : leadByte m < leadByte n := by
  revert h
  simp only [leadByte, extraBytes]
  split_ifs <;> simp only [leadMark] <;> omega

/-- Where the digits before them are the same, the trailing digits decide. -/
theorem trailing_append_lt {k m n : Nat} (hlt : m < n) (hlead : m / 64 ^ k = n / 64 ^ k)
    (xs ys : List UInt8) : trailing k m ++ xs < trailing k n ++ ys := by
  -- the last digit is split off, so what follows the digits before it varies
  induction k generalizing m n xs ys with
  | zero =>
    simp only [Nat.pow_zero, Nat.div_one] at hlead
    omega
  | succ k ih =>
    simp only [trailing, List.append_assoc]
    rcases Nat.lt_or_ge (m / 64) (n / 64) with hhigh | hhigh
    · rw [Nat.pow_succ', ← Nat.div_div_eq_div_mul, ← Nat.div_div_eq_div_mul] at hlead
      exact ih hhigh hlead _ _
    · -- only the last digits differ
      have hsame : m / 64 = n / 64 := by omega
      rw [hsame]
      apply List.append_left_lt
      exact ofNat_cons_lt (by omega) (by omega) xs ys

/-- The bytes of a smaller character are smaller, and not only because they end earlier. -/
theorem encode_append_lt {c d : Char} (h : c < d) (xs ys : List UInt8) :
    utf8EncodeChar c ++ xs < utf8EncodeChar d ++ ys := by
  have hlt : c.toNat < d.toNat := h
  have hd := leadByte_lt (codePoint_lt d)
  rw [encode_eq, encode_eq, List.cons_append, List.cons_append]
  -- the number of bytes decides, then the digit in the first byte, then those after it
  rcases (extraBytes_mono hlt.le).lt_or_eq with hextra | hextra
  · exact ofNat_cons_lt (leadByte_lt_of_extraBytes_lt (codePoint_lt c) hextra) hd _ _
  · have hdigit : c.toNat / 64 ^ extraBytes d.toNat ≤ d.toNat / 64 ^ extraBytes d.toNat :=
      Nat.div_le_div_right hlt.le
    rcases hdigit.lt_or_eq with hdigit | hdigit
    · refine ofNat_cons_lt ?_ hd _ _
      simpa only [leadByte, hextra] using Nat.add_lt_add_right hdigit _
    · have hlead : leadByte c.toNat = leadByte d.toNat := by
        rw [leadByte, leadByte, hextra, hdigit]
      rw [hlead, hextra]
      apply List.cons_lt_cons_iff.mpr
      exact .inr ⟨rfl, trailing_append_lt hlt hdigit xs ys⟩

/-! ## Comparing texts -/

theorem flatMap_encode_lt {cs ds : List Char} (h : cs < ds) :
    cs.flatMap utf8EncodeChar < ds.flatMap utf8EncodeChar := by
  induction h with
  | nil =>
    rw [List.flatMap_cons, encode_eq]
    exact List.Lex.nil
  | rel hlt =>
    rw [List.flatMap_cons, List.flatMap_cons]
    exact encode_append_lt hlt _ _
  | cons _ ih =>
    rw [List.flatMap_cons, List.flatMap_cons]
    exact List.append_left_lt ih

end Utf8

namespace Identity

theorem pathBytes_eq (i : Identity) : i.pathBytes = i.path.toList.flatMap utf8EncodeChar := by
  rw [pathBytes, String.toUTF8_eq_toByteArray, ← String.utf8Encode_toList, List.utf8Encode,
    List.data_toByteArray]

theorem pathBytes_lt_of_lt {i j : Identity} (h : i.path < j.path) :
    i.pathBytes < j.pathBytes := by
  rw [pathBytes_eq, pathBytes_eq]
  exact Utf8.flatMap_encode_lt (String.lt_iff.mp h)

/-- Different paths have different bytes. -/
theorem pathBytes_inj {i j : Identity} : i.pathBytes = j.pathBytes ↔ i.path = j.path := by
  rw [pathBytes, pathBytes, ← String.toByteArray_inj, ByteArray.ext_iff, Array.toList_inj]
  rfl

/-- Paths compare as their bytes do. -/
theorem pathBytes_lt_iff {i j : Identity} : i.pathBytes < j.pathBytes ↔ i.path < j.path := by
  refine ⟨fun h => ?_, pathBytes_lt_of_lt⟩
  rcases lt_trichotomy i.path j.path with hlt | heq | hgt
  · exact hlt
  · rw [pathBytes_inj.mpr heq] at h
    exact absurd h (List.lt_irrefl _)
  · exact absurd h (List.lt_asymm (pathBytes_lt_of_lt hgt))

end Identity

end Bouquet
