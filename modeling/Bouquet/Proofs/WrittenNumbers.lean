import Mathlib.Data.List.Basic
import Mathlib.Data.Nat.Digits.Defs
import Bouquet.Toml.Number

/-!
# Written Numbers and Back

A number is written in decimal digits with a minus in front when it is negative. At the end of a
line the reader could take such digits for the beginning of a date, of a time or of a float, but
none of them goes on where the line ends.

## Main definitions

- `Numeral`: what is known of the digits of a number
- `signOf`, `signed`: the sign of a number and its value with it

## Main statements

- `numeral_toDigits`: decimal digits are a numeral
- `Numeral.readNumeric`: a numeral with its sign is read as an integer
-/

namespace Bouquet.Toml

/-! ## Numerals -/

/-- A decimal numeral: digits that write a number, with no zero in front. -/
structure Numeral (digits : List Char) (n : Nat) : Prop where
  isDigit : ∀ c ∈ digits, isDigitOf 10 c = true
  number : numberOf 10 digits = n
  whole : digits = ['0'] ∨ ∃ first more, digits = first :: more ∧ first ≠ '0'

theorem digitValue?_of_isDigit {c : Char} (h : c.isDigit = true) :
    digitValue? 10 c = some (c.toNat - 48) := by
  have hbounds : '0' ≤ c ∧ c ≤ '9' := by
    simpa [Char.isDigit, Char.le_def] using h
  have hlt : c.toNat - 48 < 10 := by
    have hle : c.toNat ≤ '9'.toNat := hbounds.2
    have h9 : '9'.toNat = 57 := rfl
    omega
  simp [digitValue?, hbounds, hlt]

theorem numberOf_eq_ofDigitChars {digits : List Char} (h : ∀ c ∈ digits, c.isDigit = true) :
    numberOf 10 digits = Nat.ofDigitChars 10 digits 0 := by
  unfold numberOf Nat.ofDigitChars
  refine List.foldl_ext _ _ _ fun n c hc => ?_
  rw [digitValue?_of_isDigit (h c hc), Nat.mul_comm]
  rfl

/-- The digits of a positive number do not begin with a zero. -/
theorem toDigits_of_pos {n : Nat} (h : 0 < n) :
    ∃ first more, Nat.toDigits 10 n = first :: more ∧ first ≠ '0' := by
  induction n using Nat.strongRecOn with
  | ind n ih =>
    rw [Nat.toDigits_eq_if (by decide)]
    split
    case isTrue hlt =>
      exact ⟨n.digitChar, [], rfl, mt Nat.digitChar_eq_zero.mp (by omega)⟩
    case isFalse hge =>
      obtain ⟨first, more, hdigits, hfirst⟩ := ih (n / 10) (by omega) (by omega)
      exact ⟨first, more ++ [(n % 10).digitChar], by rw [hdigits, List.cons_append], hfirst⟩

/-- The decimal digits of a number are a numeral for it. -/
theorem numeral_toDigits (n : Nat) : Numeral (Nat.toDigits 10 n) n where
  isDigit := by
    intro c hc
    have h := Nat.isDigit_of_mem_toDigits (by decide) (by decide) hc
    simp [isDigitOf, digitValue?_of_isDigit h]
  number := by
    rw [numberOf_eq_ofDigitChars fun c => Nat.isDigit_of_mem_toDigits (by decide) (by decide)]
    exact Nat.ofDigitChars_toDigits (by decide) (by decide)
  whole := by
    rcases Nat.eq_zero_or_pos n with rfl | hpos
    · exact Or.inl rfl
    · exact Or.inr (toDigits_of_pos hpos)

/-! ## Digits that end a line -/

theorem moreDigits_digits {digits : List Char} (h : ∀ c ∈ digits, isDigitOf 10 c = true)
    (rest : List Char) : moreDigits 10 (digits ++ '\n' :: rest) = (digits, '\n' :: rest) := by
  have hfeed : isDigitOf 10 '\n' = false := rfl
  induction digits with
  | nil => simp [moreDigits, hfeed]
  | cons c digits ih =>
    obtain ⟨hc, hdigits⟩ := List.forall_mem_cons.mp h
    have hbar : c ≠ '_' := by rintro rfl; cases hc
    simp [moreDigits, hbar, hc, ih hdigits]

/-- What is left of the digits after some of them were read. -/
theorem readFixed_digits {digits : List Char} (h : ∀ c ∈ digits, isDigitOf 10 c = true)
    (rest : List Char) (count : Nat) {read : Nat × List Char}
    (hread : readFixed count (digits ++ '\n' :: rest) = some read) :
    ∃ left, (∀ c ∈ left, isDigitOf 10 c = true) ∧ read.2 = left ++ '\n' :: rest := by
  induction count generalizing digits read with
  | zero =>
    cases hread
    exact ⟨digits, h, rfl⟩
  | succ count ih =>
    cases digits with
    | nil => cases hread
    | cons c digits =>
      simp only [List.cons_append, readFixed, Option.bind_eq_bind, Option.bind_eq_some_iff] at hread
      obtain ⟨value, -, ⟨later, left⟩, hlater, hread⟩ := hread
      cases hread
      obtain ⟨rest', hrest', hsplit⟩ := ih (List.forall_mem_cons.mp h).2 hlater
      exact ⟨rest', hrest', hsplit⟩

theorem readFixed_of_readPair {lo hi : Nat} {input : List Char} {read : Nat × List Char}
    (h : readPair lo hi input = some read) : readFixed 2 input = some read :=
  (Option.filter_eq_some_iff.mp h).1

/-! ## Numerals that end a line -/

/-- The sign of a number. -/
def signOf (negative : Bool) : List Char := if negative then ['-'] else []

/-- The value of a number with its sign. -/
def signed (negative : Bool) (n : Nat) : Int := if negative then -(n : Int) else n

namespace Numeral

variable {digits : List Char} {n : Nat} (h : Numeral digits n) (negative : Bool)
  (rest : List Char)

include h

theorem exists_cons : ∃ first more, digits = first :: more ∧
    ∀ c, isDigitOf 10 c = false → first ≠ c := by
  have hdigit : ∀ first ∈ digits, ∀ c, isDigitOf 10 c = false → first ≠ c := by
    rintro c hc _ hnot rfl
    rw [h.isDigit c hc] at hnot
    cases hnot
  rcases h.whole with hzero | ⟨first, more, hcons, -⟩
  · exact ⟨'0', [], hzero, hdigit '0' (hzero ▸ List.mem_cons_self)⟩
  · exact ⟨first, more, hcons, hdigit first (hcons ▸ List.mem_cons_self)⟩

/-- A number begins with a minus or a digit. -/
theorem exists_cons_signed : ∃ first more, signOf negative ++ digits = first :: more ∧
    ∀ c, c ≠ '-' → isDigitOf 10 c = false → first ≠ c := by
  cases negative with
  | true => exact ⟨'-', digits, rfl, fun c hc _ => Ne.symm hc⟩
  | false =>
    obtain ⟨first, more, hcons, hfirst⟩ := h.exists_cons
    exact ⟨first, more, hcons, fun c _ hc => hfirst c hc⟩

theorem readWhole : Toml.readWhole (digits ++ '\n' :: rest) = some (digits, '\n' :: rest) := by
  rcases h.whole with rfl | ⟨first, more, rfl, hfirst⟩
  · rfl
  · obtain ⟨hdigit, hmore⟩ := List.forall_mem_cons.mp h.isDigit
    simp [Toml.readWhole, hfirst, readDigits, hdigit, moreDigits_digits hmore]

theorem readSign :
    Toml.readSign (signOf negative ++ (digits ++ rest)) = (negative, digits ++ rest) := by
  obtain ⟨first, more, rfl, hfirst⟩ := h.exists_cons
  cases negative with
  | true => rfl
  | false => simp [signOf, Toml.readSign, hfirst '-' rfl, hfirst '+' rfl]

theorem readInteger (hlow : minInteger ≤ signed negative n)
    (hhigh : signed negative n ≤ maxInteger) :
    Toml.readInteger (signOf negative ++ (digits ++ '\n' :: rest))
      = some (.integer (signed negative n), '\n' :: rest) := by
  -- no mark for another base stands behind a zero
  have hbase : ∀ c more, signOf negative ++ (digits ++ '\n' :: rest) = '0' :: c :: more →
      c = '\n' := by
    intro c more heq
    cases negative with
    | true => cases heq
    | false =>
      rcases h.whole with rfl | ⟨first, digits, rfl, hfirst⟩
      · cases heq
        rfl
      · exact absurd (List.cons.inj heq).1 hfirst
  rw [Toml.readInteger]
  · simp only [h.readSign, h.readWhole, h.number, Option.bind_eq_bind, Option.bind_some]
    exact if_pos ⟨hlow, hhigh⟩
  all_goals
    intro more heq
    cases hbase _ more heq

/-- Neither a fraction nor an exponent stands after the digits of a number. -/
theorem readFloat :
    Toml.readFloat (signOf negative ++ (digits ++ '\n' :: rest)) = none := by
  -- the line ends where a point or the letter of an exponent would stand
  have hdecimal : readDecimal (signOf negative ++ (digits ++ '\n' :: rest)) = none := by
    simp [readDecimal, h.readSign, h.readWhole, readFraction, readExponent]
  have hspecial : readSpecial (signOf negative ++ (digits ++ '\n' :: rest)) = none := by
    obtain ⟨first, more, rfl, hfirst⟩ := h.exists_cons
    rw [readSpecial, h.readSign]
    simp [hfirst 'i' rfl, hfirst 'n' rfl]
  rw [Toml.readFloat, hdecimal, hspecial, Option.or_none]

/-- Neither a date nor a time goes on after the digits of a number. -/
theorem expect_of_readFixed {negative : Bool} {rest : List Char} {count : Nat}
    {read : Nat × List Char}
    (hread : readFixed (count + 1) (signOf negative ++ (digits ++ '\n' :: rest)) = some read)
    (mark : Char) (hdigit : isDigitOf 10 mark = false) (hfeed : mark ≠ '\n') :
    expect mark read.2 = none := by
  cases negative with
  | true =>
    -- a minus is no digit, so that nothing was read
    cases hread
  | false =>
    obtain ⟨left, hleft, hrest⟩ := readFixed_digits h.isDigit rest (count + 1) hread
    rw [hrest]
    cases left with
    | nil => simp [expect, Ne.symm hfeed]
    | cons c left =>
      have hc : c ≠ mark := by
        rintro rfl
        rw [(List.forall_mem_cons.mp hleft).1] at hdigit
        cases hdigit
      simp [expect, hc]

theorem readDateTime :
    Toml.readDateTime (signOf negative ++ (digits ++ '\n' :: rest)) = none := by
  have hdate : readDate (signOf negative ++ (digits ++ '\n' :: rest)) = none := by
    rw [readDate]
    cases hread : readFixed 4 (signOf negative ++ (digits ++ '\n' :: rest)) with
    | none => rfl
    | some read =>
      have hnone := h.expect_of_readFixed hread '-' rfl (by decide)
      simp [hnone]
  have htime : readTime (signOf negative ++ (digits ++ '\n' :: rest)) = none := by
    rw [readTime]
    cases hread : readPair 0 23 (signOf negative ++ (digits ++ '\n' :: rest)) with
    | none => rfl
    | some read =>
      have hnone := h.expect_of_readFixed (readFixed_of_readPair hread) ':' rfl (by decide)
      simp [hnone]
  rw [Toml.readDateTime, hdate, htime]
  rfl

/-- A number with its sign that ends a line is read as an integer. -/
theorem readNumeric (hlow : minInteger ≤ signed negative n)
    (hhigh : signed negative n ≤ maxInteger) :
    Toml.readNumeric (signOf negative ++ (digits ++ '\n' :: rest))
      = some (.integer (signed negative n), '\n' :: rest) := by
  rw [Toml.readNumeric, h.readDateTime, h.readFloat, h.readInteger negative rest hlow hhigh]
  rfl

end Numeral

end Bouquet.Toml
