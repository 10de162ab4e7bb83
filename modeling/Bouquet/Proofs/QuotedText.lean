import Mathlib.Tactic.SplitIfs
import Bouquet.Toml.Quoted

/-!
# Quoted Texts and Back

A text is written in one of four quoted forms, each of which has its own way of telling the marks
and control characters of the text from those of the form. The basic forms write some characters as
escapes; the long forms hold marks as they are as long as no three stand in a row, which is also
how they end. Whatever form is chosen, the reader finds the text again.

## Main definitions

- `Written`: how a character stands in a basic text
- `MayFollow`: what may stand after a mark that belongs to a long text
- `QuotedForm`: the forms in which a text may be written

## Main statements

- `readBasic_writeBasic`, `readLongBasic_writeLongBasic`, `readLiteral_text`,
  `readLongLiteral_text`: the four forms
- `readQuoted_writeQuoted`: a quoted text that ends its line is read back
-/

namespace Bouquet.Toml

/-! ## Written characters -/

/-- The ways in which a character other than a quotation mark stands in a basic text. -/
inductive Written (c : Char) : List Char → Prop where
  /-- As it is. -/
  | plain (hplain : isPlain c = true) (hquote : c ≠ doubleQuote) (hslash : c ≠ '\\') : Written c [c]
  /-- As a letter after a backslash. -/
  | escape (letter : Char) (h : escaped? letter = some c) : Written c ['\\', letter]
  /-- By its number. -/
  | number (a b : Char) (h : scalar? ['0', '0', a, b] = some c) :
      Written c ['\\', 'u', '0', '0', a, b]

/-- Four hexadecimal digits write every number below 128. -/
theorem scalar?_hexDigits : ∀ n < 128,
    scalar? ['0', '0', hexDigit (n / 16), hexDigit (n % 16)] = some (Char.ofNat n) := by
  decide

theorem isPlain_of_not_needsEscape {c : Char} (h : needsEscape c = false) (hline : c ≠ '\n') :
    isPlain c = true := by
  simp only [needsEscape, Bool.or_eq_false_iff, Bool.and_eq_false_iff, beq_eq_false_iff_ne,
    bne_eq_false_iff_eq, decide_eq_false_iff_not] at h
  simp only [isPlain, Bool.or_eq_true, beq_iff_eq, Bool.and_eq_true, decide_eq_true_eq, bne_iff_ne]
  obtain ⟨hlow, hdelete⟩ := h
  rcases hlow with (hlow | rfl) | rfl
  · exact Or.inr ⟨by omega, hdelete⟩
  · exact Or.inl rfl
  · exact absurd rfl hline

theorem ne_of_isPlain {c d : Char} (h : isPlain c = true) (hd : isPlain d = false) : c ≠ d := by
  rintro rfl
  rw [h] at hd
  cases hd

/-- The writer uses these ways only. -/
theorem written_writeChar {c : Char} (hquote : c ≠ doubleQuote) (hline : c ≠ '\n') :
    Written c (writeChar c) := by
  unfold writeChar
  simp only [beq_iff_eq]
  split_ifs with hb ht hf hr hslash hescape
  · exact hb ▸ .escape 'b' rfl
  · exact ht ▸ .escape 't' rfl
  · exact hf ▸ .escape 'f' rfl
  · exact hr ▸ .escape 'r' rfl
  · exact hslash ▸ .escape '\\' rfl
  · have hlow : c.toNat < 128 := by
      simp only [needsEscape, Bool.or_eq_true, Bool.and_eq_true, decide_eq_true_eq, beq_iff_eq]
        at hescape
      omega
    have hscalar := scalar?_hexDigits c.toNat hlow
    rw [Char.ofNat_toNat] at hscalar
    exact .number _ _ hscalar
  · exact .plain (isPlain_of_not_needsEscape (by simpa using hescape) hline) hquote hslash

theorem not_number_of_escaped? {letter c : Char} (h : escaped? letter = some c) :
    letter ≠ 'u' ∧ letter ≠ 'U' := by
  constructor <;> (rintro rfl; cases h)

theorem endsLine_of_escaped? {letter c : Char} (h : escaped? letter = some c) (rest : List Char) :
    endsLine (letter :: rest) = false := by
  have hspace : isSpace letter = false := by
    simp only [isSpace, Bool.or_eq_false_iff, beq_eq_false_iff_ne]
    constructor <;> (rintro rfl; cases h)
  have hfeed : letter ≠ '\n' := by rintro rfl; cases h
  have hreturn : letter ≠ '\r' := by rintro rfl; cases h
  simp [endsLine, hspace, hfeed, hreturn]

/-- A written character is read back in a text on one line. -/
theorem Written.readBasic {c : Char} {written : List Char} (h : Written c written)
    (rest : List Char) :
    Toml.readBasic (written ++ rest) = (Toml.readBasic rest).map (withChar c) := by
  cases h with
  | plain hplain hquote hslash =>
    simp [Toml.readBasic, hplain, hquote, hslash]
  | escape letter h =>
    obtain ⟨hu, hU⟩ := not_number_of_escaped? h
    cases hrest : Toml.readBasic rest <;> simp [Toml.readBasic, h, hu, hU, hrest]
  | number a b h =>
    cases hrest : Toml.readBasic rest <;> simp [Toml.readBasic, h, hrest]

/-- A written character is read back in a text on several lines. -/
theorem Written.readLongBasic {c : Char} {written : List Char} (h : Written c written)
    (rest : List Char) :
    Toml.readLongBasic false (written ++ rest)
      = (Toml.readLongBasic false rest).map (withChar c) := by
  cases h with
  | plain hplain hquote hslash =>
    have hreturn : c ≠ '\r' := ne_of_isPlain hplain rfl
    rw [doubleQuote] at hquote
    simp [Toml.readLongBasic, hplain, hquote, hslash, hreturn]
  | escape letter h =>
    obtain ⟨hu, hU⟩ := not_number_of_escaped? h
    cases hrest : Toml.readLongBasic false rest <;>
      simp [Toml.readLongBasic, h, hu, hU, endsLine_of_escaped? h, hrest]
  | number a b h =>
    cases hrest : Toml.readLongBasic false rest <;> simp [Toml.readLongBasic, h, hrest]

theorem Written.exists_cons {c : Char} {written : List Char} (h : Written c written) :
    ∃ first more, written = first :: more ∧ first ≠ doubleQuote ∧ isPlain first = true := by
  cases h with
  | plain hplain hquote hslash => exact ⟨c, [], rfl, hquote, hplain⟩
  | escape letter h => exact ⟨'\\', [letter], rfl, by decide, by decide⟩
  | number a b h => exact ⟨'\\', ['u', '0', '0', a, b], rfl, by decide, by decide⟩

/-- What is written for a character in a text on one line. -/
def writeBasicChar (c : Char) : List Char :=
  if c == doubleQuote then ['\\', doubleQuote] else if c == '\n' then ['\\', 'n'] else writeChar c

theorem written_writeBasicChar (c : Char) : Written c (writeBasicChar c) := by
  unfold writeBasicChar
  simp only [beq_iff_eq]
  split_ifs with hquote hline
  · exact hquote ▸ .escape doubleQuote rfl
  · exact hline ▸ .escape 'n' rfl
  · exact written_writeChar hquote hline

/-- Basic texts on one line are read back. -/
theorem readBasic_writeBasic (text rest : List Char) :
    readBasic (writeBasic text ++ doubleQuote :: rest) = some (text, rest) := by
  induction text with
  | nil => simp [writeBasic, readBasic, doubleQuote]
  | cons c text ih =>
    have hwrite : writeBasic (c :: text) = writeBasicChar c ++ writeBasic text := rfl
    rw [hwrite, List.append_assoc, (written_writeBasicChar c).readBasic, ih]
    rfl

/-! ## Marks inside of long texts -/

/-- What may stand after a mark for that mark to belong to a text between three of them: something
else, one more mark at most, or the closing marks after either. -/
inductive MayFollow (mark : Char) : List Char → Prop where
  | other (c : Char) (rest : List Char) (hc : c ≠ mark) : MayFollow mark (c :: rest)
  | second (c : Char) (rest : List Char) (hc : c ≠ mark) : MayFollow mark (mark :: c :: rest)
  | closing (c : Char) (rest : List Char) (hc : c ≠ mark) :
      MayFollow mark (mark :: mark :: mark :: c :: rest)
  | secondClosing (c : Char) (rest : List Char) (hc : c ≠ mark) :
      MayFollow mark (mark :: mark :: mark :: mark :: c :: rest)

/-- A mark before such input belongs to the text. -/
theorem MayFollow.readLongBasic {input : List Char} (h : MayFollow doubleQuote input) :
    Toml.readLongBasic false (doubleQuote :: input)
      = (Toml.readLongBasic false input).map (withChar doubleQuote) := by
  have hplain : isPlain doubleQuote = true := by decide
  cases h with
  | other c rest hc | second c rest hc =>
    -- fewer than three marks stand in a row, so that no closing ones are taken for them
    rw [doubleQuote] at *
    simp [Toml.readLongBasic, hc, hplain]
  | closing c rest hc | secondClosing c rest hc =>
    -- of four or five marks the last three close the text
    rw [doubleQuote] at *
    simp [Toml.readLongBasic, hc]
    rfl

/-- A mark before such input belongs to the text. -/
theorem MayFollow.readLongLiteral {input : List Char} (h : MayFollow singleQuote input) :
    Toml.readLongLiteral (singleQuote :: input)
      = (Toml.readLongLiteral input).map (withChar singleQuote) := by
  have hplain : isPlain singleQuote = true := by decide
  cases h with
  | other c rest hc | second c rest hc =>
    rw [singleQuote] at *
    simp [Toml.readLongLiteral, hc, hplain]
  | closing c rest hc | secondClosing c rest hc =>
    rw [singleQuote] at *
    simp [Toml.readLongLiteral, hc]
    rfl

/-- Three marks at the end of a line. -/
def closing (mark : Char) (rest : List Char) : List Char := mark :: mark :: mark :: '\n' :: rest

/-! ## Long basic texts -/

theorem writeLongBasic_cons {c : Char} (hquote : c ≠ doubleQuote) (hline : c ≠ '\n') (marks : Nat)
    (text : List Char) :
    writeLongBasic marks (c :: text) = writeChar c ++ writeLongBasic 0 text := by
  simp [writeLongBasic, hquote, hline]

/-- What is written for a character other than a quotation mark begins with something else. -/
theorem writeLongBasic_cons_of_ne {c : Char} (hquote : c ≠ doubleQuote) (marks : Nat)
    (text : List Char) :
    ∃ first more, writeLongBasic marks (c :: text) = first :: more ∧ first ≠ doubleQuote := by
  by_cases hline : c = '\n'
  · subst hline
    exact ⟨'\n', writeLongBasic 0 text, by simp [writeLongBasic, hquote], by decide⟩
  · obtain ⟨first, more, hwritten, hfirst, -⟩ := (written_writeChar hquote hline).exists_cons
    exact ⟨first, more ++ writeLongBasic 0 text,
      by rw [writeLongBasic_cons hquote hline, hwritten, List.cons_append], hfirst⟩

/-- After two marks in a row no third one is written as it is. -/
theorem writeLongBasic_two (text : List Char) :
    writeLongBasic 2 text = [] ∨
      ∃ first more, writeLongBasic 2 text = first :: more ∧ first ≠ doubleQuote := by
  cases text with
  | nil => exact Or.inl rfl
  | cons c text =>
    right
    by_cases hquote : c = doubleQuote
    · subst hquote
      exact ⟨'\\', doubleQuote :: writeLongBasic 0 text, rfl, by decide⟩
    · exact writeLongBasic_cons_of_ne hquote 2 text

theorem mayFollow_writeLongBasic_two (text rest : List Char) :
    MayFollow doubleQuote (writeLongBasic 2 text ++ closing doubleQuote rest) := by
  rcases writeLongBasic_two text with hnil | ⟨first, more, hcons, hfirst⟩
  · rw [hnil]
    exact .closing '\n' rest (by decide)
  · rw [hcons]
    exact .other first _ hfirst

theorem mayFollow_writeLongBasic_one (text rest : List Char) :
    MayFollow doubleQuote (writeLongBasic 1 text ++ closing doubleQuote rest) := by
  cases text with
  | nil => exact .closing '\n' rest (by decide)
  | cons c text =>
    by_cases hquote : c = doubleQuote
    · subst hquote
      change MayFollow doubleQuote
        (doubleQuote :: (writeLongBasic 2 text ++ closing doubleQuote rest))
      rcases writeLongBasic_two text with hnil | ⟨first, more, hcons, hfirst⟩
      · rw [hnil]
        exact .secondClosing '\n' rest (by decide)
      · rw [hcons]
        exact .second first _ hfirst
    · obtain ⟨first, more, hcons, hfirst⟩ := writeLongBasic_cons_of_ne hquote 1 text
      rw [hcons]
      exact .other first _ hfirst

theorem readLongBasic_lineFeed (rest : List Char) :
    readLongBasic false ('\n' :: rest) = (readLongBasic false rest).map (withChar '\n') := by
  simp [readLongBasic]

/-- The next character is read back, and the rest of the text stands behind other marks. -/
theorem readLongBasic_step (c : Char) (text rest : List Char) {marks : Nat} (h : marks ≤ 2) :
    ∃ next ≤ 2, readLongBasic false (writeLongBasic marks (c :: text) ++ closing doubleQuote rest)
      = (readLongBasic false (writeLongBasic next text ++ closing doubleQuote rest)).map
          (withChar c) := by
  by_cases hquote : c = doubleQuote
  · subst hquote
    rcases (by omega : marks = 0 ∨ marks = 1 ∨ marks = 2) with rfl | rfl | rfl
    · exact ⟨1, by omega, (mayFollow_writeLongBasic_one text rest).readLongBasic⟩
    · exact ⟨2, by omega, (mayFollow_writeLongBasic_two text rest).readLongBasic⟩
    · -- the third mark in a row is written as an escape
      exact ⟨0, by omega, (Written.escape doubleQuote rfl).readLongBasic _⟩
  · by_cases hline : c = '\n'
    · subst hline
      exact ⟨0, by omega, readLongBasic_lineFeed _⟩
    · rw [writeLongBasic_cons hquote hline, List.append_assoc]
      exact ⟨0, by omega, (written_writeChar hquote hline).readLongBasic _⟩

/-- Long basic texts are read back, whatever number of marks stands before them. -/
theorem readLongBasic_writeLongBasic (text rest : List Char) {marks : Nat} (h : marks ≤ 2) :
    readLongBasic false (writeLongBasic marks text ++ closing doubleQuote rest)
      = some (text, '\n' :: rest) := by
  induction text generalizing marks with
  | nil => rfl
  | cons c text ih =>
    obtain ⟨next, hnext, hstep⟩ := readLongBasic_step c text rest h
    rw [hstep, ih hnext]
    rfl

/-! ## Long literal texts -/

theorem le_longestRunFrom (mark : Char) (running best : Nat) (text : List Char) :
    best ≤ longestRunFrom mark running best text := by
  induction text generalizing running best with
  | nil => exact Nat.le_refl best
  | cons c text ih =>
    rw [longestRunFrom]
    split
    · exact Nat.le_trans (Nat.le_max_left ..) (ih ..)
    · exact ih ..

/-- A run of marks that is open is no longer than the longest one. -/
theorem running_lt_longestRunFrom (mark : Char) (running best : Nat) (text : List Char) :
    running < longestRunFrom mark running best (mark :: text) := by
  rw [longestRunFrom, if_pos (beq_self_eq_true mark)]
  have := le_longestRunFrom mark (running + 1) (max best (running + 1)) text
  omega

/-- In a text without three marks in a row, a mark belongs to the text. -/
theorem mayFollow_of_longestRunFrom {running best : Nat} {text : List Char} (rest : List Char)
    (hrunning : 1 ≤ running)
    (h : longestRunFrom singleQuote running best text ≤ 2) :
    MayFollow singleQuote (text ++ closing singleQuote rest) := by
  cases text with
  | nil => exact .closing '\n' rest (by decide)
  | cons c text =>
    by_cases hquote : c = singleQuote
    · subst hquote
      -- the run has at least two marks now, so that it ends here
      cases text with
      | nil => exact .secondClosing '\n' rest (by decide)
      | cons d text =>
        by_cases hagain : d = singleQuote
        · subst hagain
          have hlt := running_lt_longestRunFrom singleQuote (running + 1)
            (max best (running + 1)) text
          rw [longestRunFrom, if_pos (beq_self_eq_true singleQuote)] at h
          omega
        · exact .second d _ hagain
    · exact .other c _ hquote

/-- Long literal texts are read back when no three marks stand in a row. -/
theorem readLongLiteral_text (text rest : List Char) {running best : Nat}
    (hplain : ∀ c ∈ text, needsEscape c = false)
    (h : longestRunFrom singleQuote running best text ≤ 2) :
    readLongLiteral (text ++ closing singleQuote rest) = some (text, '\n' :: rest) := by
  induction text generalizing running best with
  | nil => rfl
  | cons c text ih =>
    obtain ⟨hc, htext⟩ := List.forall_mem_cons.mp hplain
    by_cases hquote : c = singleQuote
    · subst hquote
      rw [longestRunFrom, if_pos (beq_self_eq_true singleQuote)] at h
      have hread := (mayFollow_of_longestRunFrom rest (by omega) h).readLongLiteral
      rw [ih htext h] at hread
      exact hread
    · have hrun : longestRunFrom singleQuote 0 best text ≤ 2 := by
        simpa [longestRunFrom, hquote] using h
      have hline : (c == '\n' || isPlain c) = true := by
        by_cases hfeed : c = '\n'
        · simp [hfeed]
        · simp [isPlain_of_not_needsEscape hc hfeed]
      have hreturn : c ≠ '\r' := by rintro rfl; cases hc
      rw [singleQuote] at hquote
      simp [readLongLiteral, hquote, hreturn, hline, ih htext hrun, withChar]

/-! ## Quoted texts -/

/-- Literal texts on one line are read back. -/
theorem readLiteral_text (text rest : List Char) (hplain : ∀ c ∈ text, isPlain c = true)
    (hquote : singleQuote ∉ text) :
    readLiteral (text ++ singleQuote :: rest) = some (text, rest) := by
  induction text with
  | nil => rfl
  | cons c text ih =>
    obtain ⟨hc, htext⟩ := List.forall_mem_cons.mp hplain
    simp only [List.mem_cons, not_or] at hquote
    simp [readLiteral, hc, Ne.symm hquote.1, ih htext hquote.2, withChar]

theorem longestRunFrom_pos {mark : Char} {text : List Char} (h : mark ∈ text)
    (running best : Nat) : 0 < longestRunFrom mark running best text := by
  induction text generalizing running best with
  | nil => cases h
  | cons c text ih =>
    by_cases hmark : c = mark
    · subst hmark
      exact Nat.zero_lt_of_lt (running_lt_longestRunFrom c running best text)
    · have htext : mark ∈ text := (List.mem_cons.mp h).resolve_left (Ne.symm hmark)
      rw [longestRunFrom, if_neg (by simpa using hmark)]
      exact ih htext 0 best

theorem not_mem_of_longestRun_eq_zero {mark : Char} {text : List Char}
    (h : longestRun mark text = 0) : mark ∉ text :=
  fun hmem => absurd h (Nat.pos_iff_ne_zero.mp (longestRunFrom_pos hmem 0 0))

/-- The line end that stands before a text of several lines. -/
def lead (text : List Char) : List Char := if text.contains '\n' then ['\n'] else []

theorem dropLineEnd_of_isPlain {c : Char} (h : isPlain c = true) (rest : List Char) :
    dropLineEnd (c :: rest) = c :: rest := by
  have hfeed : c ≠ '\n' := ne_of_isPlain h rfl
  have hreturn : c ≠ '\r' := ne_of_isPlain h rfl
  simp [dropLineEnd, hfeed, hreturn]

/-- The line end that opens a long text is left out, and no other. -/
theorem dropLineEnd_lead {text body : List Char}
    (h : '\n' ∉ text → ∃ first more, body = first :: more ∧ isPlain first = true) :
    dropLineEnd (lead text ++ body) = body := by
  by_cases hlines : '\n' ∈ text
  · simp [lead, hlines, dropLineEnd]
  · obtain ⟨first, more, rfl, hfirst⟩ := h hlines
    simp [lead, hlines, dropLineEnd_of_isPlain hfirst]

/-- The forms in which a text may be written, each with what it cannot hold. -/
inductive QuotedForm (text : List Char) : List Char → Prop where
  | basic : QuotedForm text (enclose [doubleQuote] (writeBasic text))
  | literal (hplain : ∀ c ∈ text, needsEscape c = false) (hlines : '\n' ∉ text)
      (hquote : singleQuote ∉ text) : QuotedForm text (enclose [singleQuote] text)
  | longBasic :
      QuotedForm text (enclose [doubleQuote, doubleQuote, doubleQuote]
        (lead text ++ writeLongBasic 0 text))
  | longLiteral (hplain : ∀ c ∈ text, needsEscape c = false)
      (hrun : longestRun singleQuote text ≤ 2) :
      QuotedForm text (enclose [singleQuote, singleQuote, singleQuote] (lead text ++ text))

/-- The writer chooses a form that can hold the text. -/
theorem quotedForm_writeQuoted (text : List Char) : QuotedForm text (writeQuoted text) := by
  have hplain : (!text.any needsEscape) = true → ∀ c ∈ text, needsEscape c = false := by simp
  simp only [writeQuoted]
  split
  case isTrue => exact .basic
  split
  case isTrue h =>
    simp only [Bool.and_eq_true, beq_iff_eq] at h
    obtain ⟨⟨hescape, hsingle⟩, hlines⟩ := h
    exact .literal (hplain hescape) (by simpa using hlines) (not_mem_of_longestRun_eq_zero hsingle)
  split
  case isTrue => exact .longBasic
  split
  case isTrue h =>
    simp only [Bool.and_eq_true, decide_eq_true_eq] at h
    exact .longLiteral (hplain h.1) h.2
  split
  case isTrue hlines =>
    have hlead : lead text = ['\n'] := if_pos hlines
    rw [← hlead]
    exact .longBasic
  case isFalse => exact .basic

/-- Every form begins with a mark. -/
theorem QuotedForm.exists_cons {text written : List Char} (h : QuotedForm text written) :
    ∃ mark more, written = mark :: more ∧ (mark = doubleQuote ∨ mark = singleQuote) := by
  cases h with
  | basic | longBasic => exact ⟨doubleQuote, _, rfl, Or.inl rfl⟩
  | literal | longLiteral => exact ⟨singleQuote, _, rfl, Or.inr rfl⟩

/-- A text in any of the forms is read back. -/
theorem QuotedForm.readQuoted {text written : List Char} (h : QuotedForm text written)
    (rest : List Char) :
    Toml.readQuoted (written ++ '\n' :: rest) = some (text, '\n' :: rest) := by
  cases h with
  | basic =>
    have hread := readBasic_writeBasic text ('\n' :: rest)
    -- the text begins with no mark that could be taken for a second opening one
    cases text with
    | nil => rfl
    | cons c text =>
      obtain ⟨first, more, hcons, hfirst, -⟩ := (written_writeBasicChar c).exists_cons
      have hwrite : writeBasic (c :: text) = first :: (more ++ writeBasic text) := by
        rw [← List.cons_append, ← hcons]
        rfl
      rw [doubleQuote] at hfirst
      rw [← hread, hwrite]
      simp [enclose, Toml.readQuoted, doubleQuote, hfirst]
  | literal hplain hlines hquote =>
    have hread := readLiteral_text text ('\n' :: rest)
      (fun c hc => isPlain_of_not_needsEscape (hplain c hc) fun hfeed => hlines (hfeed ▸ hc)) hquote
    cases text with
    | nil => rfl
    | cons c text =>
      have hc : c ≠ singleQuote := fun heq => hquote (heq ▸ List.mem_cons_self)
      rw [singleQuote] at hc
      rw [← hread]
      simp [enclose, Toml.readQuoted, singleQuote, hc]
  | longBasic =>
    have hdrop : dropLineEnd (lead text ++ (writeLongBasic 0 text ++ closing doubleQuote rest))
        = writeLongBasic 0 text ++ closing doubleQuote rest := by
      refine dropLineEnd_lead fun hlines => ?_
      cases text with
      | nil => exact ⟨doubleQuote, _, rfl, by decide⟩
      | cons c text =>
        have hfeed : c ≠ '\n' := fun heq => hlines (heq ▸ List.mem_cons_self)
        by_cases hquote : c = doubleQuote
        · subst hquote
          exact ⟨doubleQuote, _, rfl, by decide⟩
        · obtain ⟨first, more, hcons, -, hfirst⟩ := (written_writeChar hquote hfeed).exists_cons
          rw [writeLongBasic_cons hquote hfeed, hcons]
          exact ⟨first, _, rfl, hfirst⟩
    have hread := readLongBasic_writeLongBasic text rest (Nat.zero_le 2)
    rw [← hdrop] at hread
    simpa [enclose, closing, doubleQuote, Toml.readQuoted] using hread
  | longLiteral hplain hrun =>
    have hdrop : dropLineEnd (lead text ++ (text ++ closing singleQuote rest))
        = text ++ closing singleQuote rest := by
      refine dropLineEnd_lead fun hlines => ?_
      cases text with
      | nil => exact ⟨singleQuote, _, rfl, by decide⟩
      | cons c text =>
        have hfeed : c ≠ '\n' := fun heq => hlines (heq ▸ List.mem_cons_self)
        exact ⟨c, _, rfl,
          isPlain_of_not_needsEscape (hplain c List.mem_cons_self) hfeed⟩
    have hread := readLongLiteral_text text rest hplain hrun
    rw [← hdrop] at hread
    simpa [enclose, closing, singleQuote, Toml.readQuoted] using hread

/-- A quoted text that ends its line is read back. -/
theorem readQuoted_writeQuoted (text rest : List Char) :
    readQuoted (writeQuoted text ++ '\n' :: rest) = some (text, '\n' :: rest) :=
  (quotedForm_writeQuoted text).readQuoted rest

end Bouquet.Toml
