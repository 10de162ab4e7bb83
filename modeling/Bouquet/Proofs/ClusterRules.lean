import Bouquet.Text.Cluster
import Mathlib.Tactic.SplitIfs

/-!
# The Rules of Clusters

The rules that hold characters together look at all of the text to their left: at the marks after
a picture, at the links of a conjunct, at how many regional indicators stand in a row. The open
cluster remembers its tail only. What is forgotten where a cluster begins never matters, because no
cluster begins as long as a rule could still refer to what stands before it.

## Main definitions

- `Together`: the rules, one constructor each, on the text to the left and the character after it
- `Tail.Describes`: what the tail of the open cluster says about all of the text to the left

## Main statements

- `Tail.describes_start`, `Tail.Describes.push`: each character keeps the tail and the text in step
- `Tail.Describes.joins_iff`: the tail decides as the rules do
-/

namespace Bouquet.Text

/-! ## Tables

The classes, the pictures and the roles come from tables of their own. What the rules need to know
is that no picture and no consonant is a control, and that what lets a conjunct go on is a mark or
the joiner. -/

section Tables

variable {xs ys : List (Nat × Nat)} {code : Nat}

/-- No range of one table meets a range of the other. -/
def apart (xs ys : List (Nat × Nat)) : Bool :=
  xs.all fun x => ys.all fun y => x.2 < y.1 || y.2 < x.1

/-- Every range of one table lies within a range of the other. -/
def within (xs ys : List (Nat × Nat)) : Bool :=
  xs.all fun x => ys.any fun y => y.1 ≤ x.1 && x.2 ≤ y.2

theorem inRanges_iff : inRanges xs code = true ↔ ∃ x ∈ xs, x.1 ≤ code ∧ code ≤ x.2 := by
  simp [inRanges]

theorem inRanges_cons_iff (x : Nat × Nat) :
    inRanges (x :: xs) code = true ↔ x.1 ≤ code ∧ code ≤ x.2 ∨ inRanges xs code = true := by
  simp [inRanges]

theorem not_inRanges_of_apart (happart : apart xs ys = true) (hx : inRanges xs code = true) :
    ¬ inRanges ys code = true := by
  intro hy
  obtain ⟨x, hxs, hfirst, hlast⟩ := inRanges_iff.mp hx
  obtain ⟨y, hys, hfirst', hlast'⟩ := inRanges_iff.mp hy
  have hxy := List.all_eq_true.mp (List.all_eq_true.mp happart x hxs) y hys
  simp only [Bool.or_eq_true, decide_eq_true_eq] at hxy
  omega

theorem inRanges_of_within (hwithin : within xs ys = true) (hx : inRanges xs code = true) :
    inRanges ys code = true := by
  obtain ⟨x, hxs, hfirst, hlast⟩ := inRanges_iff.mp hx
  obtain ⟨y, hys, hxy⟩ := List.any_eq_true.mp (List.all_eq_true.mp hwithin x hxs)
  simp only [Bool.and_eq_true, decide_eq_true_eq] at hxy
  exact inRanges_iff.mpr ⟨y, hys, by omega, by omega⟩

/-- What is taken for a control character, line ends included. -/
def breakingRanges : List (Nat × Nat) :=
  (0x0A, 0x0A) :: (0x0D, 0x0D) :: controlRanges

/-- What the class of a character is decided by before the continuing marks are looked up. -/
def decidedRanges : List (Nat × Nat) :=
  [(0x0, 0x2FF), (0x200D, 0x200D), (0xAC00, 0xD7A3), (0x1F1E6, 0x1F1FF)] ++ controlRanges

/-- What follows in the lookup is no control. -/
theorem not_isControl (h : ¬ inRanges breakingRanges code = true) :
    (breakClassOf code).isControl = false := by
  have hnone : code ≠ 0x0D ∧ code ≠ 0x0A ∧ ¬ inRanges controlRanges code = true := by
    simp only [breakingRanges, inRanges_cons_iff, not_or] at h
    exact ⟨by omega, by omega, h.2.2⟩
  obtain ⟨hreturn, hfeed, hcontrol⟩ := hnone
  simp only [breakClassOf, syllableClass, beq_iff_eq, if_neg hreturn, if_neg hfeed,
    if_neg hcontrol, apply_ite BreakClass.isControl]
  simp only [BreakClass.isControl, ite_self]

theorem breakClassOf_of_extend (h : inRanges extendRanges code = true) :
    breakClassOf code = .extend := by
  have hdecided : ¬ inRanges decidedRanges code = true :=
    not_inRanges_of_apart (by decide +kernel) h
  have hnone : ¬ code ≤ 0x2FF ∧ code ≠ 0x200D ∧ ¬ (0xAC00 ≤ code ∧ code ≤ 0xD7A3) ∧
      ¬ (0x1F1E6 ≤ code ∧ code ≤ 0x1F1FF) ∧ ¬ inRanges controlRanges code = true := by
    simp only [decidedRanges, List.cons_append, List.nil_append, inRanges_cons_iff,
      not_or] at hdecided
    exact ⟨by omega, by omega, hdecided.2.2.1, hdecided.2.2.2.1, hdecided.2.2.2.2⟩
  obtain ⟨hlow, hjoiner, hsyllable, hregional, hcontrol⟩ := hnone
  have hreturn : code ≠ 0x0D := by omega
  have hfeed : code ≠ 0x0A := by omega
  have hhigh : ¬ code < 0x300 := by omega
  simp only [breakClassOf, beq_iff_eq, Bool.and_eq_true, decide_eq_true_eq, if_neg hreturn,
    if_neg hfeed, if_neg hjoiner, if_neg hregional, if_neg hsyllable, if_neg hcontrol,
    if_neg hhigh, if_pos h]

theorem not_isControl_of_isPictographic (h : isPictographic code = true) :
    (breakClassOf code).isControl = false :=
  not_isControl (not_inRanges_of_apart (by decide +kernel) h)

theorem not_isControl_of_consonant (h : conjunctRoleOf code = .consonant) :
    (breakClassOf code).isControl = false := by
  have hconsonant : inRanges conjunctConsonantRanges code = true := by
    unfold conjunctRoleOf at h
    split_ifs at h with _ hconsonant
    exact hconsonant
  exact not_isControl (not_inRanges_of_apart (by decide +kernel) hconsonant)

theorem breakClassOf_of_role (h : conjunctRoleOf code = .linker ∨ conjunctRoleOf code = .extend) :
    breakClassOf code = .extend ∨ breakClassOf code = .joiner := by
  unfold conjunctRoleOf at h
  split_ifs at h with _ _ hlinker hjoiner hextend
  · simp at h
  · simp at h
  · exact .inl (breakClassOf_of_extend (inRanges_of_within (by decide +kernel) hlinker))
  · rw [beq_iff_eq.mp hjoiner]
    exact .inr (by decide +kernel)
  · exact .inl (breakClassOf_of_extend (Bool.and_eq_true_iff.mp hextend).2)
  · simp at h

theorem breakClassOf_ne_joiner (h : code ≠ 0x200D) : breakClassOf code ≠ .joiner := by
  simp only [breakClassOf, syllableClass, beq_iff_eq, if_neg h, apply_ite (· ≠ BreakClass.joiner),
    ne_eq, reduceCtorEq, not_false_eq_true, ite_self]

theorem not_isPictographic_of_joiner (h : breakClassOf code = .joiner) :
    isPictographic code = false := by
  have hjoiner : code = 0x200D := Decidable.byContradiction fun hne => breakClassOf_ne_joiner hne h
  rw [hjoiner]
  decide +kernel

end Tables

/-! ## The rules -/

/-- The text, its characters last first, ends with a picture and the marks on it. -/
def EndsInPicture : List Char → Prop
  | [] => False
  | c :: left =>
    isPictographic c.toNat = true ∨ breakClassOf c.toNat = .extend ∧ EndsInPicture left

/-- The text ends with a joiner after a picture and its marks. -/
def EndsInJoiner : List Char → Prop
  | [] => False
  | c :: left => breakClassOf c.toNat = .joiner ∧ EndsInPicture left

/-- The text ends with a consonant and what lets a conjunct go on. -/
def EndsInConsonant : List Char → Prop
  | [] => False
  | c :: left =>
    conjunctRoleOf c.toNat = .consonant ∨
      (conjunctRoleOf c.toNat = .linker ∨ conjunctRoleOf c.toNat = .extend) ∧ EndsInConsonant left

/-- The text ends like that, and there is a linker after the consonant. -/
def EndsInLinker : List Char → Prop
  | [] => False
  | c :: left =>
    conjunctRoleOf c.toNat = .linker ∧ EndsInConsonant left ∨
      conjunctRoleOf c.toNat = .extend ∧ EndsInLinker left

/-- The text ends with an odd number of regional indicators, the last of which lacks a partner. -/
def EndsUnpaired (left : List Char) : Prop :=
  (left.takeWhile fun c => breakClassOf c.toNat = .regional).length % 2 = 1

/-- The text ends with a character that marks can continue. -/
def EndsVisibly : List Char → Prop
  | [] => False
  | c :: _ => (breakClassOf c.toNat).isControl = false

/-- A character stays together with the text to its left, whose characters stand last first. -/
inductive Together : List Char → Char → Prop where
  /-- The two characters of a line end. -/
  | lineEnd {last next : Char} {left : List Char} :
      breakClassOf last.toNat = .carriageReturn → breakClassOf next.toNat = .lineFeed →
      Together (last :: left) next
  /-- The parts of a Hangul syllable. -/
  | syllable {last next : Char} {left : List Char} :
      (breakClassOf last.toNat).syllableJoins (breakClassOf next.toNat) = true →
      Together (last :: left) next
  /-- A mark and what it stands on. -/
  | mark {next : Char} {left : List Char} :
      EndsVisibly left →
      breakClassOf next.toNat = .extend ∨ breakClassOf next.toNat = .joiner ∨
        breakClassOf next.toNat = .spacingMark →
      Together left next
  /-- A sign that is written before others, and the character after it. -/
  | prepended {last next : Char} {left : List Char} :
      breakClassOf last.toNat = .prepend → (breakClassOf next.toNat).isControl = false →
      Together (last :: left) next
  /-- Two consonants of an Indic conjunct. -/
  | conjunct {next : Char} {left : List Char} :
      EndsInLinker left → conjunctRoleOf next.toNat = .consonant → Together left next
  /-- Two pictures that are joined into one. -/
  | picture {next : Char} {left : List Char} :
      EndsInJoiner left → isPictographic next.toNat = true → Together left next
  /-- The two letters of a region. -/
  | region {next : Char} {left : List Char} :
      EndsUnpaired left → breakClassOf next.toNat = .regional → Together left next

/-! ## What the open cluster remembers -/

variable {c : Char} {left : List Char} {t : Tail}

theorem EndsInPicture.endsVisibly (h : EndsInPicture left) : EndsVisibly left := by
  cases left with
  | nil => exact h
  | cons c left =>
    rcases h with hpicture | ⟨hmark, -⟩
    · exact not_isControl_of_isPictographic hpicture
    · rw [EndsVisibly, hmark]
      rfl

theorem endsVisibly_of_role
    (h : conjunctRoleOf c.toNat = .linker ∨ conjunctRoleOf c.toNat = .extend) :
    EndsVisibly (c :: left) := by
  rcases breakClassOf_of_role h with hmark | hjoiner
  · rw [EndsVisibly, hmark]
    rfl
  · rw [EndsVisibly, hjoiner]
    rfl

theorem EndsInConsonant.endsVisibly (h : EndsInConsonant left) : EndsVisibly left := by
  cases left with
  | nil => exact h
  | cons c left =>
    rcases h with hconsonant | ⟨hrole, -⟩
    · exact not_isControl_of_consonant hconsonant
    · exact endsVisibly_of_role hrole

theorem EndsInLinker.endsInConsonant (h : EndsInLinker left) : EndsInConsonant left := by
  induction left with
  | nil => exact h
  | cons c left ih =>
    rcases h with ⟨hlinker, hleft⟩ | ⟨hextend, hleft⟩
    · exact .inr ⟨.inl hlinker, hleft⟩
    · exact .inr ⟨.inr hextend, ih hleft⟩

theorem not_endsUnpaired_nil : ¬ EndsUnpaired [] := by
  simp [EndsUnpaired]

theorem endsUnpaired_cons_iff :
    EndsUnpaired (c :: left) ↔ breakClassOf c.toNat = .regional ∧ ¬ EndsUnpaired left := by
  unfold EndsUnpaired
  by_cases hregional : breakClassOf c.toNat = .regional
  · rw [List.takeWhile_cons_of_pos (by simpa using hregional), List.length_cons]
    simp only [hregional, true_and]
    omega
  · rw [List.takeWhile_cons_of_neg (by simpa using hregional)]
    simp [hregional]

theorem not_together_nil : ¬ Together [] c := by
  intro h
  cases h with
  | mark hleft => exact hleft
  | conjunct hleft => exact hleft
  | picture hleft => exact hleft
  | region hleft => exact not_endsUnpaired_nil hleft

/-- What the tail of the open cluster says about all of the text to the left, be it in that cluster
or before it. -/
structure Tail.Describes (t : Tail) (left : List Char) : Prop where
  last : ∃ c before, left = c :: before ∧ t.last = breakClassOf c.toNat
  inPicture : t.picture = .open ↔ EndsInPicture left
  joined : t.picture = .joined ↔ EndsInJoiner left
  inConjunct : t.conjunct ≠ .none ↔ EndsInConsonant left
  linked : t.conjunct = .linked ↔ EndsInLinker left
  unpaired : t.oddRegional = true ↔ EndsUnpaired left

/-- A character that stays together with nothing opens a cluster, and what stands before it is of
no account. -/
theorem Tail.describes_start (h : ¬ Together left c) : (Tail.start c).Describes (c :: left) := by
  -- a picture or a conjunct that `c` could go on with would have held `c` as a mark
  have hpicture : breakClassOf c.toNat = .extend ∨ breakClassOf c.toNat = .joiner →
      ¬ EndsInPicture left :=
    fun hmark hleft => h (.mark hleft.endsVisibly (hmark.imp_right .inl))
  have hconjunct : conjunctRoleOf c.toNat = .linker ∨ conjunctRoleOf c.toNat = .extend →
      ¬ EndsInConsonant left :=
    fun hrole hleft => h (.mark hleft.endsVisibly ((breakClassOf_of_role hrole).imp_right .inl))
  have hregion : breakClassOf c.toNat = .regional → ¬ EndsUnpaired left :=
    fun hregional hleft => h (.region hleft hregional)
  refine ⟨⟨c, left, rfl, rfl⟩, ?_, ?_, ?_, ?_, ?_⟩
  · grind [Tail.start, EndsInPicture]
  · grind [Tail.start, EndsInJoiner]
  · grind [Tail.start, EndsInConsonant]
  · grind [Tail.start, EndsInLinker, EndsInLinker.endsInConsonant]
  · grind [Tail.start, endsUnpaired_cons_iff]

/-- A character that continues the cluster is added to what the tail says. -/
theorem Tail.Describes.push (h : t.Describes left) (c : Char) :
    (t.push c).Describes (c :: left) := by
  -- the tail looks for a picture first, which the joiner must not be
  have hjoiner := @not_isPictographic_of_joiner c.toNat
  obtain ⟨-, hpicture, hjoined, hconjunct, hlinked, hunpaired⟩ := h
  refine ⟨⟨c, left, rfl, rfl⟩, ?_, ?_, ?_, ?_, ?_⟩
  · grind [Tail.push, EndsInPicture]
  · grind [Tail.push, EndsInJoiner]
  · grind [Tail.push, EndsInConsonant]
  · grind [Tail.push, EndsInLinker, EndsInLinker.endsInConsonant]
  · grind [Tail.push, endsUnpaired_cons_iff]

theorem BreakClass.not_isControl_of_syllableJoins {last next : BreakClass}
    (h : last.syllableJoins next = true) : last.isControl = false ∧ next.isControl = false := by
  revert h
  fun_cases BreakClass.syllableJoins last next <;> simp [BreakClass.isControl]

/-- Apart from line ends and controls no rule takes precedence. -/
theorem Tail.joins_iff_of_visible (hlast : t.last.isControl = false)
    (hnext : (breakClassOf c.toNat).isControl = false) :
    t.joins c = true ↔
      t.last.syllableJoins (breakClassOf c.toNat) = true ∨
      (breakClassOf c.toNat = .extend ∨ breakClassOf c.toNat = .joiner ∨
        breakClassOf c.toNat = .spacingMark) ∨
      t.last = .prepend ∨
      t.conjunct = .linked ∧ conjunctRoleOf c.toNat = .consonant ∨
      t.picture = .joined ∧ isPictographic c.toNat = true ∨
      t.oddRegional = true ∧ breakClassOf c.toNat = .regional := by
  have hreturn : t.last ≠ .carriageReturn := fun h => by simp [h, BreakClass.isControl] at hlast
  have hvisible : ¬ (t.last.isControl = true ∨ (breakClassOf c.toNat).isControl = true) := by
    simp [hlast, hnext]
  simp only [Tail.joins, if_neg (mt And.left hreturn), if_neg hvisible, Bool.if_true_left,
    Bool.or_eq_true, decide_eq_true_eq]

theorem Tail.not_joins_control
    (hends : ¬ (t.last = .carriageReturn ∧ breakClassOf c.toNat = .lineFeed))
    (hcontrol : t.last.isControl = true ∨ (breakClassOf c.toNat).isControl = true) :
    t.joins c = false := by
  simp only [Tail.joins, if_neg hends, if_pos hcontrol]

/-- Nothing stays together with a control, or a control with anything, apart from a line end. -/
theorem Together.visible {last next : Char} (h : Together (last :: left) next)
    (hends : ¬ (breakClassOf last.toNat = .carriageReturn ∧ breakClassOf next.toNat = .lineFeed)) :
    (breakClassOf last.toNat).isControl = false ∧ (breakClassOf next.toNat).isControl = false := by
  cases h with
  | lineEnd hreturn hfeed => exact absurd ⟨hreturn, hfeed⟩ hends
  | syllable hsyllable => exact BreakClass.not_isControl_of_syllableJoins hsyllable
  | mark hleft hmark => exact ⟨hleft, by rcases hmark with h | h | h <;> rw [h] <;> rfl⟩
  | prepended hprepend hnext => exact ⟨by rw [hprepend]; rfl, hnext⟩
  | conjunct hleft hnext =>
    exact ⟨hleft.endsInConsonant.endsVisibly, not_isControl_of_consonant hnext⟩
  | picture hleft hnext =>
    exact ⟨by rw [hleft.1]; rfl, not_isControl_of_isPictographic hnext⟩
  | region hleft hnext =>
    exact ⟨by rw [(endsUnpaired_cons_iff.mp hleft).1]; rfl, by rw [hnext]; rfl⟩

/-- The tail of the open cluster decides as the rules do, which need the text to the left. -/
theorem Tail.Describes.joins_iff (h : t.Describes left) (next : Char) :
    t.joins next = true ↔ Together left next := by
  obtain ⟨last, before, rfl, hlast⟩ := h.last
  by_cases hends : t.last = .carriageReturn ∧ breakClassOf next.toNat = .lineFeed
  · exact ⟨fun _ => .lineEnd (hlast ▸ hends.1) hends.2, fun _ => by simp [Tail.joins, hends]⟩
  by_cases hcontrol : t.last.isControl = true ∨ (breakClassOf next.toNat).isControl = true
  · rw [Tail.not_joins_control hends hcontrol, Bool.false_eq_true, false_iff]
    intro htogether
    have hvisible := htogether.visible (hlast ▸ hends)
    rw [hlast, hvisible.1, hvisible.2] at hcontrol
    simp at hcontrol
  · obtain ⟨hleft, hnext⟩ := not_or.mp hcontrol
    rw [Bool.not_eq_true] at hleft hnext
    have hvisible : EndsVisibly (last :: before) := by rwa [EndsVisibly, ← hlast]
    rw [Tail.joins_iff_of_visible hleft hnext, hlast, h.linked, h.joined, h.unpaired]
    constructor
    · rintro (hsyllable | hmark | hprepend | ⟨hlinker, hnext⟩ | ⟨hjoiner, hnext⟩ |
        ⟨hunpaired, hnext⟩)
      · exact .syllable hsyllable
      · exact .mark hvisible hmark
      · exact .prepended hprepend hnext
      · exact .conjunct hlinker hnext
      · exact .picture hjoiner hnext
      · exact .region hunpaired hnext
    · intro htogether
      cases htogether with
      | lineEnd hreturn hfeed => exact absurd ⟨hlast.trans hreturn, hfeed⟩ hends
      | syllable hsyllable => exact .inl hsyllable
      | mark _ hmark => exact .inr (.inl hmark)
      | prepended hprepend _ => exact .inr (.inr (.inl hprepend))
      | conjunct hlinker hnext => exact .inr (.inr (.inr (.inl ⟨hlinker, hnext⟩)))
      | picture hjoiner hnext => exact .inr (.inr (.inr (.inr (.inl ⟨hjoiner, hnext⟩))))
      | region hunpaired hnext => exact .inr (.inr (.inr (.inr (.inr ⟨hunpaired, hnext⟩))))

end Bouquet.Text
