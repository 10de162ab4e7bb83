import Bouquet.FilePath
import Mathlib.Data.List.Basic
import Mathlib.Logic.Relation

/-!
# Ways to Spell a Path

A path can be spelt with slashes doubled, with parts that are a single dot, and with a slash or such
a part at its end. Paths are compared by their routes, and this means that they are told apart up to
these ways to spell them, and no further.

## Main definitions

- `FilePath.Shortened`: the same path with a slash or a dot less
- `FilePath.Same`: two ways to spell one path
- `Route.path`: the shortest way to spell it

## Main statements

- `FilePath.same_shortest`: every path can be spelt in the shortest way
- `FilePath.same_iff`: paths are the same exactly if they have one route
-/

namespace Bouquet

namespace FilePath

/-! ## Spelling -/

/-- What may be left out of a path. A slash in front may not, nor a dot. -/
inductive Shortened : FilePath → FilePath → Prop where
  /-- Two slashes are one. -/
  | twice (front back : List UInt8) :
      Shortened ⟨front ++ slash :: slash :: back⟩ ⟨front ++ slash :: back⟩
  /-- A dot between slashes leads nowhere. -/
  | here (front back : List UInt8) :
      Shortened ⟨front ++ slash :: dot :: slash :: back⟩ ⟨front ++ slash :: back⟩
  /-- Nor does a dot after the last slash. -/
  | hereLast (front : List UInt8) : Shortened ⟨front ++ [slash, dot]⟩ ⟨front ++ [slash]⟩
  /-- The last slash is not needed, unless it is all. -/
  | slashLast (front : List UInt8) (h : front ≠ []) : Shortened ⟨front ++ [slash]⟩ ⟨front⟩

/-- Two ways to spell one path. -/
abbrev Same : FilePath → FilePath → Prop := Relation.EqvGen Shortened

theorem Shortened.same {p q : FilePath} (h : p.Shortened q) : p.Same q := .rel p q h

/-! ## Parts -/

theorem split_ne_nil (bytes : List UInt8) : split bytes ≠ [] := by
  fun_cases split bytes <;> simp_all

/-- At a slash a path is cut into the parts before and behind it. -/
theorem split_append_slash (front back : List UInt8) :
    split (front ++ slash :: back) = split front ++ split back := by
  induction front with
  | nil => simp [split]
  | cons b front ih =>
    obtain ⟨part, parts, hparts⟩ := List.exists_cons_of_ne_nil (split_ne_nil front)
    by_cases hb : b = slash
    · simp [split, hb, ih]
    · simp [split, hb, ih, hparts]

/-- Parts as they follow a part before them. -/
def spelt (parts : List (List UInt8)) : List UInt8 := parts.flatMap (slash :: ·)

@[simp]
theorem spelt_nil : spelt [] = [] := rfl

@[simp]
theorem spelt_cons (part : List UInt8) (parts : List (List UInt8)) :
    spelt (part :: parts) = slash :: (part ++ spelt parts) := by
  simp [spelt]

/-- The bytes of a path are its parts with slashes between them. -/
theorem exists_parts (bytes : List UInt8) :
    ∃ first rest, split bytes = first :: rest ∧ bytes = first ++ spelt rest ∧ slash ∉ first := by
  induction bytes with
  | nil => exact ⟨[], [], rfl, rfl, List.not_mem_nil⟩
  | cons b bytes ih =>
    obtain ⟨first, rest, hsplit, hbytes, hslash⟩ := ih
    by_cases hb : b = slash
    · exact ⟨[], first :: rest, by simp [split, hb, hsplit], by simp [hb, ← hbytes], by simp⟩
    · refine ⟨b :: first, rest, by simp [split, hb, hsplit], by simp [← hbytes], ?_⟩
      simp [Ne.symm hb, hslash]

/-! ## The same route -/

theorem counts_eq_false_iff {part : List UInt8} :
    counts part = false ↔ part = [] ∨ part = [dot] := by
  simp [counts, Classical.or_iff_not_imp_left]

theorem route_of_split {bytes part : List UInt8} {parts : List (List UInt8)}
    (h : split bytes = part :: parts) :
    route ⟨bytes⟩ = ⟨bytes.head? == some slash,
      (if part = [dot] then [[dot]] else []) ++ (part :: parts).filter counts⟩ := by
  simp only [route, h, List.head?_cons, Option.some.injEq]

/-- Behind a slash only the parts that count make a difference. -/
theorem route_append_slash {front back other : List UInt8}
    (h : (split back).filter counts = (split other).filter counts) :
    route ⟨front ++ slash :: back⟩ = route ⟨front ++ slash :: other⟩ := by
  obtain ⟨part, parts, hparts⟩ := List.exists_cons_of_ne_nil (split_ne_nil front)
  have hsplit (behind : List UInt8) :
      split (front ++ slash :: behind) = part :: (parts ++ split behind) := by
    rw [split_append_slash, hparts, List.cons_append]
  have hhead : (front ++ slash :: back).head? = (front ++ slash :: other).head? := by
    cases front <;> rfl
  rw [route_of_split (hsplit back), route_of_split (hsplit other), hhead, ← List.cons_append,
    ← List.cons_append, List.filter_append, List.filter_append, h]

/-- What is left out of a path does not lead anywhere. -/
theorem route_eq_of_shortened {p q : FilePath} (h : p.Shortened q) : p.route = q.route := by
  cases h with
  | twice front back =>
    refine route_append_slash ?_
    rw [← List.nil_append (slash :: back), split_append_slash]
    rfl
  | here front back =>
    refine route_append_slash ?_
    rw [← List.singleton_append, split_append_slash]
    rfl
  | hereLast front => exact route_append_slash rfl
  | slashLast front hfront =>
    obtain ⟨part, parts, hparts⟩ := List.exists_cons_of_ne_nil (split_ne_nil front)
    have hsplit : split (front ++ [slash]) = part :: (parts ++ [[]]) := by
      rw [split_append_slash, hparts, List.cons_append]
      rfl
    have hhead : (front ++ [slash]).head? = front.head? := by
      rw [List.head?_append_of_ne_nil _ hfront]
    rw [route_of_split hsplit, route_of_split hparts, hhead, ← List.cons_append,
      List.filter_append]
    simp [counts]

theorem Same.route_eq {p q : FilePath} (h : p.Same q) : p.route = q.route := by
  induction h with
  | rel p q h => exact route_eq_of_shortened h
  | refl p => rfl
  | symm p q _ ih => exact ih.symm
  | trans p q r _ _ ihfirst ihsecond => exact ihfirst.trans ihsecond

/-! ## The shortest way -/

/-- Behind something, a part that does not count may be left out. -/
theorem same_without_part {front part : List UInt8} {parts : List (List UInt8)}
    (hfront : front ≠ []) (hpart : counts part = false) :
    Same ⟨front ++ spelt (part :: parts)⟩ ⟨front ++ spelt parts⟩ := by
  rw [counts_eq_false_iff] at hpart
  rcases hpart with rfl | rfl
  · cases parts with
    | nil => simpa using (Shortened.slashLast front hfront).same
    | cons next parts => simpa using (Shortened.twice front (next ++ spelt parts)).same
  · cases parts with
    | nil =>
      exact .trans _ _ _ (by simpa using (Shortened.hereLast front).same)
        (by simpa using (Shortened.slashLast front hfront).same)
    | cons next parts => simpa using (Shortened.here front (next ++ spelt parts)).same

/-- Behind something, all parts that do not count may be left out. -/
theorem same_filter {front : List UInt8} (hfront : front ≠ []) (parts : List (List UInt8)) :
    Same ⟨front ++ spelt parts⟩ ⟨front ++ spelt (parts.filter counts)⟩ := by
  induction parts generalizing front with
  | nil => exact .refl _
  | cons part parts ih =>
    cases hpart : counts part with
    | false =>
      rw [List.filter_cons_of_neg (by simp [hpart])]
      exact .trans _ _ _ (same_without_part hfront hpart) (ih hfront)
    | true =>
      rw [List.filter_cons_of_pos hpart]
      have hlonger : front ++ slash :: part ≠ [] := by simp
      simpa using ih hlonger

/-- Of parts behind the root, all that do not count may be left out, but not the slash. -/
theorem same_spelt {parts : List (List UInt8)} (h : parts ≠ []) :
    Same ⟨spelt parts⟩
      ⟨if parts.filter counts = [] then [slash] else spelt (parts.filter counts)⟩ := by
  induction parts with
  | nil => exact absurd rfl h
  | cons part parts ih =>
    cases hpart : counts part with
    | true =>
      rw [List.filter_cons_of_pos hpart, if_neg (List.cons_ne_nil _ _)]
      simpa using same_filter (List.cons_ne_nil slash part) parts
    | false =>
      rw [List.filter_cons_of_neg (by simp [hpart])]
      rw [counts_eq_false_iff] at hpart
      cases parts with
      | nil =>
        rcases hpart with rfl | rfl
        · exact .refl _
        · exact (Shortened.hereLast []).same
      | cons next rest =>
        refine .trans _ _ _ ?_ (ih (List.cons_ne_nil _ _))
        rcases hpart with rfl | rfl
        · simpa using (Shortened.twice [] (next ++ spelt rest)).same
        · simpa using (Shortened.here [] (next ++ spelt rest)).same

end FilePath

/-- The shortest way to spell a path. -/
def Route.path (r : Route) : FilePath :=
  ⟨if r.rooted then if r.parts = [] then [FilePath.slash] else FilePath.spelt r.parts
    else match r.parts with
      | [] => []
      | first :: rest => first ++ FilePath.spelt rest⟩

namespace FilePath

/-- **Every path can be spelt in the shortest way.** -/
theorem same_shortest (p : FilePath) : p.Same p.route.path := by
  obtain ⟨bytes⟩ := p
  obtain ⟨first, rest, hsplit, hbytes, hslash⟩ := exists_parts bytes
  rw [route_of_split hsplit, Route.path]
  cases first with
  | nil =>
    -- nothing stands before the first slash, if there is one
    cases rest with
    | nil =>
      subst hbytes
      exact .refl _
    | cons part parts =>
      have hroot : bytes = spelt (part :: parts) := hbytes
      have hhead : bytes.head? = some slash := by rw [hroot, spelt_cons, List.head?_cons]
      have hdot : ([] : List UInt8) ≠ [dot] := by simp
      rw [hhead, if_neg hdot, List.filter_cons_of_neg (by simp [counts])]
      simpa [hroot] using same_spelt (List.cons_ne_nil part parts)
  | cons b first =>
    -- the first part counts, or is the dot that is kept
    have hhead : (bytes.head? == some slash) = false := by
      have hne : b ≠ slash := fun hb => hslash (by simp [hb])
      rw [hbytes]
      simpa using hne
    have hparts : (if b :: first = [dot] then [[dot]] else [])
        ++ ((b :: first) :: rest).filter counts = (b :: first) :: rest.filter counts := by
      by_cases hdot : b :: first = [dot]
      · rw [if_pos hdot, hdot, List.filter_cons_of_neg (by simp [counts]), List.singleton_append]
      · have hcounts : counts (b :: first) = true := by
          rw [← Bool.not_eq_false, counts_eq_false_iff, not_or]
          exact ⟨List.cons_ne_nil b first, hdot⟩
        rw [if_neg hdot, List.nil_append, List.filter_cons_of_pos hcounts]
    rw [hhead, hparts]
    simpa [hbytes] using same_filter (List.cons_ne_nil b first) rest

/-- **Paths are the same** exactly if they have one route. -/
theorem same_iff {p q : FilePath} : p.Same q ↔ p.route = q.route := by
  refine ⟨Same.route_eq, fun h => ?_⟩
  have hp := p.same_shortest
  rw [h] at hp
  exact .trans _ _ _ hp (.symm _ _ q.same_shortest)

instance (p q : FilePath) : Decidable (p.Same q) := decidable_of_iff _ same_iff.symm

/-- A slash twice, a dot, or a slash at the end make no difference, but a dot in front does. -/
example : (ofText "a//b/./c/").Same (ofText "a/b/c") ∧ ¬ (ofText "./a").Same (ofText "a") ∧
    ¬ (ofText "a/../a").Same (ofText "a") := by decide

end FilePath

end Bouquet
