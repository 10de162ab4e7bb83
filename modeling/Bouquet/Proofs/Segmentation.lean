import Bouquet.Proofs.ClusterCounts
import Bouquet.Proofs.ClusterRules

/-!
# Segmentation by the Rules

A segmentation cuts a text into consecutive pieces, and parts two characters exactly where the rules
do not hold them together. Pieces are determined by where they are parted, so that a text has one
segmentation at most. Its clusters are one.

## Main definitions

- `PartedAfter`: where pieces are parted
- `IsSegmentation`: pieces that are parted as the rules tell

## Main statements

- `IsSegmentation.eq`: there is one segmentation at most
- `partedAfter_clustersFrom_iff`: the open cluster is closed exactly where the rules part the text
- `isSegmentation_iff`: the clusters of a text are its one segmentation
-/

namespace Bouquet.Text

/-! ## Pieces -/

/-- One of the pieces ends where `before` does. -/
def PartedAfter (pieces : List (List Char)) (before : List Char) : Prop :=
  ∃ count, (pieces.take count).flatten = before

/-- Consecutive pieces of a text, none of them empty, that are parted exactly where a character
does not stay together with the text to its left. -/
structure IsSegmentation (text : List Char) (pieces : List (List Char)) : Prop where
  flatten : pieces.flatten = text
  nonempty : [] ∉ pieces
  partedAfter_iff : ∀ before next after, text = before ++ next :: after →
    (PartedAfter pieces before ↔ ¬ Together before.reverse next)

section Pieces

variable {pieces : List (List Char)} {piece before rest : List Char}

theorem partedAfter_cons_append_iff (hpiece : piece ≠ []) :
    PartedAfter (piece :: pieces) (piece ++ rest) ↔ PartedAfter pieces rest := by
  constructor
  · rintro ⟨count, hcount⟩
    cases count with
    | zero => exact absurd (List.append_eq_nil_iff.mp hcount.symm).1 hpiece
    | succ count =>
      rw [List.take_succ_cons, List.flatten_cons] at hcount
      exact ⟨count, List.append_cancel_left hcount⟩
  · rintro ⟨count, hcount⟩
    exact ⟨count + 1, by rw [List.take_succ_cons, List.flatten_cons, hcount]⟩

theorem partedAfter_piece (piece : List Char) (pieces : List (List Char)) :
    PartedAfter (piece :: pieces) piece :=
  ⟨1, by simp⟩

theorem PartedAfter.begins_with_piece (h : PartedAfter (piece :: pieces) before)
    (hbefore : before ≠ []) : piece <+: before := by
  obtain ⟨count, rfl⟩ := h
  cases count with
  | zero => exact absurd rfl hbefore
  | succ count => exact ⟨_, (List.flatten_cons ..).symm⟩

theorem PartedAfter.eq_nil (h : PartedAfter [] before) : before = [] := by
  obtain ⟨count, rfl⟩ := h
  simp

theorem partedAfter_flatten (pieces : List (List Char)) : PartedAfter pieces pieces.flatten :=
  ⟨pieces.length, by rw [List.take_length]⟩

theorem PartedAfter.begins (h : PartedAfter pieces before) : before <+: pieces.flatten := by
  obtain ⟨count, rfl⟩ := h
  exact ⟨(pieces.drop count).flatten, by rw [← List.flatten_append, List.take_append_drop]⟩

/-- Pieces are determined by where they are parted. -/
theorem eq_of_partedAfter_iff {ps qs : List (List Char)} (hps : [] ∉ ps) (hqs : [] ∉ qs)
    (hparted : ∀ before, PartedAfter ps before ↔ PartedAfter qs before) : ps = qs := by
  induction ps generalizing qs with
  | nil =>
    cases qs with
    | nil => rfl
    | cons q qs =>
      have hq : q = [] := ((hparted q).mpr (partedAfter_piece q qs)).eq_nil
      exact absurd (hq ▸ List.mem_cons_self) hqs
  | cons p ps ih =>
    have hp : p ≠ [] := fun h => hps (h ▸ List.mem_cons_self)
    cases qs with
    | nil => exact absurd ((hparted p).mp (partedAfter_piece p ps)).eq_nil hp
    | cons q qs =>
      have hq : q ≠ [] := fun h => hqs (h ▸ List.mem_cons_self)
      -- either first piece begins the other, since both lists are parted after both
      have hqp : q <+: p := ((hparted p).mp (partedAfter_piece p ps)).begins_with_piece hp
      have hpq : p <+: q := ((hparted q).mpr (partedAfter_piece q qs)).begins_with_piece hq
      obtain rfl : p = q := hpq.eq_of_length (Nat.le_antisymm hpq.length_le hqp.length_le)
      rw [ih (mt (List.mem_cons_of_mem p) hps) (mt (List.mem_cons_of_mem p) hqs) fun rest => ?_]
      rw [← partedAfter_cons_append_iff hp, hparted, partedAfter_cons_append_iff hp]

end Pieces

/-- There is one segmentation of a text at most. -/
theorem IsSegmentation.eq {text : List Char} {ps qs : List (List Char)}
    (hps : IsSegmentation text ps) (hqs : IsSegmentation text qs) : ps = qs := by
  refine eq_of_partedAfter_iff hps.nonempty hqs.nonempty fun before => ?_
  by_cases hbefore : before <+: text
  · obtain ⟨rest, rfl⟩ := hbefore
    cases rest with
    | nil =>
      rw [List.append_nil] at hps hqs
      exact iff_of_true (hps.flatten ▸ partedAfter_flatten ps)
        (hqs.flatten ▸ partedAfter_flatten qs)
    | cons next after =>
      rw [hps.partedAfter_iff before next after rfl, hqs.partedAfter_iff before next after rfl]
  · exact iff_of_false (fun h => hbefore (hps.flatten ▸ h.begins))
      (fun h => hbefore (hqs.flatten ▸ h.begins))

/-! ## The clusters -/

theorem nil_not_mem_clustersFrom {opened : List Char} (hopened : opened ≠ []) (t : Tail)
    (cs : List Char) : [] ∉ clustersFrom t opened cs := by
  induction cs generalizing t opened with
  | nil => simpa [clustersFrom] using hopened
  | cons c rest ih =>
    rw [clustersFrom]
    split
    · exact ih (List.cons_ne_nil _ _) _
    · rw [List.mem_cons, not_or]
      exact ⟨Ne.symm (mt List.reverse_eq_nil_iff.mp hopened), ih (List.cons_ne_nil _ _) _⟩

/-- No cluster ends within the open one. -/
theorem PartedAfter.begins_with_opened {t : Tail} {opened cs before : List Char}
    (h : PartedAfter (clustersFrom t opened cs) before) (hbefore : before ≠ []) :
    opened.reverse <+: before := by
  obtain ⟨count, rfl⟩ := h
  cases count with
  | zero => exact absurd rfl hbefore
  | succ count =>
    obtain ⟨front, hfront⟩ := exists_take_clustersFrom count t opened cs
    exact ⟨front, by rw [hfront, flatten_clustersFrom]⟩

/-- As long as the tail describes what stands to the left, the clusters are parted as the rules
tell. -/
theorem partedAfter_clustersFrom_iff {t : Tail} {earlier opened : List Char}
    (hopened : opened ≠ []) (h : t.Describes (opened ++ earlier)) (before : List Char)
    (next : Char) (after : List Char) :
    PartedAfter (clustersFrom t opened (before ++ next :: after)) (opened.reverse ++ before) ↔
      ¬ Together (before.reverse ++ opened ++ earlier) next := by
  have hreverse : opened.reverse ≠ [] := mt List.reverse_eq_nil_iff.mp hopened
  induction before generalizing t opened earlier with
  | nil =>
    rw [List.nil_append, List.append_nil, List.reverse_nil, List.nil_append, ← h.joins_iff,
      clustersFrom]
    split
    · next hjoins =>
      refine iff_of_false (fun hparted => ?_) (not_not_intro hjoins)
      have hlength := (hparted.begins_with_opened hreverse).length_le
      rw [List.length_reverse, List.length_reverse, List.length_cons] at hlength
      omega
    · next hparts => exact iff_of_true (partedAfter_piece _ _) hparts
  | cons c before ih =>
    rw [List.cons_append, clustersFrom]
    split
    · have hrest := ih (List.cons_ne_nil c opened) (h.push c) (by simp)
      simpa using hrest
    · next hparts =>
      -- the cluster that was open goes to what stands before the new one
      have hstart := Tail.describes_start (mt (h.joins_iff c).mpr hparts)
      have hrest := @ih (Tail.start c) (opened ++ earlier) [c] (by simp) hstart (by simp)
      rw [partedAfter_cons_append_iff hreverse]
      simpa using hrest

theorem isSegmentation_clusters (text : List Char) : IsSegmentation text (clusters text) where
  flatten := flatten_clusters text
  nonempty := by
    cases text with
    | nil => simp [clusters]
    | cons c rest => exact nil_not_mem_clustersFrom (List.cons_ne_nil _ _) _ _
  partedAfter_iff := by
    rintro before next after rfl
    cases before with
    | nil => exact iff_of_true ⟨0, rfl⟩ not_together_nil
    | cons c before =>
      have hparted := partedAfter_clustersFrom_iff (List.cons_ne_nil c [])
        (Tail.describes_start not_together_nil) before next after
      simpa [clusters] using hparted

/-- **The clusters of a text** are its one segmentation by the rules. -/
theorem isSegmentation_iff {text : List Char} {pieces : List (List Char)} :
    IsSegmentation text pieces ↔ pieces = clusters text := by
  constructor
  · intro h
    exact h.eq (isSegmentation_clusters text)
  · rintro rfl
    exact isSegmentation_clusters text

/-- Three regional indicators in a row, of which the last lacks a partner. -/
example : clusters ['🇦', '🇹', '🇩'] = [['🇦', '🇹'], ['🇩']] := by decide +kernel

end Bouquet.Text
