import Bouquet.Font
import Bouquet.Proofs.Rounding
import Bouquet.Proofs.Segmentation

/-!
# Elision

A text that does not fit is cut to as many clusters as there are slots in its width, of which the
ellipsis takes three. The blanks before the ellipsis go as well, which may leave a cluster cut, and
the first dot may join the cluster before it. Neither makes the result longer, so that it keeps
within its slots.

## Main definitions

- `Font.Keeps`: when a text is left as it is

## Main statements

- `Font.length_clusters_shorten_le`: a shortened text keeps within its slots
- `Font.elide_within_slots`: what elision gives for every text and width
-/

namespace Bouquet

/-! ## What elision gives -/

namespace Font

open Text (IsSegmentation clusters dropTrailingBlanks isBlank)

/-- The text fits, or the font has no advance to count slots by. -/
def Keeps (f : Font) (text : String) (width : Float32) : Prop :=
  f.measure text ≤ width ∨ f.averageAdvance ≤ 0

variable {f : Font} {text : String} {width : Float32}

theorem elide_of_keeps (h : f.Keeps text width) : f.elide text width = text := by
  unfold elide
  split
  · rfl
  · next hwide => rw [if_pos (h.resolve_left hwide)]

theorem elide_of_not_keeps (h : ¬ f.Keeps text width) :
    f.elide text width =
      if f.slots width < ellipsis.length then ""
      else shorten (f.slots width - ellipsis.length) text := by
  obtain ⟨hwide, hadvance⟩ := not_or.mp h
  rw [elide, if_neg hwide, if_neg hadvance]

/-- A shortened text has as many clusters as it was to keep, and three for the ellipsis. -/
theorem length_clusters_shorten_le (kept : Nat) (text : String) :
    (clusters (shorten kept text).toList).length ≤ kept + ellipsis.length := by
  have hprefix : dropTrailingBlanks ((clusters text.toList).take kept).flatten
      <+: ((clusters text.toList).take kept).flatten := by
    obtain ⟨⟨dropped, hdropped, -⟩, -⟩ :=
      Text.exists_dropTrailingBlanks ((clusters text.toList).take kept).flatten
    exact ⟨dropped, hdropped.symm⟩
  rw [shorten, String.toList_ofList]
  calc (clusters (dropTrailingBlanks ((clusters text.toList).take kept).flatten ++ ellipsis)).length
      ≤ (clusters (dropTrailingBlanks ((clusters text.toList).take kept).flatten)).length
          + ellipsis.length := Text.length_clusters_append_le _ _
    _ ≤ (clusters ((clusters text.toList).take kept).flatten).length + ellipsis.length :=
        Nat.add_le_add_right (Text.length_clusters_le_of_prefix hprefix) _
    _ = ((clusters text.toList).take kept).length + ellipsis.length := by
        rw [Text.clusters_flatten_take]
    _ ≤ kept + ellipsis.length := Nat.add_le_add_right (List.length_take_le _ _) _

theorem shorten_ne_empty (kept : Nat) (text : String) : shorten kept text ≠ "" := by
  intro h
  have hlist := congrArg String.toList h
  rw [shorten, String.toList_ofList] at hlist
  simp [ellipsis] at hlist

/-- **Elision within slots**, which are the quotient of the width and the advance rounded down to 64
bits. Clusters are what the rules of segmentation part a text into. A text that is not kept as it is
vanishes where there are less than three slots. With three or more, so many of its first clusters
are kept as there are slots besides three; of these nothing but blanks at the end is dropped, until
the last character is no blank, and three dots follow. A result that is not the text itself has no
more clusters than there are slots, and none is empty unless there are less than three slots or the
text is empty. -/
theorem elide_within_slots (f : Font) (text : String) (width : Float32) :
    let slots := f.slots width
    let shown := f.elide text width
    (∀ cs pieces, IsSegmentation cs pieces ↔ pieces = clusters cs) ∧
      Binary32.IsFloor (2 ^ 64 - 1) (width / f.averageAdvance) slots ∧
      (f.Keeps text width ∧ shown = text ∨
        ¬ f.Keeps text width ∧ slots < 3 ∧ shown = "" ∨
        ¬ f.Keeps text width ∧ 3 ≤ slots ∧ ∃ kept dropped,
          shown = String.ofList (kept ++ ['.', '.', '.']) ∧ kept <+: text.toList ∧
            ((clusters text.toList).take (slots - 3)).flatten = kept ++ dropped ∧
            (∀ c ∈ dropped, isBlank c = true) ∧ ∀ c ∈ kept.getLast?, isBlank c = false) ∧
      (shown ≠ text → (clusters shown.toList).length ≤ slots) ∧
      (shown = "" → slots < 3 ∨ text = "") := by
  intro slots shown
  refine ⟨fun _ _ => Text.isSegmentation_iff, Binary32.isFloor_toUnsigned 64 _, ?_⟩
  by_cases hkeeps : f.Keeps text width
  · have hshown : shown = text := elide_of_keeps hkeeps
    refine ⟨.inl ⟨hkeeps, hshown⟩, fun hne => absurd hshown hne, fun hempty => .inr ?_⟩
    rw [← hshown, hempty]
  · have hshown : shown = if slots < 3 then "" else shorten (slots - 3) text :=
      elide_of_not_keeps hkeeps
    by_cases hnarrow : slots < 3
    · rw [if_pos hnarrow] at hshown
      refine ⟨.inr (.inl ⟨hkeeps, hnarrow, hshown⟩), fun _ => ?_, fun _ => .inl hnarrow⟩
      rw [hshown]
      exact Nat.zero_le _
    · rw [if_neg hnarrow] at hshown
      obtain ⟨⟨dropped, hcut, hblank⟩, hlast⟩ :=
        Text.exists_dropTrailingBlanks ((clusters text.toList).take (slots - 3)).flatten
      have hroom : 3 ≤ slots := Nat.le_of_not_lt hnarrow
      refine ⟨.inr (.inr ⟨hkeeps, hroom, _, dropped, hshown, ?_, hcut, hblank, hlast⟩),
        fun _ => ?_, fun hempty => ?_⟩
      · -- what is left of the first clusters begins the text
        refine List.IsPrefix.trans ⟨dropped, hcut.symm⟩
          ⟨((clusters text.toList).drop (slots - 3)).flatten, ?_⟩
        rw [← List.flatten_append, List.take_append_drop, Text.flatten_clusters]
      · calc (clusters shown.toList).length
            ≤ slots - 3 + ellipsis.length := by
              rw [hshown]
              exact length_clusters_shorten_le (slots - 3) text
          _ = slots := Nat.sub_add_cancel hroom
      · exact absurd (hshown.symm.trans hempty) (shorten_ne_empty _ _)

end Font

end Bouquet
