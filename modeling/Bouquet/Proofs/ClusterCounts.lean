import Bouquet.Text.Blank
import Bouquet.Text.Cluster

/-!
# Counting Clusters

Whether a character continues a cluster is decided by what stands before it, and not by what
follows. The clusters of the beginning of a text are therefore those of the text, but for the last
one, which may be cut. A beginning never has more clusters than the whole, and every character that
is added to a text adds one cluster at most.

## Main statements

- `Text.flatten_clusters`: the clusters of a text are its consecutive pieces
- `Text.clusters_flatten_take`: the first clusters of a text are the clusters of what they make up
- `Text.length_clusters_le_of_prefix`, `Text.length_clusters_append_le`: beginnings and additions
- `Text.exists_dropTrailingBlanks`: what trimming drops and where it stops
-/

namespace Bouquet.Text

/-! ## Clusters -/

theorem flatten_clustersFrom (t : Tail) (opened cs : List Char) :
    (clustersFrom t opened cs).flatten = opened.reverse ++ cs := by
  induction cs generalizing t opened with
  | nil => simp [clustersFrom]
  | cons c rest ih =>
    rw [clustersFrom]
    split
    · rw [ih, List.reverse_cons, List.append_assoc, List.singleton_append]
    · rw [List.flatten_cons, ih, List.reverse_singleton, List.singleton_append]

/-- The clusters of a text are its consecutive pieces. -/
theorem flatten_clusters (cs : List Char) : (clusters cs).flatten = cs := by
  cases cs with
  | nil => rfl
  | cons c rest => rw [clusters, flatten_clustersFrom, List.reverse_singleton, List.singleton_append]

/-- The first clusters of a text, of which the open one is the first, are what its beginning
makes up. -/
theorem exists_take_clustersFrom (count : Nat) (t : Tail) (opened cs : List Char) :
    ∃ front, (clustersFrom t opened cs).take (count + 1) = clustersFrom t opened front := by
  induction cs generalizing count t opened with
  | nil => exact ⟨[], List.take_of_length_le (by simp [clustersFrom])⟩
  | cons c rest ih =>
    rw [clustersFrom]
    split
    · next hjoins =>
      obtain ⟨front, hfront⟩ := ih count (t.push c) (c :: opened)
      exact ⟨c :: front, by rw [hfront, clustersFrom, if_pos hjoins]⟩
    · next hparts =>
      cases count with
      | zero => exact ⟨[], rfl⟩
      | succ count =>
        obtain ⟨front, hfront⟩ := ih count (Tail.start c) [c]
        exact ⟨c :: front, by rw [List.take_succ_cons, hfront, clustersFrom, if_neg hparts]⟩

/-- The first clusters of a text are the clusters of what they make up. -/
theorem clusters_flatten_take (count : Nat) (cs : List Char) :
    clusters ((clusters cs).take count).flatten = (clusters cs).take count := by
  cases cs with
  | nil => simp [clusters]
  | cons c rest =>
    cases count with
    | zero => rfl
    | succ count =>
      obtain ⟨front, hfront⟩ := exists_take_clustersFrom count (Tail.start c) [c] rest
      rw [clusters, hfront, flatten_clustersFrom]
      rfl

/-! ## Beginnings and additions -/

theorem length_clustersFrom_pos (t : Tail) (opened cs : List Char) :
    1 ≤ (clustersFrom t opened cs).length := by
  induction cs generalizing t opened with
  | nil => exact Nat.le_refl _
  | cons c rest ih =>
    rw [clustersFrom]
    split
    · exact ih _ _
    · exact Nat.le_add_left _ _

/-- Besides the open cluster there is at most one for each character. -/
theorem length_clustersFrom_le (t : Tail) (opened cs : List Char) :
    (clustersFrom t opened cs).length ≤ 1 + cs.length := by
  induction cs generalizing t opened with
  | nil => exact Nat.le_refl _
  | cons c rest ih =>
    rw [clustersFrom, List.length_cons]
    split
    · exact Nat.le_succ_of_le (ih _ _)
    · exact Nat.succ_le_succ (ih _ _)

/-- What follows a text takes no cluster from it and opens at most one for each character. -/
theorem length_clustersFrom_append (t : Tail) (opened cs added : List Char) :
    (clustersFrom t opened cs).length ≤ (clustersFrom t opened (cs ++ added)).length ∧
      (clustersFrom t opened (cs ++ added)).length
        ≤ (clustersFrom t opened cs).length + added.length := by
  induction cs generalizing t opened with
  | nil => exact ⟨length_clustersFrom_pos t opened added, length_clustersFrom_le t opened added⟩
  | cons c rest ih =>
    rw [List.cons_append, clustersFrom, clustersFrom]
    split
    · exact ih _ _
    · have hrest := ih (Tail.start c) [c]
      rw [List.length_cons, List.length_cons]
      omega

/-- The beginning of a text has no more clusters than the text. -/
theorem length_clusters_le_of_prefix {cs whole : List Char} (h : cs <+: whole) :
    (clusters cs).length ≤ (clusters whole).length := by
  obtain ⟨added, rfl⟩ := h
  cases cs with
  | nil => exact Nat.zero_le _
  | cons c rest => exact (length_clustersFrom_append _ _ rest added).1

/-- A character that is added adds one cluster at most. -/
theorem length_clusters_append_le (cs added : List Char) :
    (clusters (cs ++ added)).length ≤ (clusters cs).length + added.length := by
  cases cs with
  | nil =>
    cases added with
    | nil => exact Nat.le_refl _
    | cons c rest =>
      calc (clustersFrom (Tail.start c) [c] rest).length
          ≤ 1 + rest.length := length_clustersFrom_le _ _ rest
        _ = (clusters []).length + (c :: rest).length := by
            rw [clusters, List.length_nil, List.length_cons, Nat.zero_add, Nat.add_comm]
  | cons c rest => exact (length_clustersFrom_append _ _ rest added).2

/-! ## Trimming -/

/-- Trimming drops blanks from the end of a text, and stops at the last character that is none. -/
theorem exists_dropTrailingBlanks (cs : List Char) :
    (∃ dropped, cs = dropTrailingBlanks cs ++ dropped ∧ ∀ c ∈ dropped, isBlank c = true) ∧
      ∀ c ∈ (dropTrailingBlanks cs).getLast?, isBlank c = false := by
  induction cs with
  | nil => simp [dropTrailingBlanks]
  | cons c rest ih =>
    obtain ⟨⟨dropped, hrest, hblank⟩, hlast⟩ := ih
    rw [dropTrailingBlanks]
    split
    · next hnone =>
      rw [hnone, List.nil_append] at hrest
      subst hrest
      -- the character before blanks only is dropped if it is a blank as well
      split
      · next hc => exact ⟨⟨c :: rest, rfl, List.forall_mem_cons.mpr ⟨hc, hblank⟩⟩, by simp⟩
      · next hc => exact ⟨⟨rest, rfl, hblank⟩, by simpa using hc⟩
    · next hsome =>
      refine ⟨⟨dropped, by rw [List.cons_append, ← hrest], hblank⟩, ?_⟩
      rwa [List.getLast?_cons_of_ne_nil hsome]

end Bouquet.Text
