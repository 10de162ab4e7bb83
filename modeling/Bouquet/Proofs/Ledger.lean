import Bouquet.Proofs.Occurrences
import Mathlib.Data.List.Perm.Basic
import Mathlib.Data.Multiset.AddSub

/-!
# No Entry Is Lost

A ledger records what came into a listing and what went out of it since its entries were last
loaded. It accounts for all entries that are listed, as full references and with their number of
occurrences. Nothing else that is done with a list view makes an entry appear or disappear, and the
entries that stay can be followed from any point of a run to its end.

## Main definitions

- `Ledger`, `Listing.ledgerRun`: the account of a run
- `ListingOp.Edits`: the operations that are entered into it

## Main statements

- `Listing.balances_perform`: every operation keeps the account balanced
- `ListView.entries_accounted`: no entry is lost, duplicated or altered
-/

namespace Bouquet

/-- What came into a listing and what went out of it since its entries were loaded. -/
structure Ledger where
  loaded : Multiset Reference
  added : Multiset Reference
  removed : Multiset Reference

namespace Ledger

/-- Nothing was loaded and nothing came or went. -/
def empty : Ledger := ⟨0, 0, 0⟩

/-- What is listed and what went out is all that came in. -/
def Balances (ledger : Ledger) (entries : List Reference) : Prop :=
  ↑entries + ledger.removed = ledger.loaded + ledger.added

/-- The entries of a balanced account are what came in less what went out, of which nothing went
out that had not come in. -/
theorem Balances.eq_sub {ledger : Ledger} {entries : List Reference}
    (h : ledger.Balances entries) :
    ledger.removed ≤ ledger.loaded + ledger.added ∧
      (↑entries : Multiset Reference) = ledger.loaded + ledger.added - ledger.removed := by
  rw [← h]
  exact ⟨Multiset.le_add_left ledger.removed ↑entries, (Multiset.add_sub_cancel_right).symm⟩

/-- A balanced account does not see the order of entries. -/
theorem Balances.perm {ledger : Ledger} {entries others : List Reference}
    (h : ledger.Balances entries) (hperm : others.Perm entries) : ledger.Balances others := by
  rwa [Balances, Multiset.coe_eq_coe.mpr hperm]

end Ledger

/-- The operations by which entries come and go. -/
def ListingOp.Edits : ListingOp → Prop
  | .load _ rootOnly => rootOnly = false
  | .add _ _ => True
  | .append _ => True
  | .removeCurrent => True
  | _ => False

namespace Listing

/-! ## Accounts -/

/-- Enters an operation into the account of the listing that it is done to. -/
def record (sources : Sources) (op : ListingOp) (l : Listing) (ledger : Ledger) : Ledger :=
  match op with
  | .load root rootOnly =>
    if rootOnly then ledger else ⟨↑((sources.children root).getD []), 0, 0⟩
  | .add entry _ => { ledger with added := entry ::ₘ ledger.added }
  | .append entry => { ledger with added := entry ::ₘ ledger.added }
  | .removeCurrent =>
    -- only a successful removal counts
    if l.removeCurrent.2.1 then { ledger with removed := ↑l.current?.toList + ledger.removed }
    else ledger
  | _ => ledger

/-- The account of a run that starts with a given one. -/
def ledgerRun : List (Sources × ListingOp) → Listing → Ledger → Ledger
  | [], _, ledger => ledger
  | (sources, op) :: steps, l, ledger =>
    ledgerRun steps (perform sources op l).listing (record sources op l ledger)

/-- A move permutes the entries. -/
theorem move_perm (l : Listing) (count : Int) : (l.move count).1.entries.Perm l.entries := by
  refine move_induction (P := fun m => m.entries.Perm l.entries) ?_ count (List.Perm.refl _)
  intro m m' notices hstride hm
  cases hstride with
  | drag target _ _ _ _ _ => exact (swapped_perm m.entries m.cursor target).trans hm
  | walk _ _ _ => exact hm

/-- An operation by which no entries come and go permutes them or leaves them. -/
theorem perform_perm {op : ListingOp} (h : ¬ op.Edits) (sources : Sources) (l : Listing) :
    (perform sources op l).listing.entries.Perm l.entries := by
  rw [perform_entries]
  cases op with
  | load root rootOnly =>
    have hrootOnly : rootOnly = true := by simpa [ListingOp.Edits] using h
    simp [hrootOnly]
  | add _ _ => exact absurd trivial h
  | append _ => exact absurd trivial h
  | removeCurrent => exact absurd trivial h
  | sort => exact sorted_perm sources.order l.entries
  | move count => exact move_perm l count
  | _ => exact List.Perm.refl _

/-- **One operation** keeps the account balanced. -/
theorem balances_perform {l : Listing} {ledger : Ledger} (h : ledger.Balances l.entries)
    (sources : Sources) (op : ListingOp) :
    (record sources op l ledger).Balances (perform sources op l).listing.entries := by
  by_cases hedits : op.Edits
  · rw [perform_entries]
    cases op with
    | load root rootOnly =>
      have hreload : rootOnly = false := hedits
      simp [record, hreload, Ledger.Balances]
    | add entry before =>
      -- an account does not tell where an entry was inserted
      have hperm := List.perm_insertIdx entry l.entries (insertionPoint_le l before)
      simp only [record, Ledger.Balances, Multiset.coe_eq_coe.mpr hperm, ← Multiset.cons_coe,
        Multiset.cons_add, Multiset.add_cons]
      exact congrArg _ h
    | append entry =>
      have hperm := List.perm_append_singleton entry l.entries
      simp only [record, Ledger.Balances, Multiset.coe_eq_coe.mpr hperm, ← Multiset.cons_coe,
        Multiset.cons_add, Multiset.add_cons]
      exact congrArg _ h
    | removeCurrent =>
      by_cases hentry : l.isOnEntry = true
      · have hlt := (isOnEntry_iff l).mp hentry
        have hcurrent : l.current? = some l.entries[l.cursor] := List.getElem?_eq_getElem hlt
        have hperm := List.getElem_cons_eraseIdx_perm hlt
        -- the entry at the cursor goes from the list to what was removed
        have hentries : (↑l.entries : Multiset Reference)
            = l.entries[l.cursor] ::ₘ ↑(l.entries.eraseIdx l.cursor) :=
          (Multiset.coe_eq_coe.mpr hperm).symm
        rw [Ledger.Balances, hentries, Multiset.cons_add] at h
        simp only [record, removeCurrent, hentry, if_true, hcurrent, Ledger.Balances,
          Option.toList_some, Multiset.coe_singleton, Multiset.singleton_add, Multiset.add_cons]
        exact h
      · -- at the end of the list nothing is removed, and nothing is entered into the account
        have hle : l.entries.length ≤ l.cursor :=
          Nat.not_lt.mp (mt (isOnEntry_iff l).mpr hentry)
        simpa [record, removeCurrent, hentry, List.eraseIdx_of_length_le hle] using h
    | _ => exact absurd hedits id
  · -- what is not entered into the account permutes the entries at most
    have hrecord : record sources op l ledger = ledger := by
      cases op with
      | load root rootOnly =>
        have hrootOnly : rootOnly = true := by simpa [ListingOp.Edits] using hedits
        simp [record, hrootOnly]
      | add _ _ => exact absurd trivial hedits
      | append _ => exact absurd trivial hedits
      | removeCurrent => exact absurd trivial hedits
      | _ => rfl
    rw [hrecord]
    exact h.perm (perform_perm hedits sources l)

/-- A run keeps the account balanced. -/
theorem balances_runSteps (steps : List (Sources × ListingOp)) {l : Listing} {ledger : Ledger}
    (h : ledger.Balances l.entries) :
    (ledgerRun steps l ledger).Balances (runSteps steps l).entries := by
  induction steps generalizing l ledger with
  | nil => exact h
  | cons step steps ih => exact ih (balances_perform h step.1 step.2)

end Listing

namespace ListView

/-! ## List views -/

/-- An action by which no entries come and go permutes them or leaves them. -/
theorem perform_perm {action : ViewAction}
    (h : ∀ op, action.listOp? = some op → ¬ op.Edits) (sources : Sources) (v : ListView) :
    (perform sources action v).view.listing.entries.Perm v.listing.entries := by
  cases action with
  | list op => exact Listing.perform_perm (h op rfl) sources v.listing
  | _ => rw [perform_listing_of_listOp?_eq_none rfl]

/-- **No entry is lost, duplicated or altered.** After every run of a list view, the entries are
those that were loaded last, with those that were added and without those that were removed since.
All other actions permute the entries or leave them. From any point of a run to its end, every entry
that is neither removed nor replaced by a reload can be followed to a place of its own, where it
stands unaltered, and as long as there is no sorting and no drag the places keep their order. -/
theorem entries_accounted (actions : List (Sources × ViewAction)) :
    let account := Listing.ledgerRun (listSteps actions) Listing.empty Ledger.empty
    (account.removed ≤ account.loaded + account.added ∧
      (↑(run actions empty).listing.entries : Multiset Reference)
        = account.loaded + account.added - account.removed) ∧
    (∀ sources action v, (∀ op, action.listOp? = some op → ¬ op.Edits) →
      (perform sources action v).view.listing.entries.Perm v.listing.entries) ∧
    ∀ before after, actions = before ++ after →
      let l := (run before empty).listing
      let steps := listSteps after
      Carries l.entries (run actions empty).listing.entries (l.followRun? steps) ∧
        (∀ ordinal, l.followRun? steps ordinal = none ↔
          ∃ earlier sources op later now, steps = earlier ++ (sources, op) :: later ∧
            l.followRun? earlier ordinal = some now ∧ (l.runSteps earlier).Drops op now) ∧
        (Listing.EveryStep (fun l _ op => ¬ l.Reorders op) steps l →
          InOrder l.entries.length (l.followRun? steps)) := by
  intro account
  refine ⟨?_, fun sources action v h => perform_perm h sources v, ?_⟩
  -- an empty view starts with a balanced account
  · have hbalance : account.Balances (run actions empty).listing.entries := by
      rw [run_listing]
      exact Listing.balances_runSteps (listSteps actions) rfl
    exact hbalance.eq_sub
  · intro before after hsplit l steps
    -- the listing at the end is reached from the one in between by the remaining steps
    have hlisting : (run actions empty).listing = l.runSteps steps := by
      have hrun : run actions empty = run after (run before empty) := by
        rw [hsplit, run, List.foldl_append]
        rfl
      rw [hrun, run_listing]
    rw [hlisting]
    exact ⟨Listing.carries_followRun steps l, Listing.followRun?_eq_none_iff steps l,
      Listing.inOrder_followRun⟩

end ListView

end Bouquet
