import Bouquet.Proofs.BookmarkHistory
import Bouquet.Proofs.GuardedOperations

/-!
# Back to a Kept Place

The cursor is kept, the list is edited, sorted and dragged about, and the cursor goes back. It comes
to the ordinal where it was, if the list is what it was; to the end of the list, if it was there;
and otherwise to the entry that it was on, wherever this went, as long as it is still listed and no
other entry is taken for it.

## Main definitions

- `Distinct`: no two entries have one identity
- `Listing.Removes`: the steps that remove an entry of an identity

## Main statements

- `Bookmark.resolve_of_distinct`: among distinct entries a bookmark leads to its own
- `Listing.exists_followRun?_of_not_removed`: what is not removed can be followed
- `ListView.back_to_kept_place`: going back after any run
-/

namespace Bouquet

/-! ## Distinct entries -/

/-- No two entries have one identity. -/
def Distinct (entries : List Reference) : Prop := (entries.map Reference.identity).Nodup

instance (entries : List Reference) : Decidable (Distinct entries) :=
  inferInstanceAs (Decidable (entries.map Reference.identity).Nodup)

/-- Among distinct entries an identity has one place. -/
theorem Distinct.eq_of_same {entries : List Reference} (h : Distinct entries) {i j : Nat}
    {a b : Reference} (hi : entries[i]? = some a) (hj : entries[j]? = some b)
    (hsame : a.same b = true) : i = j := by
  have hlt : i < (entries.map Reference.identity).length := by
    rw [List.length_map]
    exact (List.getElem?_eq_some_iff.mp hi).1
  refine (List.getElem?_inj hlt h).mp ?_
  rw [List.getElem?_map, List.getElem?_map, hi, hj, Option.map_some, Option.map_some,
    (Reference.same_iff a b).mp hsame]

/-- Among distinct entries a bookmark leads to its own. -/
theorem Bookmark.resolve_of_distinct {mark : Bookmark} {entries : List Reference} {ordinal : Nat}
    {e : Reference} (hmark : mark.entry = some e) (hentry : entries[ordinal]? = some e)
    (hdistinct : Distinct entries) : mark.resolve entries = ordinal := by
  have hleads : mark.Leads entries (mark.resolve entries) := (mark.resolve_eq_iff entries _).mp rfl
  generalize mark.resolve entries = place at hleads ⊢
  -- it leads to an entry of this identity, which is its own, or there would not be any
  cases hleads with
  | toEnd hend => simp [hend] at hmark
  | stays e' x he hx hsame =>
    obtain rfl := Option.some.inj (hmark.symm.trans he)
    exact (hdistinct.eq_of_same hentry hx hsame).symm
  | moved e' x i he _ hx hsame _ =>
    obtain rfl := Option.some.inj (hmark.symm.trans he)
    exact (hdistinct.eq_of_same hentry hx hsame).symm
  | lost e' he hlost =>
    obtain rfl := Option.some.inj (hmark.symm.trans he)
    simpa using hlost e (List.mem_of_getElem? hentry)

namespace Listing

/-! ## Entries that are not removed -/

/-- The steps that remove an entry of the identity of `e`. -/
def Removes (e : Reference) (l : Listing) : ListingOp → Prop
  | .removeCurrent => ∃ x, l.current? = some x ∧ e.same x = true
  | _ => False

/-- What is not removed, from a list that is not loaded again, can be followed through a run. -/
theorem exists_followRun?_of_not_removed {steps : List (Sources × ListingOp)} {l : Listing}
    {ordinal : Nat} {e : Reference} (hentry : l.entries[ordinal]? = some e)
    (hload : ∀ step ∈ steps, ∀ root, step.2 ≠ .load root false)
    (hremove : EveryStep (fun m _ op => ¬ Removes e m op) steps l) :
    ∃ place, followRun? steps l ordinal = some place := by
  refine Option.ne_none_iff_exists'.mp fun hnone => ?_
  obtain ⟨before, sources, op, after, now, hsplit, hnow, hdrops⟩ :=
    (followRun?_eq_none_iff steps l ordinal).mp hnone
  -- the step that drops the entry would be a removal of it or a reload
  cases op with
  | load root rootOnly =>
    have hreload : rootOnly = false := hdrops
    refine hload (sources, .load root rootOnly) ?_ root (by rw [hreload])
    rw [hsplit]
    exact List.mem_append_right _ List.mem_cons_self
  | removeCurrent =>
    have hcursor : (runSteps before l).cursor = now := hdrops
    have hlt := (List.getElem?_eq_some_iff.mp hentry).1
    have hcurrent : (runSteps before l).current? = some e := by
      rw [current?, hcursor, (carries_followRun before l).unaltered ordinal now hlt hnow, hentry]
    exact hremove before sources .removeCurrent after hsplit ⟨e, hcurrent, Reference.same_self e⟩
  | _ => exact hdrops

/-! ## Keeping and going back -/

section Kept

variable {l : Listing} {key : BookmarkKey} {steps : List (Sources × ListingOp)}

/-- What was kept is gone back to in the list as it is by then. -/
theorem goBack_runSteps_keep (h : ∀ step ∈ steps, ¬ Loses key step.2 ∧ step.2 ≠ .keep key) :
    let later := runSteps steps (l.keep key)
    later.goBack key
      = ({ later with
          cursor := l.bookmark.resolve later.entries
          bookmarks := later.bookmarks.use key }, true) :=
  goBack_of_some ((get?_runSteps_of_stays h).trans (get?_perform_keep .silent key l))

/-- In a list that is what it was a bookmark leads to where the cursor was. -/
theorem resolve_bookmark (hcursor : l.cursor ≤ l.size) :
    l.bookmark.resolve l.entries = l.cursor := by
  cases hentry : l.current? with
  | none =>
    have hend : l.size ≤ l.cursor := List.getElem?_eq_none_iff.mp hentry
    rw [Bookmark.resolve_of_end hentry]
    exact Nat.le_antisymm hend hcursor
  | some e => exact Bookmark.resolve_of_stays hentry hentry (Reference.same_self e)

/-- In a list of distinct entries a bookmark leads to where a run has taken its entry. -/
theorem resolve_bookmark_of_not_removed {e : Reference} (hentry : l.current? = some e)
    (hload : ∀ step ∈ steps, ∀ root, step.2 ≠ .load root false)
    (hremove : EveryStep (fun m _ op => ¬ Removes e m op) steps (l.keep key))
    (hdistinct : Distinct (runSteps steps (l.keep key)).entries) :
    let later := runSteps steps (l.keep key)
    later.entries[l.bookmark.resolve later.entries]? = some e ∧
      followRun? steps (l.keep key) l.cursor = some (l.bookmark.resolve later.entries) := by
  intro later
  have hkept : (l.keep key).entries[l.cursor]? = some e := hentry
  have hlt := (List.getElem?_eq_some_iff.mp hkept).1
  obtain ⟨place, hplace⟩ := exists_followRun?_of_not_removed hkept hload hremove
  have hfound : later.entries[place]? = some e :=
    ((carries_followRun steps (l.keep key)).unaltered l.cursor place hlt hplace).trans hkept
  -- there is no other place to which it could be gone back
  have hresolve : l.bookmark.resolve later.entries = place :=
    Bookmark.resolve_of_distinct hentry hfound hdistinct
  rw [hresolve]
  exact ⟨hfound, hplace⟩

end Kept

end Listing

namespace ListView

open Listing (Loses Removes EveryStep followRun?)

/-- **Back to a kept place.** After any run the cursor is kept under a key, and after any further
actions it goes back, unless what was kept was lost or replaced among them. There is a place to go
back to, and nothing but the cursor and the kept places changes. If the list is what it was, the
cursor is at the ordinal where it was, whatever looks the same. If it was on an entry that was not
removed, and no two entries have one identity by then, it is where this very entry has gone. If it
was at the end of the list, it is at the end of the list as it is now. -/
theorem back_to_kept_place (before between : List (Sources × ViewAction)) (key : BookmarkKey)
    (kept back : Sources)
    (hstays : ∀ step ∈ listSteps between, ¬ Loses key step.2 ∧ step.2 ≠ .keep key) :
    let l := (run before empty).listing
    let v := run (before ++ (kept, .list (.keep key)) :: between) empty
    let reply := perform back (.list (.goBack key)) v
    let l' := reply.view.listing
    reply.answer = .list (.flag true) ∧ reply.notices = [] ∧ reply.moves = [] ∧
      l' = { v.listing with cursor := l'.cursor, bookmarks := v.listing.bookmarks.use key } ∧
      (v.listing.entries = l.entries → l'.cursor = l.cursor) ∧
      (∀ e, l.current? = some e →
        EveryStep (fun m _ op => ¬ Removes e m op) (listSteps between) (l.keep key) →
        Distinct v.listing.entries →
        l'.current? = some e ∧
          followRun? (listSteps between) (l.keep key) l.cursor = some l'.cursor) ∧
      (l.cursor = l.size → l'.cursor = l'.size) := by
  intro l v reply l'
  have hlater : v.listing = Listing.runSteps (listSteps between) (l.keep key) := by
    have hrun : v = run between (perform kept (.list (.keep key)) (run before empty)).view :=
      List.foldl_append ..
    rw [hrun, run_listing]
    rfl
  have hback : v.listing.goBack key
      = ({ v.listing with
          cursor := l.bookmark.resolve v.listing.entries
          bookmarks := v.listing.bookmarks.use key }, true) := by
    rw [hlater]
    exact Listing.goBack_runSteps_keep hstays
  have hanswer : reply.answer = .list (.flag (v.listing.goBack key).2) := rfl
  have hl' : l' = { v.listing with
      cursor := l.bookmark.resolve v.listing.entries
      bookmarks := v.listing.bookmarks.use key } := congrArg Prod.fst hback
  refine ⟨by rw [hanswer, hback], rfl, rfl, by rw [hl'], fun hsame => ?_,
    fun e he hremove hdistinct => ?_, fun hend => ?_⟩
  · have hlisting : l = Listing.empty.runSteps (listSteps before) := run_listing before empty
    have hcursor : l.cursor ≤ l.size := by
      rw [hlisting]
      exact Listing.cursor_le_runSteps (Nat.le_refl _) (listSteps before)
    rw [hl', hsame]
    exact Listing.resolve_bookmark hcursor
  · have hload : ∀ step ∈ listSteps between, ∀ root, step.2 ≠ .load root false := by
      intro step hstep root heq
      refine (hstays step hstep).1 ?_
      rw [heq]
      rfl
    rw [hlater] at hdistinct
    rw [hl', hlater]
    exact Listing.resolve_bookmark_of_not_removed he hload hremove hdistinct
  · have hentry : l.bookmark.entry = none :=
      List.getElem?_eq_none_iff.mpr (Nat.le_of_eq hend.symm)
    rw [hl']
    exact Bookmark.resolve_of_end hentry v.listing.entries

/-- Two entries, the first of which is current. -/
def firstCurrent : List (Sources × ViewAction) :=
  [(.silent, .list (.append shownEntry)), (.silent, .list (.append (.marker "other"))),
    (.silent, .list .home)]

/-- An entry is inserted before the current one, which is then dragged to the end of the list; the
cursor goes to the first row, which is kept under another key. -/
def aboutTheList : List (Sources × ViewAction) :=
  [(.silent, .list (.add hiddenEntry true)), (.silent, .list (.setDragging true)),
    (.silent, .list (.move 5)), (.silent, .list (.setDragging false)), (.silent, .list .home),
    (.silent, .list (.keep .single)), (.silent, .setIgnored none)]

/-- The cursor goes back to the entry that was dragged from the first to the last place. -/
theorem back_to_kept_place_dragged :
    (∀ step ∈ listSteps aboutTheList, ¬ Loses (.line 3) step.2 ∧ step.2 ≠ .keep (.line 3)) ∧
      let l := (run firstCurrent empty).listing
      let v := run (firstCurrent ++ (.silent, .list (.keep (.line 3))) :: aboutTheList) empty
      let l' := (perform .silent (.list (.goBack (.line 3))) v).view.listing
      l.cursor = 0 ∧ v.listing.cursor = 1 ∧ l'.current? = some shownEntry ∧ l'.cursor = 2 := by
  have hstays : ∀ step ∈ listSteps aboutTheList,
      ¬ Loses (.line 3) step.2 ∧ step.2 ≠ .keep (.line 3) := by
    simp [listSteps, aboutTheList, ViewAction.listOp?, Loses]
  obtain ⟨-, -, -, -, -, hentry, -⟩ :=
    back_to_kept_place firstCurrent aboutTheList (.line 3) .silent .silent hstays
  have hremove : EveryStep (fun m _ op => ¬ Removes shownEntry m op) (listSteps aboutTheList)
      ((run firstCurrent empty).listing.keep (.line 3)) := by
    simp [listSteps, aboutTheList, ViewAction.listOp?, Listing.everyStep_cons,
      Listing.everyStep_nil, Removes]
  exact ⟨hstays, by decide, by decide, (hentry shownEntry (by decide) hremove (by decide)).1,
    by decide⟩

end ListView

end Bouquet
