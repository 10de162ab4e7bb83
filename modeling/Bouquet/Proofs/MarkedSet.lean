import Bouquet.Marks
import Bouquet.Proofs.ReferenceOrder
import Mathlib.Data.List.Induction
import Mathlib.Data.Set.Card

/-!
# The Marked Set and Its Pass

After any run the members are in strictly ascending order, and there is one for each identity that
was inserted and not taken out since, namely the reference that was inserted first. A pass hands out
the members as they were when it began, whatever happens to the set in between.

## Main definitions

- `MarksOp.TakesOut`, `MarksOp.Present`, `MarksOp.Represents`: what a run says of an identity
- `Marks.rest`: what a pass has still to hand out

## Main statements

- `Marks.mem_run_iff`: the members after a run
- `Marks.handedOut_eq`: what a pass hands out
- `Marks.ordered_set_with_pass`: both, with the answers of the operations
-/

namespace Bouquet

/-! ## What a run says of an identity -/

namespace MarksOp

/-- The operations that take an identity out of the set. -/
def TakesOut (i : Identity) : MarksOp → Prop
  | .clear => True
  | .erase r => r.identity = i
  | _ => False

/-- The identity was inserted, and not taken out since. -/
def Present (ops : List MarksOp) (i : Identity) : Prop :=
  ∃ before r after, ops = before ++ .insert r :: after ∧ r.identity = i
    ∧ ∀ op ∈ after, ¬ op.TakesOut i

/-- The reference was inserted when its identity was absent, which it never was since. -/
def Represents (ops : List MarksOp) (r : Reference) : Prop :=
  ∃ before after, ops = before ++ .insert r :: after ∧ ¬ Present before r.identity
    ∧ ∀ op ∈ after, ¬ op.TakesOut r.identity

/-- A splitting of a run at one of its operations is at the last one or before it. -/
private theorem concat_eq_split_iff {ops before after : List MarksOp} {op x : MarksOp} :
    ops ++ [op] = before ++ x :: after
      ↔ (before = ops ∧ x = op ∧ after = [])
        ∨ ∃ front, after = front ++ [op] ∧ ops = before ++ x :: front := by
  constructor
  · intro h
    rcases List.eq_nil_or_concat after with rfl | ⟨front, last, rfl⟩
    · obtain ⟨rfl, hlast⟩ := List.append_inj' h rfl
      obtain rfl := (List.cons.inj hlast).1
      exact .inl ⟨rfl, rfl, rfl⟩
    · rw [List.concat_eq_append, ← List.cons_append, ← List.append_assoc] at h
      obtain ⟨rfl, hlast⟩ := List.append_inj' h rfl
      obtain rfl := (List.cons.inj hlast).1
      exact .inr ⟨front, List.concat_eq_append, rfl⟩
  · rintro (⟨rfl, rfl, rfl⟩ | ⟨front, rfl, rfl⟩)
    · rfl
    · simp

theorem not_present_nil (i : Identity) : ¬ Present [] i := by
  rintro ⟨before, r, after, h, -, -⟩
  simp at h

theorem not_represents_nil (r : Reference) : ¬ Represents [] r := by
  rintro ⟨before, after, h, -, -⟩
  simp at h

theorem present_concat (ops : List MarksOp) (op : MarksOp) (i : Identity) :
    Present (ops ++ [op]) i
      ↔ (∃ r, op = .insert r ∧ r.identity = i) ∨ (¬ op.TakesOut i ∧ Present ops i) := by
  constructor
  · rintro ⟨before, r, after, hsplit, hid, hstays⟩
    rcases concat_eq_split_iff.mp hsplit with ⟨-, rfl, -⟩ | ⟨front, rfl, rfl⟩
    · exact .inl ⟨r, rfl, hid⟩
    · exact .inr ⟨hstays op (by simp), before, r, front, rfl, hid,
        fun other hother => hstays other (by simp [hother])⟩
  · rintro (⟨r, rfl, hid⟩ | ⟨hop, before, r, after, rfl, hid, hstays⟩)
    · exact ⟨ops, r, [], rfl, hid, by simp⟩
    · refine ⟨before, r, after ++ [op], by simp, hid, fun other hother => ?_⟩
      rcases List.mem_append.mp hother with hold | hlast
      · exact hstays other hold
      · obtain rfl := List.mem_singleton.mp hlast
        exact hop

theorem represents_concat (ops : List MarksOp) (op : MarksOp) (r : Reference) :
    Represents (ops ++ [op]) r
      ↔ (op = .insert r ∧ ¬ Present ops r.identity)
        ∨ (¬ op.TakesOut r.identity ∧ Represents ops r) := by
  constructor
  · rintro ⟨before, after, hsplit, habsent, hstays⟩
    rcases concat_eq_split_iff.mp hsplit with ⟨rfl, rfl, -⟩ | ⟨front, rfl, rfl⟩
    · exact .inl ⟨rfl, habsent⟩
    · exact .inr ⟨hstays op (by simp), before, front, rfl, habsent,
        fun other hother => hstays other (by simp [hother])⟩
  · rintro (⟨rfl, habsent⟩ | ⟨hop, before, after, rfl, habsent, hstays⟩)
    · exact ⟨ops, [], rfl, habsent, by simp⟩
    · refine ⟨before, after ++ [op], by simp, habsent, fun other hother => ?_⟩
      rcases List.mem_append.mp hother with hold | hlast
      · exact hstays other hold
      · obtain rfl := List.mem_singleton.mp hlast
        exact hop

/-- An identity that is present has a reference that stands for it. -/
theorem present_iff_exists_represents (ops : List MarksOp) (i : Identity) :
    Present ops i ↔ ∃ r, Represents ops r ∧ r.identity = i := by
  induction ops using List.reverseRecOn with
  | nil => simp [not_present_nil, not_represents_nil]
  | append_singleton ops op ih =>
    simp only [present_concat, represents_concat]
    constructor
    · rintro (⟨r, rfl, rfl⟩ | ⟨hop, hpresent⟩)
      · -- the reference stands for itself unless another one already does
        by_cases hpresent : Present ops r.identity
        · obtain ⟨s, hs, hid⟩ := ih.mp hpresent
          exact ⟨s, .inr ⟨id, hs⟩, hid⟩
        · exact ⟨r, .inl ⟨rfl, hpresent⟩, rfl⟩
      · obtain ⟨r, hr, rfl⟩ := ih.mp hpresent
        exact ⟨r, .inr ⟨hop, hr⟩, rfl⟩
    · rintro ⟨r, ⟨rfl, -⟩ | ⟨hop, hr⟩, rfl⟩
      · exact .inl ⟨r, rfl, rfl⟩
      · exact .inr ⟨hop, ih.mpr ⟨r, hr, rfl⟩⟩

end MarksOp

open MarksOp (Present Represents TakesOut)

namespace Marks

/-! ## Members -/

/-- The members are in strictly ascending order. -/
def Ascending (members : List Reference) : Prop :=
  members.Pairwise fun r s => r.cmp s = .lt

theorem contains_iff (m : Marks) (r : Reference) :
    m.contains r = true ↔ ∃ s ∈ m.members, s.identity = r.identity := by
  simp only [contains, List.any_eq_true, Reference.same_iff]
  exact exists_congr fun s => and_congr_right fun _ => eq_comm

/-- A reference whose identity is absent becomes a member beside those before. -/
theorem mem_insertSorted {r s : Reference} {members : List Reference}
    (h : ∀ m ∈ members, r.cmp m ≠ .eq) : s ∈ insertSorted r members ↔ s = r ∨ s ∈ members := by
  induction members with
  | nil => simp [insertSorted]
  | cons m rest ih =>
    have hrest : ∀ m ∈ rest, r.cmp m ≠ .eq := fun m hm => h m (List.mem_cons_of_mem _ hm)
    cases hcmp : r.cmp m with
    | lt => simp [insertSorted, hcmp]
    | eq => exact absurd hcmp (h m List.mem_cons_self)
    | gt =>
      simp only [insertSorted, hcmp, List.mem_cons, ih hrest]
      exact or_left_comm

theorem ascending_insertSorted {r : Reference} {members : List Reference}
    (hsorted : Ascending members) (h : ∀ m ∈ members, r.cmp m ≠ .eq) :
    Ascending (insertSorted r members) := by
  induction members with
  | nil => exact List.pairwise_singleton _ _
  | cons m rest ih =>
    obtain ⟨hm, hrestSorted⟩ := List.pairwise_cons.mp hsorted
    have hrest : ∀ m ∈ rest, r.cmp m ≠ .eq := fun m hm => h m (List.mem_cons_of_mem _ hm)
    cases hcmp : r.cmp m with
    | lt =>
      simp only [insertSorted, hcmp]
      refine List.pairwise_cons.mpr ⟨fun s hs => ?_, hsorted⟩
      rcases List.mem_cons.mp hs with rfl | hs
      · exact hcmp
      · exact Std.TransCmp.lt_trans hcmp (hm s hs)
    | eq => exact absurd hcmp (h m List.mem_cons_self)
    | gt =>
      simp only [insertSorted, hcmp]
      refine List.pairwise_cons.mpr ⟨fun s hs => ?_, ih hrestSorted hrest⟩
      rcases (mem_insertSorted hrest).mp hs with rfl | hs
      · exact Std.OrientedCmp.lt_of_gt hcmp
      · exact hm s hs

/-- No member is equal in the order to a reference whose identity is absent. -/
theorem cmp_ne_eq_of_absent {m : Marks} {r : Reference} (h : ¬ m.contains r = true) :
    ∀ s ∈ m.members, r.cmp s ≠ .eq := by
  intro s hs hcmp
  rw [Reference.cmp_eq_eq_iff] at hcmp
  exact h (List.any_eq_true.mpr ⟨s, hs, hcmp⟩)

theorem contains_insert (m : Marks) (r : Reference) : (m.insert r).1.contains r = true := by
  unfold insert
  split
  · assumption
  · next habsent =>
    refine (contains_iff _ r).mpr ⟨r, ?_, rfl⟩
    exact (mem_insertSorted (cmp_ne_eq_of_absent habsent)).mpr (.inl rfl)

theorem ascending_step {m : Marks} (h : Ascending m.members) (op : MarksOp) :
    Ascending (m.step op).1.members := by
  cases op with
  | clear => exact List.Pairwise.nil
  | insert r =>
    by_cases hmem : m.contains r = true
    · simpa [step, insert, hmem] using h
    · simpa [step, insert, hmem] using ascending_insertSorted h (cmp_ne_eq_of_absent hmem)
  | erase r =>
    by_cases hmem : m.contains r = true
    · simp only [step, erase, hmem, if_true]
      exact List.Pairwise.sublist List.filter_sublist h
    · simpa [step, erase, hmem] using h
  | contains r => exact h
  | startPass => exact h
  | next =>
    simp only [step, next]
    split <;> exact h
  | members => exact h

/-- The members after an operation. -/
theorem mem_step_iff (m : Marks) (op : MarksOp) (r : Reference) :
    r ∈ (m.step op).1.members
      ↔ (op = .insert r ∧ ¬ m.contains r = true) ∨ (¬ op.TakesOut r.identity ∧ r ∈ m.members) := by
  cases op with
  | clear => simp [step, empty, TakesOut]
  | insert s =>
    by_cases hmem : m.contains s = true
    · have hother : s = r → m.contains r = true := fun h => h ▸ hmem
      simp only [step, insert, hmem, if_true, TakesOut, MarksOp.insert.injEq]
      tauto
    · simp only [step, insert, hmem, TakesOut, MarksOp.insert.injEq]
      rw [if_neg (by simp), mem_insertSorted (cmp_ne_eq_of_absent hmem)]
      constructor
      · rintro (rfl | hr)
        · exact .inl ⟨rfl, hmem⟩
        · exact .inr ⟨id, hr⟩
      · rintro (⟨rfl, -⟩ | ⟨-, hr⟩)
        · exact .inl rfl
        · exact .inr hr
  | erase s =>
    by_cases hmem : m.contains s = true
    · simp [step, erase, hmem, TakesOut, Reference.same, and_comm]
    · have hkeep : r ∈ m.members → s.identity ≠ r.identity := fun hr hid =>
        hmem ((contains_iff m s).mpr ⟨r, hr, hid.symm⟩)
      simp only [step, erase, hmem, TakesOut]
      rw [if_neg (by simp)]
      simpa using hkeep
  | contains s => simp [step, TakesOut]
  | startPass => simp [step, startPass, TakesOut]
  | next =>
    simp only [step, next, TakesOut]
    split <;> simp
  | members => simp [step, TakesOut]

theorem run_concat (ops : List MarksOp) (op : MarksOp) (m : Marks) :
    run (ops ++ [op]) m = ((run ops m).step op).1 := by
  simp [run]

theorem ascending_run (ops : List MarksOp) : Ascending (run ops empty).members := by
  induction ops using List.reverseRecOn with
  | nil => exact List.Pairwise.nil
  | append_singleton ops op ih =>
    rw [run_concat]
    exact ascending_step ih op

/-- The members after a run are the references that stand for an identity. -/
theorem mem_run_iff (ops : List MarksOp) (r : Reference) :
    r ∈ (run ops empty).members ↔ Represents ops r := by
  induction ops using List.reverseRecOn generalizing r with
  | nil => simp [run, empty, MarksOp.not_represents_nil]
  | append_singleton ops op ih =>
    have hcontains : (run ops empty).contains r = true ↔ Present ops r.identity := by
      simp only [contains_iff, ih, MarksOp.present_iff_exists_represents]
    rw [run_concat, mem_step_iff, MarksOp.represents_concat, ih, hcontains]

theorem contains_run_iff (ops : List MarksOp) (r : Reference) :
    (run ops empty).contains r = true ↔ Present ops r.identity := by
  simp only [contains_iff, mem_run_iff, MarksOp.present_iff_exists_represents]

/-- No two members have the same identity. -/
theorem nodup_identities {members : List Reference} (h : Ascending members) :
    (members.map Reference.identity).Nodup := by
  refine List.pairwise_map.mpr (h.imp fun {r s} hlt hid => ?_)
  have hsame : r.cmp s = .eq := by
    rw [Reference.cmp_eq_eq_iff, Reference.same_iff, hid]
  simp [hsame] at hlt

theorem size_run (ops : List MarksOp) : (run ops empty).size = {i | Present ops i}.ncard := by
  have hpresent : {i | Present ops i}
      = ((run ops empty).members.map Reference.identity).toFinset := by
    ext i
    simp [mem_run_iff, MarksOp.present_iff_exists_represents]
  rw [hpresent, Set.ncard_coe_finset,
    List.toFinset_card_of_nodup (nodup_identities (ascending_run ops)), List.length_map, size]

/-! ## The pass -/

/-- What the pass has still to hand out. -/
def rest (m : Marks) : List Reference := m.pass.getD []

theorem next_eq_head? (m : Marks) : m.next.2 = m.rest.head? := by
  cases hpass : m.pass with
  | none => simp [next, rest, hpass]
  | some rs => cases rs <;> simp [next, rest, hpass]

/-- Inserting and taking out members does not reach a pass under way. -/
theorem rest_step (m : Marks) (op : MarksOp) :
    (m.step op).1.rest =
      match op with
      | .clear => []
      | .startPass => m.members
      | .next => m.rest.tail
      | _ => m.rest := by
  cases op with
  | clear => rfl
  | insert r =>
    simp only [step, insert]
    split <;> rfl
  | erase r =>
    simp only [step, erase]
    split <;> rfl
  | next =>
    cases hpass : m.pass with
    | none => simp [step, next, rest, hpass]
    | some rs => cases rs <;> simp [step, next, rest, hpass]
  | contains r => rfl
  | startPass => rfl
  | members => rfl

end Marks

/-- The answer of a pass that is asked for its next member. -/
def MarksAnswer.handed? : MarksAnswer → Option (Option Reference)
  | .member r => some r
  | _ => none

/-- Whether an operation asks a pass for its next member. -/
def MarksOp.asksNext : MarksOp → Bool
  | .next => true
  | _ => false

namespace Marks

/-- What passes answer during a run, in order. -/
def handedOut (ops : List MarksOp) (m : Marks) : List (Option Reference) :=
  (answers ops m).filterMap MarksAnswer.handed?

theorem handedOut_cons_next (ops : List MarksOp) (m : Marks) :
    handedOut (.next :: ops) m = m.rest.head? :: handedOut ops m.next.1 := by
  simp [handedOut, answers, step, MarksAnswer.handed?, next_eq_head?]

theorem handedOut_cons_of_ne {op : MarksOp} (h : op.asksNext = false) (ops : List MarksOp)
    (m : Marks) : handedOut (op :: ops) m = handedOut ops (m.step op).1 := by
  cases op with
  | next => simp [MarksOp.asksNext] at h
  | _ => rfl

/-- Until another pass begins, the answers are what the pass had left, one after the other, and
then nothing. If the set is emptied meanwhile, the pass must have had nothing left. -/
theorem handedOut_eq {ops : List MarksOp} {m : Marks} (hstart : .startPass ∉ ops)
    (hclear : .clear ∈ ops → m.rest = []) :
    handedOut ops m
      = (List.range (ops.countP MarksOp.asksNext)).map fun k => m.rest[k]? := by
  induction ops generalizing m with
  | nil => rfl
  | cons op ops ih =>
    have hstartRest : .startPass ∉ ops := fun h => hstart (List.mem_cons_of_mem _ h)
    cases hnext : op.asksNext with
    | true =>
      -- one member is handed out, and the others move up
      obtain rfl : op = .next := by
        cases op with
        | next => rfl
        | _ => simp [MarksOp.asksNext] at hnext
      have hrest : m.next.1.rest = m.rest.tail := rest_step m .next
      have hlater := ih hstartRest (m := m.next.1) fun h => by
        rw [hrest, hclear (List.mem_cons_of_mem _ h), List.tail_nil]
      rw [handedOut_cons_next, hlater, hrest, List.countP_cons, hnext, if_pos rfl,
        List.range_succ_eq_map, List.map_cons, List.map_map, List.head?_eq_getElem?]
      simp [Function.comp_def]
    | false =>
      have hsame : (m.step op).1.rest = m.rest := by
        rw [rest_step]
        cases op with
        | clear => exact (hclear List.mem_cons_self).symm
        | startPass => exact absurd List.mem_cons_self hstart
        | next => simp [MarksOp.asksNext] at hnext
        | _ => rfl
      have hlater := ih hstartRest (m := (m.step op).1) fun h => by
        rw [hsame, hclear (List.mem_cons_of_mem _ h)]
      rw [handedOut_cons_of_ne hnext, hlater, hsame, List.countP_cons, hnext]
      simp

/-- **A set with a pass.** After any run from the empty set on, the members are in strictly
ascending order. They are one reference for each identity that is present, the one that stands for
it, and inserting, taking out, asking for a member and counting agree with that. A pass answers with
the members as they were when it began, each once and in order, and then with nothing, whatever is
inserted or taken out meanwhile; where no pass was begun, or the set was emptied since, the answer
is nothing. -/
theorem ordered_set_with_pass (ops : List MarksOp) :
    Ascending (run ops empty).members
      ∧ (∀ i, Present ops i → ∃! r, r ∈ (run ops empty).members ∧ r.identity = i)
      ∧ (∀ r, r ∈ (run ops empty).members ↔ Represents ops r)
      ∧ (∀ r, ((run ops empty).insert r).2 = true ↔ ¬ Present ops r.identity)
      ∧ (∀ r, ((run ops empty).erase r).2 = true ↔ Present ops r.identity)
      ∧ (∀ r, (run ops empty).contains r = true ↔ Present ops r.identity)
      ∧ (run ops empty).size = {i | Present ops i}.ncard
      ∧ (∀ before after, ops = before ++ .startPass :: after →
          .startPass ∉ after → .clear ∉ after →
          handedOut after (run (before ++ [.startPass]) empty)
            = (List.range (after.countP MarksOp.asksNext)).map fun k =>
                (run before empty).members[k]?)
      ∧ ∀ before after, ops = before ++ after →
          (before = [] ∨ ∃ front, before = front ++ [.clear]) → .startPass ∉ after →
          ∀ answer ∈ handedOut after (run before empty), answer = none := by
  have hmem := mem_run_iff ops
  have hcontains := contains_run_iff ops
  have hascending := ascending_run ops
  refine ⟨hascending, ?_, hmem, ?_, ?_, hcontains, size_run ops, ?_, ?_⟩
  · intro i hpresent
    obtain ⟨r, hr, rfl⟩ := (MarksOp.present_iff_exists_represents ops i).mp hpresent
    exact ⟨r, ⟨(hmem r).mpr hr, rfl⟩,
      fun s hs => List.inj_on_of_nodup_map (nodup_identities hascending) hs.1
        ((hmem r).mpr hr) hs.2⟩
  · intro r
    rw [← hcontains, insert]
    split <;> simp_all
  · intro r
    rw [← hcontains, erase]
    split <;> simp_all
  · rintro before after - hstart hclear
    rw [handedOut_eq hstart fun h => absurd h hclear, run_concat]
    rfl
  · rintro before after - hbefore hstart answer hanswer
    have hrest : (run before empty).rest = [] := by
      rcases hbefore with rfl | ⟨front, rfl⟩
      · rfl
      · rw [run_concat]
        rfl
    rw [handedOut_eq hstart fun _ => hrest, hrest] at hanswer
    obtain ⟨k, -, rfl⟩ := List.mem_map.mp hanswer
    exact List.getElem?_nil

end Marks

end Bouquet
