import Bouquet.Reference.Order
import Mathlib.Order.Defs.LinearOrder

/-!
# The Order of References is Total

References are compared by the parts of their identities one after the other. Each part is compared
by a total order in which only equal parts are equal, and so are identities.

## Main statements

- `Identity.cmp` is oriented and transitive, and calls equal what is equal
- `Reference.same_iff`: references of the same entry are those of one identity
- `Reference.cmp_eq_eq_iff`: references of the same entry, and no others, are equal in the order
-/

namespace Bouquet

open Std (OrientedCmp ReflCmp TransCmp LawfulEqCmp LawfulEqOrd)

/-- Comparing a part of each by an order. -/
theorem transCmp_on {α β : Type} {cmp : β → β → Ordering} [TransCmp cmp] (f : α → β) :
    TransCmp fun a b => cmp (f a) (f b) where
  eq_swap := OrientedCmp.eq_swap
  isLE_trans := TransCmp.isLE_trans

/-! ## Kinds and flags -/

theorem EntryKind.rank_injective : Function.Injective EntryKind.rank := by
  intro a b h
  cases a <;> cases b <;> simp_all [EntryKind.rank]

instance : TransCmp EntryFlags.cmp :=
  inferInstanceAs (TransCmp (compareLex (compareOn fun f : EntryFlags => f.invisible.toNat)
    (compareOn fun f : EntryFlags => f.numbered.toNat)))

theorem EntryFlags.cmp_eq_eq_iff (a b : EntryFlags) : a.cmp b = .eq ↔ a = b := by
  obtain ⟨i, n⟩ := a
  obtain ⟨i', n'⟩ := b
  cases i <;> cases n <;> cases i' <;> cases n' <;> decide

/-! ## Locators -/

instance : TransCmp Locator.cmp :=
  inferInstanceAs (TransCmp (compareLex (compareOn Locator.serviceType)
    (compareLex (compareOn Locator.serviceId)
      (compareLex (compareOn Locator.transportStream)
        (compareLex (compareOn Locator.network) (compareOn Locator.region))))))

theorem Locator.cmp_eq_eq_iff (a b : Locator) : a.cmp b = .eq ↔ a = b := by
  obtain ⟨serviceType, serviceId, transportStream, network, region⟩ := a
  obtain ⟨serviceType', serviceId', transportStream', network', region'⟩ := b
  simp [Locator.cmp, Ordering.then_eq_eq]

instance : TransCmp Locator.cmpOption where
  eq_swap {a b} := by
    cases a with
    | none => cases b <;> rfl
    | some a =>
      cases b with
      | none => rfl
      | some b => exact @OrientedCmp.eq_swap _ Locator.cmp _ a b
  isLE_trans {a b c} hab hbc := by
    cases a with
    | none => cases c <;> rfl
    | some a =>
      -- a locator is not below an absent one, so neither of the others is absent
      cases b with
      | none => simp [Locator.cmpOption] at hab
      | some b =>
        cases c with
        | none => simp [Locator.cmpOption] at hbc
        | some c => exact @TransCmp.isLE_trans _ Locator.cmp _ a b c hab hbc

theorem Locator.cmpOption_eq_eq_iff (a b : Option Locator) :
    Locator.cmpOption a b = .eq ↔ a = b := by
  cases a <;> cases b <;> simp [Locator.cmpOption, Locator.cmp_eq_eq_iff]

/-! ## Identities and references -/

instance : TransCmp fun a b : Identity => Locator.cmpOption a.locator b.locator :=
  transCmp_on Identity.locator

instance : TransCmp fun a b : Identity => a.flags.cmp b.flags :=
  transCmp_on Identity.flags

instance : TransCmp Identity.cmp :=
  inferInstanceAs (TransCmp (compareLex (compareOn fun i : Identity => i.kind.rank)
    (compareLex (compareOn Identity.path)
      (compareLex (fun a b => Locator.cmpOption a.locator b.locator)
        fun a b => a.flags.cmp b.flags))))

theorem Identity.cmp_eq_eq_iff (a b : Identity) : a.cmp b = .eq ↔ a = b := by
  obtain ⟨kind, path, locator, flags⟩ := a
  obtain ⟨kind', path', locator', flags'⟩ := b
  simp [Identity.cmp, Ordering.then_eq_eq, Locator.cmpOption_eq_eq_iff,
    EntryFlags.cmp_eq_eq_iff, EntryKind.rank_injective.eq_iff]

instance : LawfulEqCmp Identity.cmp where
  compare_self {a} := (Identity.cmp_eq_eq_iff a a).mpr rfl
  eq_of_compare {a b} h := (Identity.cmp_eq_eq_iff a b).mp h

theorem Reference.same_iff (r s : Reference) : r.same s = true ↔ r.identity = s.identity := by
  simp [Reference.same]

@[simp]
theorem Reference.same_self (r : Reference) : r.same r = true := by
  simp [Reference.same]

theorem Reference.same_comm (r s : Reference) : r.same s = s.same r :=
  BEq.comm

instance : TransCmp Reference.cmp :=
  transCmp_on Reference.identity

/-- Equal in the order are the references of the same entry. -/
theorem Reference.cmp_eq_eq_iff (r s : Reference) : r.cmp s = .eq ↔ r.same s = true := by
  rw [Reference.cmp, Identity.cmp_eq_eq_iff, Reference.same_iff]

end Bouquet
