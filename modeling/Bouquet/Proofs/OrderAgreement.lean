import Bouquet.Proofs.ByteOrder
import Bouquet.Proofs.ReferenceOrder
import Mathlib.Data.Prod.Lex
import Mathlib.Order.WithBot

/-!
# Equality, Order and Hashing of References Agree

Whether two references name the same entry, how they compare and what they feed to a hash are three
questions with rules of their own. All three come down to identities. The order takes their parts
lexicographically, and paths byte by byte. It is total, and equal in it are the references of the
same entry. These feed the same data to a hash, and no others do.

## Main definitions

- `Identity.key`: the parts of an identity in the order in which they decide
- `TotalUpTo`: a comparison that is total up to an equality
- `Reference.listedAs`: the same entry in another listing

## Main statements

- `Identity.cmp_eq_lt_iff`: identities compare as their keys do
- `Identity.eq_of_hashData_prefix`: the data of an identity are not where those of another begin
- `Reference.total_order_on_identities`: equality, order and hashing together
-/

namespace Bouquet

open Std (OrientedCmp ReflCmp TransCmp)

/-! ## Keys -/

/-- The fields of a locator from the first to the last, compared lexicographically. -/
abbrev LocatorKey : Type := UInt16 ×ₗ UInt16 ×ₗ UInt16 ×ₗ UInt16 ×ₗ UInt32

def Locator.key (l : Locator) : LocatorKey :=
  toLex (l.serviceType, toLex (l.serviceId, toLex (l.transportStream, toLex (l.network, l.region))))

/-- An absent locator is below every other. -/
def Locator.keyOption : Option Locator → WithBot LocatorKey
  | none => ⊥
  | some l => l.key

def EntryFlags.key (f : EntryFlags) : Bool ×ₗ Bool :=
  toLex (f.invisible, f.numbered)

/-- Kind, bytes of the path, locator and flags, compared lexicographically. -/
def Identity.key (i : Identity) : ℕ ×ₗ List UInt8 ×ₗ WithBot LocatorKey ×ₗ Bool ×ₗ Bool :=
  toLex (i.kind.rank, toLex (i.pathBytes, toLex (Locator.keyOption i.locator, i.flags.key)))

theorem Locator.key_inj {a b : Locator} : a.key = b.key ↔ a = b := by
  cases a
  cases b
  simp [Locator.key]

theorem Locator.cmp_eq_lt_iff (a b : Locator) : a.cmp b = .lt ↔ a.key < b.key := by
  simp only [Locator.cmp, Locator.key, Prod.Lex.toLex_lt_toLex, Ordering.then_eq_lt,
    Std.compare_eq_lt, Std.compare_eq_iff_eq]

theorem Locator.keyOption_inj {a b : Option Locator} :
    Locator.keyOption a = Locator.keyOption b ↔ a = b := by
  cases a <;> cases b <;> simp [Locator.keyOption, Locator.key_inj]

theorem Locator.cmpOption_eq_lt_iff (a b : Option Locator) :
    Locator.cmpOption a b = .lt ↔ Locator.keyOption a < Locator.keyOption b := by
  cases a <;> cases b <;> simp [Locator.cmpOption, Locator.keyOption, Locator.cmp_eq_lt_iff]

theorem EntryFlags.cmp_eq_lt_iff (f g : EntryFlags) : f.cmp g = .lt ↔ f.key < g.key := by
  obtain ⟨invisible, numbered⟩ := f
  obtain ⟨invisible', numbered'⟩ := g
  simp only [EntryFlags.key, Prod.Lex.toLex_lt_toLex]
  cases invisible <;> cases numbered <;> cases invisible' <;> cases numbered' <;> decide

/-- The kind decides, then the bytes of the path, then the locator, and then the flags. -/
theorem Identity.cmp_eq_lt_iff (i j : Identity) : i.cmp j = .lt ↔ i.key < j.key := by
  simp only [Identity.cmp, Identity.key, Prod.Lex.toLex_lt_toLex, Ordering.then_eq_lt,
    compare_lt_iff_lt, compare_eq_iff_eq, Identity.pathBytes_lt_iff, Identity.pathBytes_inj,
    Locator.cmpOption_eq_lt_iff, Locator.cmpOption_eq_eq_iff, Locator.keyOption_inj,
    EntryFlags.cmp_eq_lt_iff]

/-! ## Total orders -/

/-- A comparison that is total, with the answer `eq` for what an equality calls equal. -/
structure TotalUpTo {α : Type} (same : α → α → Bool) (cmp : α → α → Ordering) : Prop where
  equivalence : Equivalence fun a b => same a b = true
  /-- The other way round, the answer is the opposite one. -/
  swap (a b : α) : cmp b a = (cmp a b).swap
  total (a b : α) : (cmp a b).isLE = true ∨ (cmp b a).isLE = true
  antisymm (a b : α) : (cmp a b).isLE = true → (cmp b a).isLE = true → same a b = true
  le_trans (a b c : α) : (cmp a b).isLE = true → (cmp b c).isLE = true → (cmp a c).isLE = true
  lt_trans (a b c : α) : cmp a b = .lt → cmp b c = .lt → cmp a c = .lt
  eq_iff (a b : α) : cmp a b = .eq ↔ same a b = true

/-- A transitive comparison is total up to the equality that it agrees with. -/
theorem TotalUpTo.of_transCmp {α : Type} {same : α → α → Bool} {cmp : α → α → Ordering}
    [TransCmp cmp] (h : ∀ a b, cmp a b = .eq ↔ same a b = true) : TotalUpTo same cmp where
  equivalence :=
    { refl := fun a => (h a a).mp ReflCmp.compare_self
      symm := fun {a b} hab => (h b a).mp (OrientedCmp.eq_symm ((h a b).mpr hab))
      trans := fun {a b c} hab hbc =>
        (h a c).mp (TransCmp.eq_trans ((h a b).mpr hab) ((h b c).mpr hbc)) }
  swap _ _ := OrientedCmp.eq_swap
  total a b := by
    have hswap : cmp b a = (cmp a b).swap := OrientedCmp.eq_swap
    rw [hswap]
    cases cmp a b <;> simp
  antisymm a b hab hba := (h a b).mp (OrientedCmp.isLE_antisymm hab hba)
  le_trans _ _ _ := TransCmp.isLE_trans
  lt_trans _ _ _ := TransCmp.lt_trans
  eq_iff := h

/-! ## Hashing -/

/-- The data of a locator, or of its absence, show where they end. -/
theorem Locator.hashDataOption_append_prefix {a b : Option Locator} {xs ys : List HashDatum}
    (h : Locator.hashDataOption a ++ xs <+: Locator.hashDataOption b ++ ys) :
    a = b ∧ xs <+: ys := by
  -- whether there is a locator is the first datum, and every locator feeds as many
  cases a with
  | none =>
    cases b with
    | none => simpa [Locator.hashDataOption] using h
    | some b => simp [Locator.hashDataOption] at h
  | some a =>
    cases b with
    | none => simp [Locator.hashDataOption] at h
    | some b =>
      cases a
      cases b
      simpa [Locator.hashDataOption, Locator.hashData, and_assoc] using h

theorem EntryFlags.eq_of_hashData_prefix {f g : EntryFlags} (h : f.hashData <+: g.hashData) :
    f = g := by
  have hflag : ∀ a b : Bool, a.toUInt8 = b.toUInt8 → a = b := by decide
  simp only [EntryFlags.hashData, List.cons_prefix_cons, HashDatum.byte.injEq] at h
  obtain ⟨hinvisible, hnumbered, -⟩ := h
  cases f
  cases g
  simp only [EntryFlags.mk.injEq]
  exact ⟨hflag _ _ hinvisible, hflag _ _ hnumbered⟩

/-- The data of an identity are not where those of another one begin. -/
theorem Identity.eq_of_hashData_prefix {i j : Identity} (h : i.hashData <+: j.hashData) :
    i = j := by
  simp only [Identity.hashData, List.cons_prefix_cons, HashDatum.position.injEq,
    HashDatum.bytes.injEq, true_and] at h
  obtain ⟨hrank, hbytes, hrest⟩ := h
  -- each part is settled by its data, and what is left belongs to the next one
  have hkind : i.kind = j.kind := EntryKind.rank_injective hrank
  have hpath : i.path = j.path := Identity.pathBytes_inj.mp hbytes
  obtain ⟨hlocator, hflags⟩ := Locator.hashDataOption_append_prefix hrest
  have hflags : i.flags = j.flags := EntryFlags.eq_of_hashData_prefix hflags
  cases i
  cases j
  simp_all

theorem Reference.hashData_eq_iff (r s : Reference) :
    r.hashData = s.hashData ↔ r.same s = true := by
  rw [Reference.same_iff]
  constructor
  · intro h
    apply Identity.eq_of_hashData_prefix
    exact ⟨[], (List.append_nil _).trans h⟩
  · intro h
    rw [Reference.hashData, Reference.hashData, h]

/-! ## Listings of one entry -/

namespace Reference

/-- The same entry as another listing shows it. -/
def listedAs (r : Reference) (name : String) (number : Option UInt32) : Reference :=
  { r with name := name, number := number }

/-- References of the same entry are those that another listing may show for each other. -/
theorem same_iff_exists_listedAs (r s : Reference) :
    r.same s = true ↔ ∃ name number, s = r.listedAs name number := by
  rw [same_iff]
  constructor
  · intro h
    refine ⟨s.name, s.number, ?_⟩
    rw [listedAs, h]
  · rintro ⟨name, number, rfl⟩
    rfl

/-- **A total order on identities.** To name the same entry is an equivalence, and the comparison is
a total order up to it. No two references are incomparable. One is below another if the key of its
identity is: kind, bytes of the path, locator and flags, the first difference decides. Equal
references feed the same data to a hash; of others, none feeds what the other begins with. Equal
references may differ in name and channel number and in nothing else, and putting other names and
numbers on either side changes none of the answers. -/
theorem total_order_on_identities :
    TotalUpTo Reference.same Reference.cmp
      ∧ (∀ r s : Reference, r.partialCmp s = some (r.cmp s))
      ∧ (∀ r s : Reference, r.cmp s = .lt ↔ r.identity.key < s.identity.key)
      ∧ (∀ r s : Reference, r.hashData = s.hashData ↔ r.same s = true)
      ∧ (∀ r s : Reference, r.hashData <+: s.hashData → r.same s = true)
      ∧ (∀ r s : Reference, r.same s = true ↔ ∃ name number, s = r.listedAs name number)
      ∧ ∀ (r s : Reference) (name name' : String) (number number' : Option UInt32),
          (r.listedAs name number).same (s.listedAs name' number') = r.same s
            ∧ (r.listedAs name number).cmp (s.listedAs name' number') = r.cmp s
            ∧ (r.listedAs name number).partialCmp (s.listedAs name' number') = r.partialCmp s
            ∧ (r.listedAs name number).hashData = r.hashData := by
  refine ⟨.of_transCmp cmp_eq_eq_iff, fun r s => rfl, fun r s => ?_, hashData_eq_iff,
    fun r s h => ?_, same_iff_exists_listedAs, fun r s name name' number number' => ?_⟩
  · exact Identity.cmp_eq_lt_iff r.identity s.identity
  · exact (same_iff r s).mpr (Identity.eq_of_hashData_prefix h)
  · exact ⟨rfl, rfl, rfl, rfl⟩

end Reference

end Bouquet
