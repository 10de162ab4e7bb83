import Mathlib.Data.List.Basic

/-!
# Outcomes

When something that may fail succeeds, and with which value: a function applied to a result, one
step after another, and a traversal of a list.

## Main statements

- `isOk_mapM`, `mapM_eq_ok`: a traversal succeeds when every member does
- `mapM_map`: a function applied to every result of a traversal
-/

namespace Bouquet

variable {ε α β γ : Type}

@[simp]
theorem isOk_ok (a : α) : (Except.ok a : Except ε α).isOk = true := rfl

@[simp]
theorem isOk_error (fault : ε) : (Except.error fault : Except ε α).isOk = false := rfl

@[simp]
theorem isOk_map (f : α → β) (e : Except ε α) : (e.map f).isOk = e.isOk := by
  cases e <;> rfl

theorem isOk_mapM (f : α → Except ε β) (xs : List α) :
    (xs.mapM f).isOk = true ↔ ∀ x ∈ xs, (f x).isOk = true := by
  induction xs with
  | nil => simp [pure, Except.pure]
  | cons x xs ih =>
    rw [List.mapM_cons, List.forall_mem_cons, ← ih]
    cases f x with
    | error fault => simp [bind, Except.bind]
    | ok y => cases xs.mapM f <;> simp [bind, Except.bind, pure, Except.pure]

theorem map_eq_ok {f : α → β} {e : Except ε α} {b : β} :
    e.map f = .ok b ↔ ∃ a, e = .ok a ∧ b = f a := by
  cases e <;> simp [Except.map, eq_comm]

theorem bind_eq_ok {f : α → Except ε β} {e : Except ε α} {b : β} :
    e >>= f = .ok b ↔ ∃ a, e = .ok a ∧ f a = .ok b := by
  cases e <;> simp [bind, Except.bind]

/-- A traversal succeeds when every member does, with the values of the members. -/
theorem mapM_eq_ok [Inhabited β] {f : α → Except ε β} {xs : List α} {ys : List β} :
    xs.mapM f = .ok ys ↔ ∃ g : α → β, (∀ x ∈ xs, f x = .ok (g x)) ∧ ys = xs.map g := by
  constructor
  · intro h
    -- the default stands for values that no member has
    refine ⟨fun x => (f x).toOption.getD default, ?_⟩
    induction xs generalizing ys with
    | nil =>
      obtain rfl : [] = ys := by simpa [pure, Except.pure] using h
      simp
    | cons x xs ih =>
      rw [List.mapM_cons, bind_eq_ok] at h
      obtain ⟨y, hy, h⟩ := h
      obtain ⟨later, hlater, h⟩ := bind_eq_ok.mp h
      obtain rfl : y :: later = ys := by simpa [pure, Except.pure] using h
      obtain ⟨hmembers, hvalues⟩ := ih hlater
      refine ⟨List.forall_mem_cons.mpr ⟨by simp [hy, Except.toOption], hmembers⟩, ?_⟩
      rw [List.map_cons, ← hvalues, hy]
      rfl
  · rintro ⟨g, hmembers, rfl⟩
    induction xs with
    | nil => rfl
    | cons x xs ih =>
      obtain ⟨hx, hxs⟩ := List.forall_mem_cons.mp hmembers
      rw [List.mapM_cons, hx, ih hxs]
      rfl

/-- A function applied to every result of a traversal. -/
theorem mapM_map (f : α → Except ε β) (g : β → γ) (xs : List α) :
    (xs.mapM fun x => (f x).map g) = (xs.mapM f).map (List.map g) := by
  induction xs with
  | nil => rfl
  | cons x xs ih =>
    rw [List.mapM_cons, List.mapM_cons, ih]
    cases f x with
    | error fault => rfl
    | ok y => cases xs.mapM f <;> rfl

end Bouquet
