import Mathlib.Data.List.Forall2
import Mathlib.Tactic.Common

namespace Algorandscout.Library

/-!
# Fallible computations

Inversion lemmas for computations that may fail, in the shape `do` blocks leave them: each step
of a computation that succeeds has succeeded.
-/

variable {ε α β : Type}

/-- What succeeded hands its result on. -/
@[simp] theorem ok_bind (a : α) (f : α → Except ε β) : (Except.ok a >>= f) = f a := rfl

/-- A sequence succeeds when its first step does and the rest does on what that gave. -/
theorem bind_eq_ok {x : Except ε α} {f : α → Except ε β} {b : β} :
    (x >>= f) = .ok b ↔ ∃ a, x = .ok a ∧ f a = .ok b := by
  cases x with
  | error e => simp [bind, Except.bind]
  | ok a => simp [bind, Except.bind]

/-- A sequence fails when its first step does, or the rest does on what that gave. -/
theorem bind_eq_error {x : Except ε α} {f : α → Except ε β} {e : ε} :
    (x >>= f) = .error e ↔ x = .error e ∨ ∃ a, x = .ok a ∧ f a = .error e := by
  cases x with
  | error e' => simp [bind, Except.bind]
  | ok a => simp [bind, Except.bind]

/-- A computation over a list succeeds when it does on every item. -/
theorem mapM_eq_ok_iff {f : α → Except ε β} {xs : List α} {ys : List β} :
    xs.mapM f = .ok ys ↔ List.Forall₂ (fun x y => f x = .ok y) xs ys := by
  induction xs generalizing ys with
  | nil =>
    rw [List.mapM_nil, List.forall₂_nil_left_iff]
    exact ⟨fun h => (Except.ok.inj h).symm, fun h => h ▸ rfl⟩
  | cons x xs ih =>
    rw [List.mapM_cons, bind_eq_ok, List.forall₂_cons_left_iff]
    constructor
    · rintro ⟨y, hy, hrest⟩
      obtain ⟨zs, hzs, heq⟩ := bind_eq_ok.mp hrest
      exact ⟨y, zs, hy, ih.mp hzs, (Except.ok.inj heq).symm⟩
    · rintro ⟨y, zs, hy, hzs, rfl⟩
      exact ⟨y, hy, bind_eq_ok.mpr ⟨zs, ih.mpr hzs, rfl⟩⟩

/-- Items that are each related to something are related to a list. -/
theorem exists_forall₂_iff {R : α → β → Prop} {xs : List α} :
    (∃ ys, List.Forall₂ R xs ys) ↔ ∀ x ∈ xs, ∃ y, R x y := by
  induction xs with
  | nil => exact iff_of_true ⟨[], .nil⟩ (by simp)
  | cons x xs ih =>
    rw [List.forall_mem_cons, ← ih]
    constructor
    · rintro ⟨_, hys⟩
      obtain ⟨y, ys, hxy, hrest, rfl⟩ := List.forall₂_cons_left_iff.mp hys
      exact ⟨⟨y, hxy⟩, ys, hrest⟩
    · rintro ⟨⟨y, hxy⟩, ys, hrest⟩
      exact ⟨y :: ys, .cons hxy hrest⟩

/-- What succeeds on every item succeeds on the list. -/
theorem exists_mapM_eq_ok {f : α → Except ε β} {xs : List α} (h : ∀ x ∈ xs, ∃ y, f x = .ok y) :
    ∃ ys, xs.mapM f = .ok ys := by
  obtain ⟨ys, hys⟩ := exists_forall₂_iff.mpr h
  exact ⟨ys, mapM_eq_ok_iff.mpr hys⟩

/-- A loop over edited items does what the loop over the items does, when each round does. -/
theorem mapM_mapIdx_congr {f : α → Except ε β} {g : γ → Except ε β} {edit : ℕ → α → γ}
    {xs : List α} (h : ∀ x ∈ xs, ∀ i, g (edit i x) = f x) :
    (xs.mapIdx edit).mapM g = xs.mapM f := by
  induction xs generalizing edit with
  | nil => rfl
  | cons x xs ih =>
    rw [List.mapIdx_cons, List.mapM_cons, List.mapM_cons, h x List.mem_cons_self 0,
      ih fun x hx i => h x (List.mem_cons_of_mem _ hx) (i + 1)]

/-- Pointwise related lists, each item unfolded to a list, stay pointwise related. -/
theorem forall₂_flatMap {γ δ : Type} {R : α → β → Prop} {S : γ → δ → Prop} {f : α → List γ}
    {g : β → List δ} {xs : List α} {ys : List β} (h : List.Forall₂ R xs ys)
    (hfg : ∀ x ∈ xs, ∀ y, R x y → List.Forall₂ S (f x) (g y)) :
    List.Forall₂ S (xs.flatMap f) (ys.flatMap g) := by
  induction h with
  | nil => exact .nil
  | cons hxy _ ih =>
    rw [List.flatMap_cons, List.flatMap_cons]
    apply List.rel_append
    · exact hfg _ List.mem_cons_self _ hxy
    · exact ih fun x hx => hfg x (List.mem_cons_of_mem _ hx)

/-- Pointwise related lists unfold to one list when related items do. -/
theorem flatMap_eq_of_forall₂ {γ : Type} {R : α → β → Prop} {f : α → List γ} {g : β → List γ}
    {xs : List α} {ys : List β} (h : List.Forall₂ R xs ys)
    (hfg : ∀ x ∈ xs, ∀ y, R x y → f x = g y) : xs.flatMap f = ys.flatMap g := by
  rw [← List.forall₂_eq_eq_eq]
  apply forall₂_flatMap h
  intro x hx y hxy
  rw [hfg x hx y hxy, List.forall₂_eq_eq_eq]

/-- A property of each item carries over to the items pointwise related to them. -/
theorem forall_iff_of_forall₂ {R : α → β → Prop} {P : α → Prop} {Q : β → Prop} {xs : List α}
    {ys : List β} (h : List.Forall₂ R xs ys) (hPQ : ∀ x ∈ xs, ∀ y, R x y → (P x ↔ Q y)) :
    (∀ x ∈ xs, P x) ↔ ∀ y ∈ ys, Q y := by
  induction h with
  | nil => simp
  | cons hxy _ ih =>
    rw [List.forall_mem_cons, List.forall_mem_cons]
    apply and_congr
    · exact hPQ _ List.mem_cons_self _ hxy
    · exact ih fun x hx => hPQ x (List.mem_cons_of_mem _ hx)

end Algorandscout.Library
