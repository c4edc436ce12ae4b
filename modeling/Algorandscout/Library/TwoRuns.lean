import Mathlib.Data.List.Basic
import Mathlib.Tactic.Common

namespace Algorandscout.Library

/-!
# Two runs of fallible computations

Two computations that may fail, compared by what they do: they fail alike, or both return and a
relation holds between what they return.

* `Agrees` — the comparison;
* `Agrees.bind` — it composes along `do` blocks;
* `Agrees.mapM_mapIdx` — and along loops, with a relation for each position.
-/

variable {ε α β γ δ : Type}

/-- Both computations fail alike, or both return and what they return is related. -/
def Agrees (R : α → β → Prop) : Except ε α → Except ε β → Prop
  | .ok a, .ok b => R a b
  | .error e, .error e' => e = e'
  | _, _ => False

namespace Agrees

variable {R : α → β → Prop} {S : γ → δ → Prop}

theorem refl {R : α → α → Prop} (h : ∀ a, R a a) (x : Except ε α) : Agrees R x x := by
  cases x with
  | error e => rfl
  | ok a => exact h a

theorem mono {R' : α → β → Prop} {x : Except ε α} {y : Except ε β} (h : Agrees R x y)
    (hR : ∀ a b, x = .ok a → y = .ok b → R a b → R' a b) : Agrees R' x y := by
  cases x with
  | error e => cases y with
    | error e' => exact h
    | ok b => exact h
  | ok a => cases y with
    | error e' => exact h
    | ok b => exact hR a b rfl rfl h

/-- **Computations that agree, continued by computations that agree, agree.** -/
theorem bind {x : Except ε α} {y : Except ε β} {f : α → Except ε γ} {g : β → Except ε δ}
    (h : Agrees R x y) (hfg : ∀ a b, x = .ok a → y = .ok b → R a b → Agrees S (f a) (g b)) :
    Agrees S (x >>= f) (y >>= g) := by
  cases x with
  | error e => cases y with
    | error e' => exact h
    | ok b => exact h.elim
  | ok a => cases y with
    | error e' => exact h.elim
    | ok b => exact hfg a b rfl rfl h

/-- The same computation, continued in two ways. -/
theorem bind_same (x : Except ε α) {f : α → Except ε γ} {g : α → Except ε δ}
    (hfg : ∀ a, x = .ok a → Agrees S (f a) (g a)) : Agrees S (x >>= f) (x >>= g) := by
  apply bind (refl (fun _ => rfl) x : Agrees (· = ·) x x)
  intro a b ha _ hab
  rw [← hab]
  exact hfg a ha

end Agrees

/-- Lists of one length, related position by position to the items of a third. -/
def RelatedTo (R : ℕ → α → β → γ → Prop) (items : List α) (ys : List β) (zs : List γ) : Prop :=
  ys.length = items.length ∧ zs.length = items.length ∧
    ∀ i x y z, items[i]? = some x → ys[i]? = some y → zs[i]? = some z → R i x y z

/-- **A loop over two edited copies of a list** agrees when each round does. -/
theorem Agrees.mapM_mapIdx {R : ℕ → α → γ → δ → Prop} {f : β → Except ε γ} {g : β → Except ε δ}
    {left right : ℕ → α → β} {items : List α}
    (h : ∀ i x, items[i]? = some x → Agrees (R i x) (f (left i x)) (g (right i x))) :
    Agrees (RelatedTo R items) ((items.mapIdx left).mapM f) ((items.mapIdx right).mapM g) := by
  induction items generalizing R left right with
  | nil => exact ⟨rfl, rfl, fun i x y z hx => by cases hx⟩
  | cons item items ih =>
    rw [List.mapIdx_cons, List.mapIdx_cons, List.mapM_cons, List.mapM_cons]
    apply Agrees.bind (h 0 item rfl)
    intro y z _ _ hhead
    have hrest := ih (R := fun i => R (i + 1)) fun i x hx => h (i + 1) x hx
    apply Agrees.bind hrest
    rintro ys zs - - ⟨hys, hzs, htail⟩
    refine ⟨congrArg (· + 1) hys, congrArg (· + 1) hzs, ?_⟩
    intro i x y' z' hx hy hz
    cases i with
    | zero =>
      obtain rfl := Option.some.inj hx
      obtain rfl := Option.some.inj hy
      obtain rfl := Option.some.inj hz
      exact hhead
    | succ i => exact htail i x y' z' hx hy hz

/-- Copies of a list, mapped to the same when each round decides it by `P`. -/
theorem RelatedTo.map_eq_map_iff {P : ℕ → α → Prop} {f : β → δ} {g : γ → δ} {items : List α}
    {ys : List β} {zs : List γ} (h : RelatedTo (fun i x y z => f y = g z ↔ P i x) items ys zs) :
    ys.map f = zs.map g ↔ ∀ i x, items[i]? = some x → P i x := by
  obtain ⟨hys, hzs, hrel⟩ := h
  constructor
  · intro heq i x hx
    have hi : i < items.length := (List.getElem?_eq_some_iff.mp hx).1
    have hy : ys[i]? = some ys[i] := List.getElem?_eq_getElem (hys ▸ hi)
    have hz : zs[i]? = some zs[i] := List.getElem?_eq_getElem (hzs ▸ hi)
    have hat := congrArg (fun l => l[i]?) heq
    simp only [List.getElem?_map, hy, hz, Option.map_some, Option.some.injEq] at hat
    exact (hrel i x _ _ hx hy hz).mp hat
  · intro hP
    apply List.ext_getElem
    · rw [List.length_map, List.length_map, hys, hzs]
    · intro i hi hi'
      rw [List.length_map] at hi hi'
      rw [List.getElem_map, List.getElem_map]
      have hx : items[i]? = some items[i] := List.getElem?_eq_getElem (hys ▸ hi)
      exact (hrel i _ _ _ hx (List.getElem?_eq_getElem hi) (List.getElem?_eq_getElem hi')).mpr
        (hP i _ hx)

end Algorandscout.Library
