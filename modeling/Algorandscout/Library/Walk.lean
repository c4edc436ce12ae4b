import Mathlib.Data.List.Basic
import Mathlib.Tactic.Common

namespace Algorandscout.Library

/-!
# Walks in a tree of directories

A walk is a list of moves: stay, one level up, or down into a named child.  Two readings of
where it ends are compared:

* `resolve` — the machine reading: a stack of names, pushed by `down` and popped by `up`
  (popping the empty stack does nothing, the root has no parent);
* `survivors` — the declarative reading: a `down` counts when no later stretch of the walk
  starting right after it climbs above it (`climb`, `climb_le_iff`).

`resolve_eq` says they agree for every walk and every starting stack, so a property of the
resolved place can be read off the moves themselves.
-/

/-- One move of a walk over names of type `α`. -/
inductive Move (α : Type) where
  | stay
  | up
  | down (name : α)

namespace Move

variable {α : Type}

/-- Run the walk on a stack of names, innermost first. -/
def resolve (stack : List α) : List (Move α) → List α
  | [] => stack
  | .stay :: ms => resolve stack ms
  | .up :: ms => resolve stack.tail ms
  | .down a :: ms => resolve (a :: stack) ms

theorem resolve_append (stack : List α) (ms ns : List (Move α)) :
    resolve stack (ms ++ ns) = resolve (resolve stack ms) ns := by
  induction ms generalizing stack with
  | nil => rfl
  | cons m ms ih =>
    cases m with
    | stay => exact ih stack
    | up => exact ih stack.tail
    | down a => exact ih (a :: stack)

/-- How many levels above its start the walk gets at most. -/
def climb : List (Move α) → ℕ
  | [] => 0
  | .stay :: ms => climb ms
  | .up :: ms => climb ms + 1
  | .down _ :: ms => climb ms - 1

/-- The names the walk enters and never climbs back above, outermost first. -/
def survivors : List (Move α) → List α
  | [] => []
  | .stay :: ms => survivors ms
  | .up :: ms => survivors ms
  -- The name stays when the rest of the walk does not climb above it.
  | .down a :: ms => if climb ms = 0 then a :: survivors ms else survivors ms

/-- The number of upward moves of a walk. -/
def ups : List (Move α) → ℕ
  | [] => 0
  | .up :: ms => ups ms + 1
  | .stay :: ms => ups ms
  | .down _ :: ms => ups ms

/-- The number of downward moves of a walk. -/
def downs : List (Move α) → ℕ
  | [] => 0
  | .down _ :: ms => downs ms + 1
  | .stay :: ms => downs ms
  | .up :: ms => downs ms

/-- **Declarative reading of `climb`.** The walk climbs at most `k` levels iff no initial
    stretch of it has more than `k` upward moves in excess of its downward ones. -/
theorem climb_le_iff (ms : List (Move α)) (k : ℕ) :
    climb ms ≤ k ↔ ∀ pre, pre <+: ms → ups pre ≤ downs pre + k := by
  induction ms generalizing k with
  | nil => simp [climb, ups, List.prefix_nil]
  | cons m ms ih =>
    simp only [List.prefix_cons_iff]
    cases m with
    | stay =>
      rw [climb, ih]
      constructor
      · rintro h pre (rfl | ⟨t, rfl, ht⟩)
        · simp [ups]
        · simpa [ups, downs] using h t ht
      · intro h t ht
        simpa [ups, downs] using h _ (.inr ⟨t, rfl, ht⟩)
    | down a =>
      rw [climb, Nat.sub_le_iff_le_add, ih]
      constructor
      · rintro h pre (rfl | ⟨t, rfl, ht⟩)
        · simp [ups]
        · have := h t ht
          simp only [ups, downs]; omega
      · intro h t ht
        have := h _ (.inr ⟨t, rfl, ht⟩)
        simp only [ups, downs] at this; omega
    | up =>
      rw [climb]
      constructor
      · rintro h pre (rfl | ⟨t, rfl, ht⟩)
        · simp [ups]
        · have := (ih (k - 1)).mp (by omega) t ht
          simp only [ups, downs]; omega
      · intro h
        -- The one-move stretch `[up]` already needs `k ≥ 1`.
        have h1 := h [.up] (.inr ⟨[], rfl, List.nil_prefix⟩)
        simp only [ups, downs] at h1
        have h2 : climb ms ≤ k - 1 := by
          refine (ih (k - 1)).mpr fun t ht => ?_
          have := h _ (.inr ⟨t, rfl, ht⟩)
          simp only [ups, downs] at this; omega
        omega

/-- **The stack machine computes the survivors.** A walk pops `climb` names off the starting
    stack and leaves its own survivors on top of the rest. -/
theorem resolve_eq (ms : List (Move α)) (stack : List α) :
    resolve stack ms = (survivors ms).reverse ++ stack.drop (climb ms) := by
  induction ms generalizing stack with
  | nil => simp [resolve, survivors, climb]
  | cons m ms ih =>
    cases m with
    | stay => rw [resolve, ih, survivors, climb]
    | up => rw [resolve, ih, survivors, climb, List.drop_tail]
    | down a =>
      rw [resolve, ih, survivors, climb]
      cases h : climb ms with
      | zero => simp
      | succ k => simp

end Move

end Algorandscout.Library
