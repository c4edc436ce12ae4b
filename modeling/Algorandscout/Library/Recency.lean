import Mathlib.Data.Finset.Dedup
import Mathlib.Data.Finset.Card
import Mathlib.Data.List.Nodup
import Mathlib.Data.List.TakeWhile
import Mathlib.Tactic.Common

namespace Algorandscout.Library

/-!
# Recency

A log of touches, latest first, orders what it touches by last touch.  A least-recently-used
table keeps its keys in this order:

* `touchedSince` — the distinct other things touched since `p` was last touched;
* `ByRecency` — every key was touched since each key behind it was;
* `ByRecency.touch` — bringing the key that is touched to the front keeps the order;
* `ByRecency.mem_take` — cut down to `n` keys, the table still has every `p` since whose last
  touch fewer than `n` others were touched.
-/

variable {α : Type} [DecidableEq α]

/-- The distinct members other than `p` of the log since the last touch of `p`. -/
def touchedSince (p : α) (log : List α) : Finset α := (log.takeWhile (· ≠ p)).toFinset

theorem touchedSince_cons {p a : α} (h : a ≠ p) (log : List α) :
    touchedSince p (a :: log) = insert a (touchedSince p log) := by
  simp [touchedSince, h]

theorem ne_of_mem_touchedSince {p q : α} {log : List α} (h : q ∈ touchedSince p log) : q ≠ p := by
  have := List.mem_takeWhile_imp (List.mem_toFinset.mp h)
  simpa using this

/-- A longer log has touched at least as much, unless it touches `p` again. -/
theorem card_touchedSince_le {p a : α} (h : a ≠ p) (log : List α) :
    (touchedSince p log).card ≤ (touchedSince p (a :: log)).card := by
  rw [touchedSince_cons h]
  exact Finset.card_le_card (Finset.subset_insert _ _)

/-- The keys are in the order of their last touch, latest first. -/
def ByRecency (log keys : List α) : Prop := keys.Pairwise fun q p => q ∈ touchedSince p log

namespace ByRecency

variable {log keys : List α}

theorem nil (log : List α) : ByRecency log [] := List.Pairwise.nil

theorem nodup (h : ByRecency log keys) : keys.Nodup :=
  h.imp fun hqp => ne_of_mem_touchedSince hqp

theorem sublist {keys' : List α} (h : ByRecency log keys) (hsub : keys'.Sublist keys) :
    ByRecency log keys' :=
  List.Pairwise.sublist hsub h

theorem erase (h : ByRecency log keys) (a : α) : ByRecency log (keys.erase a) :=
  h.sublist List.erase_sublist

/-- **Touching.** The touched key goes to the front, the others stay in their order. -/
theorem touch (h : ByRecency log keys) (a : α) : ByRecency (a :: log) (a :: keys.erase a) := by
  have hne : ∀ p ∈ keys.erase a, a ≠ p := by
    rintro p hp rfl
    exact (h.nodup.mem_erase_iff.mp hp).1 rfl
  apply List.pairwise_cons.mpr
  -- The touched key stands before all others, and has just been touched.
  refine ⟨fun p hp => ?_, ?_⟩
  · rw [touchedSince_cons (hne p hp)]
    exact Finset.mem_insert_self a _
  · apply List.Pairwise.imp_of_mem ?_ (h.erase a)
    intro q p _ hp hqp
    rw [touchedSince_cons (hne p hp)]
    exact Finset.mem_insert_of_mem hqp

/-- What stands before `p` was touched since `p`, so there is no more of it than that. -/
theorem length_le_card {p : α} {before after : List α}
    (h : ByRecency log (before ++ p :: after)) : before.length ≤ (touchedSince p log).card := by
  have hnodup : before.Nodup := h.nodup.of_append_left
  rw [← List.toFinset_card_of_nodup hnodup]
  apply Finset.card_le_card
  intro q hq
  exact (List.pairwise_append.mp h).2.2 q (List.mem_toFinset.mp hq) p List.mem_cons_self

/-- **Survival.** Cutting the keys down to the first `n` keeps every `p` since whose last touch
    fewer than `n` other things were touched. -/
theorem mem_take {p : α} {n : ℕ} (h : ByRecency log keys) (hp : p ∈ keys)
    (hn : (touchedSince p log).card < n) : p ∈ keys.take n := by
  obtain ⟨before, after, rfl⟩ := List.append_of_mem hp
  have hle := h.length_le_card
  -- All that stands before `p` was touched since, which is fewer than `n` keys.
  rw [List.take_append, List.mem_append]
  right
  obtain ⟨k, hk⟩ : ∃ k, n - before.length = k + 1 := ⟨n - before.length - 1, by omega⟩
  rw [hk, List.take_succ_cons]
  exact List.mem_cons_self

end ByRecency

end Algorandscout.Library
