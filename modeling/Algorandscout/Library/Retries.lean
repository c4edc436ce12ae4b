import Mathlib.Tactic.Common

namespace Algorandscout.Library

/-!
# Bounded retries

Attempts are made one after another, counted from 0, until one is not to be retried or the limit
is reached; between two of them there is a delay.

* `Tries` — the attempts from one on: the delays between them, and the last attempt;
* `Reached` — the attempts that are made, said of the attempts before them alone;
* `Tries.reached_iff` — these are the ones up to the last;
* `Tries.eq_of_first`, `Tries.eq_of_all` — which one is the last.
-/

variable {Delay : Type} (limit : ℕ) (Retried : ℕ → Prop) (Pause : ℕ → Delay → Prop)

/-- `Tries k delays n`: from attempt `k` on, the delays between the attempts are `delays`, and
    attempt `n` is the last. -/
inductive Tries : ℕ → List Delay → ℕ → Prop
  | last {k : ℕ} (hk : k < limit) (hend : k + 1 = limit ∨ ¬ Retried k) : Tries k [] k
  | again {k n : ℕ} {delay : Delay} {delays : List Delay} (hk : k + 1 < limit)
    (hretried : Retried k) (hdelay : Pause k delay) (rest : Tries (k + 1) delays n) :
    Tries k (delay :: delays) n

/-- Attempt `k` is made: there is room for it, and every attempt before it is retried. -/
def Reached (k : ℕ) : Prop := k < limit ∧ ∀ j < k, Retried j

variable {limit Retried Pause} {k n : ℕ} {delays : List Delay}

theorem Tries.length_eq (h : Tries limit Retried Pause k delays n) : k + delays.length = n := by
  induction h with
  | last _ _ => rfl
  | again _ _ _ _ ih =>
    rw [List.length_cons]
    omega

theorem Tries.lt_limit (h : Tries limit Retried Pause k delays n) : n < limit := by
  induction h with
  | last hk _ => exact hk
  | again _ _ _ _ ih => exact ih

/-- Every attempt before the last is retried. -/
theorem Tries.retried (h : Tries limit Retried Pause k delays n) :
    ∀ j, k ≤ j → j < n → Retried j := by
  induction h with
  | last _ _ =>
    intro j hkj hjk
    omega
  | @again k _ _ _ _ hretried _ _ ih =>
    intro j hkj hjn
    rcases Nat.eq_or_lt_of_le hkj with rfl | hlt
    · exact hretried
    · exact ih j hlt hjn

/-- The last attempt has used up the limit, or is not to be retried. -/
theorem Tries.ended (h : Tries limit Retried Pause k delays n) : n + 1 = limit ∨ ¬ Retried n := by
  induction h with
  | last _ hend => exact hend
  | again _ _ _ _ ih => exact ih

/-- The delay after each attempt. -/
theorem Tries.pause (h : Tries limit Retried Pause k delays n) {i : ℕ} {delay : Delay}
    (hi : delays[i]? = some delay) : Pause (k + i) delay := by
  induction h generalizing i with
  | last _ _ => simp at hi
  | @again k _ _ _ _ _ hdelay _ ih =>
    cases i with
    | zero =>
      rw [List.getElem?_cons_zero] at hi
      exact Option.some.inj hi ▸ hdelay
    | succ i =>
      rw [List.getElem?_cons_succ] at hi
      rw [Nat.add_succ, ← Nat.succ_add]
      exact ih hi

/-- **The attempts made** are the ones up to the last. -/
theorem Tries.reached_iff (h : Tries limit Retried Pause 0 delays n) {j : ℕ} :
    Reached limit Retried j ↔ j ≤ n := by
  constructor
  · rintro ⟨hj, hbefore⟩
    by_contra hlt
    rcases h.ended with hlimit | hend
    · omega
    · exact hend (hbefore n (by omega))
  · intro hjn
    refine ⟨Nat.lt_of_le_of_lt hjn h.lt_limit, ?_⟩
    intro i hij
    exact h.retried i (Nat.zero_le i) (by omega)

/-- A first attempt that is not to be retried is the last one. -/
theorem Tries.eq_of_first (h : Tries limit Retried Pause 0 delays n) {m : ℕ} (hm : m < limit)
    (hfirst : ∀ j < m, Retried j) (hend : ¬ Retried m) : n = m := by
  have hmn : m ≤ n := h.reached_iff.mp ⟨hm, hfirst⟩
  by_contra hne
  exact hend (h.retried m (Nat.zero_le m) (by omega))

/-- When every attempt is to be retried, the last one uses up the limit. -/
theorem Tries.eq_of_all (h : Tries limit Retried Pause 0 delays n)
    (hall : ∀ j < limit, Retried j) : n + 1 = limit := by
  rcases h.ended with hlimit | hend
  · exact hlimit
  · exact absurd (hall n h.lt_limit) hend

/-- There is a delay after each attempt but the last. -/
theorem Tries.exists_pause (h : Tries limit Retried Pause 0 delays n) {j : ℕ}
    (hj : Reached limit Retried (j + 1)) : ∃ delay ∈ delays, Pause j delay := by
  have hlt : j < delays.length := by
    have := h.length_eq
    have := h.reached_iff.mp hj
    omega
  refine ⟨delays[j], List.getElem_mem hlt, ?_⟩
  have hp := h.pause (List.getElem?_eq_getElem hlt)
  rwa [Nat.zero_add] at hp

/-- A delay is the one after some attempt but the last. -/
theorem Tries.pause_of_mem (h : Tries limit Retried Pause 0 delays n) {delay : Delay}
    (hmem : delay ∈ delays) : ∃ j, Reached limit Retried (j + 1) ∧ Pause j delay := by
  obtain ⟨j, hj⟩ := List.mem_iff_getElem?.mp hmem
  refine ⟨j, ?_, ?_⟩
  · rw [h.reached_iff]
    have hlt := (List.getElem?_eq_some_iff.mp hj).choose
    have := h.length_eq
    omega
  · have hp := h.pause hj
    rwa [Nat.zero_add] at hp

end Algorandscout.Library
