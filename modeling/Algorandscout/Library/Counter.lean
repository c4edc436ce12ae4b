import Mathlib.Algebra.GroupWithZero.Nat
import Mathlib.Data.List.Basic
import Mathlib.Tactic.Common

namespace Algorandscout.Library

/-!
# Counters

A map from keys to counts, in which a key that was never counted has the count 0.

* `Counter.bump` — count one more;
* `count_bump` — one count goes up by one, the others stay;
* `total_bump`, `totalOn_bump` — so does the total, also over some of the keys;
* `tally`, `mem_tally_iff` — the counter of a list of keys: which entries it has.
-/

/-- The keys counted so far, in the order of their first count. -/
abbrev Counter (K : Type) := List (K × ℕ)

namespace Counter

variable {K : Type} [DecidableEq K]

/-- The count of a key. -/
def count (c : Counter K) (k : K) : ℕ := (c.lookup k).getD 0

/-- `c[k] += 1`. -/
def bump : Counter K → K → Counter K
  | [], k => [(k, 1)]
  | (k', n) :: c, k => if k = k' then (k', n + 1) :: c else (k', n) :: bump c k

/-- All counts together. -/
def total (c : Counter K) : ℕ := (c.map (·.2)).sum

theorem count_cons (k' : K) (n : ℕ) (c : Counter K) (k : K) :
    count ((k', n) :: c) k = if k = k' then n else count c k := by
  unfold count
  by_cases h : k = k'
  · simp [h]
  · have hb : (k == k') = false := by simpa using h
    simp [List.lookup_cons, hb, h]

/-- **One more of one key.** -/
theorem count_bump (c : Counter K) (k key : K) :
    (c.bump k).count key = if key = k then c.count k + 1 else c.count key := by
  induction c with
  | nil =>
    rw [bump, count_cons]
    split_ifs <;> rfl
  | cons entry c ih =>
    obtain ⟨k', n⟩ := entry
    rw [bump]
    by_cases hk : k = k'
    · subst hk
      rw [if_pos rfl, count_cons, count_cons, count_cons, if_pos rfl]
      split_ifs <;> rfl
    · rw [if_neg hk, count_cons, ih, count_cons, count_cons, if_neg hk]
      by_cases hkey : key = k'
      · have hne : key ≠ k := by
          rintro rfl
          exact hk hkey
        rw [if_pos hkey, if_neg hne, if_pos hkey]
      · rw [if_neg hkey, if_neg hkey]

theorem total_bump (c : Counter K) (k : K) : (c.bump k).total = c.total + 1 := by
  induction c with
  | nil => rfl
  | cons entry c ih =>
    obtain ⟨k', n⟩ := entry
    unfold total at ih ⊢
    rw [bump]
    split_ifs
    · simp only [List.map_cons, List.sum_cons]
      omega
    · simp only [List.map_cons, List.sum_cons, ih]
      omega

/-- The keys counted. -/
theorem mem_keys_bump {c : Counter K} {k key : K} :
    key ∈ (c.bump k).map (·.1) ↔ key = k ∨ key ∈ c.map (·.1) := by
  induction c with
  | nil => simp [bump]
  | cons entry c ih =>
    obtain ⟨k', n⟩ := entry
    rw [bump]
    split_ifs with hk
    · subst hk
      simp
    · simp only [List.map_cons, List.mem_cons, ih]
      tauto

/-- No key is counted twice. -/
theorem nodup_keys_bump {c : Counter K} (h : (c.map (·.1)).Nodup) (k : K) :
    ((c.bump k).map (·.1)).Nodup := by
  induction c with
  | nil => exact List.nodup_cons.mpr ⟨List.not_mem_nil, List.nodup_nil⟩
  | cons entry c ih =>
    obtain ⟨k', n⟩ := entry
    obtain ⟨hnot, hrest⟩ := List.nodup_cons.mp h
    rw [bump]
    split_ifs with hk
    · exact h
    · refine List.nodup_cons.mpr ⟨?_, ih hrest⟩
      intro hmem
      rcases mem_keys_bump.mp hmem with heq | hmem
      · exact hk heq.symm
      · exact hnot hmem

/-- The counts of the keys that satisfy `p` together. -/
def totalOn (p : K → Bool) (c : Counter K) : ℕ := ((c.filter fun entry => p entry.1).map (·.2)).sum

omit [DecidableEq K] in
theorem totalOn_cons (p : K → Bool) (k : K) (n : ℕ) (c : Counter K) :
    totalOn p ((k, n) :: c) = (if p k then n else 0) + totalOn p c := by
  unfold totalOn
  rw [List.filter_cons]
  split_ifs
  · rw [List.map_cons, List.sum_cons]
  · rw [Nat.zero_add]

theorem totalOn_bump (p : K → Bool) (c : Counter K) (k : K) :
    totalOn p (c.bump k) = totalOn p c + if p k then 1 else 0 := by
  induction c with
  | nil =>
    rw [bump, totalOn_cons]
    exact Nat.add_comm _ _
  | cons entry c ih =>
    obtain ⟨k', n⟩ := entry
    rw [bump]
    split_ifs with hk hp hp
    · subst hk
      rw [totalOn_cons, totalOn_cons, if_pos hp, if_pos hp]
      omega
    · subst hk
      rw [totalOn_cons, totalOn_cons, if_neg hp, if_neg hp]
      omega
    · rw [totalOn_cons, totalOn_cons, ih, if_pos hp]
      omega
    · rw [totalOn_cons, totalOn_cons, ih, if_neg hp]
      omega

/-- Two keys counted alike are one key. -/
theorem bump_eq_iff (c : Counter K) {k k' : K} :
    (∀ key, (c.bump k).count key = (c.bump k').count key) ↔ k = k' := by
  constructor
  · intro h
    by_contra hne
    have hk := h k
    rw [count_bump, count_bump, if_pos rfl, if_neg hne] at hk
    omega
  · rintro rfl key
    rfl

/-! ### Counting a list -/

/-- The counter after the keys of a list, the last of them counted first. -/
def tally (keys : List K) : Counter K := keys.foldr (fun k c => c.bump k) []

@[simp] theorem tally_cons (k : K) (keys : List K) : tally (k :: keys) = (tally keys).bump k := rfl

theorem nodup_keys_tally (keys : List K) : ((tally keys).map (·.1)).Nodup := by
  induction keys with
  | nil => exact List.nodup_nil
  | cons k keys ih => exact nodup_keys_bump ih k

theorem count_tally (keys : List K) (key : K) :
    (tally keys).count key = keys.countP fun k => k = key := by
  induction keys with
  | nil => rfl
  | cons k keys ih =>
    rw [tally_cons, count_bump, List.countP_cons]
    by_cases hkey : key = k
    · subst hkey
      rw [if_pos rfl, ih, if_pos (decide_eq_true rfl)]
    · rw [if_neg hkey, ih, if_neg (by simpa using Ne.symm hkey)]
      rfl

/-- The entries after one more count. -/
theorem mem_bump_iff {c : Counter K} (hnodup : (c.map (·.1)).Nodup) {k key : K} {n : ℕ} :
    (key, n) ∈ c.bump k ↔ if key = k then n = c.count k + 1 else (key, n) ∈ c := by
  induction c with
  | nil =>
    rw [bump, List.mem_singleton, Prod.mk.injEq]
    split_ifs with hkey
    · exact and_iff_right hkey
    · exact iff_of_false (fun h => hkey h.1) List.not_mem_nil
  | cons entry c ih =>
    obtain ⟨k', m⟩ := entry
    obtain ⟨hnot, hrest⟩ := List.nodup_cons.mp hnodup
    rw [bump, count_cons]
    by_cases hk : k = k'
    · subst hk
      rw [if_pos rfl, if_pos rfl, List.mem_cons, Prod.mk.injEq, List.mem_cons, Prod.mk.injEq]
      by_cases hkey : key = k
      · subst hkey
        -- No other entry has this key.
        have hnone : (key, n) ∉ c := fun h => hnot (List.mem_map_of_mem (f := (·.1)) h)
        rw [if_pos rfl, or_iff_left hnone]
        exact and_iff_right rfl
      · rw [if_neg hkey]
        simp only [hkey, false_and, false_or]
    · rw [if_neg hk, if_neg hk, List.mem_cons, ih hrest, Prod.mk.injEq]
      by_cases hkey : key = k
      · rw [if_pos hkey, if_pos hkey]
        exact or_iff_right fun h => hk (hkey.symm.trans h.1)
      · rw [if_neg hkey, if_neg hkey, List.mem_cons, Prod.mk.injEq]

/-- **The entries of a tally** are the keys of the list, each with how often it is there. -/
theorem mem_tally_iff {keys : List K} {key : K} {n : ℕ} :
    (key, n) ∈ tally keys ↔ 0 < n ∧ n = keys.countP fun k => k = key := by
  induction keys with
  | nil =>
    refine iff_of_false List.not_mem_nil ?_
    rintro ⟨hpos, rfl⟩
    exact Nat.lt_irrefl 0 hpos
  | cons k keys ih =>
    rw [tally_cons, mem_bump_iff (nodup_keys_tally keys), ih, count_tally, List.countP_cons]
    by_cases hkey : key = k
    · subst hkey
      rw [if_pos rfl, if_pos (decide_eq_true rfl)]
      exact ⟨fun h => ⟨by omega, h⟩, fun h => h.2⟩
    · rw [if_neg hkey, if_neg (by simpa using Ne.symm hkey)]
      rfl

end Counter

end Algorandscout.Library
