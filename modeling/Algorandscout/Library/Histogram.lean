import Mathlib

namespace Algorandscout.Library.Histogram

/-!
# Histograms

A histogram over a list of edges has a slot for each edge and one for what exceeds all of them.
An observation counts in the slot of the first edge that it does not exceed.

* `slot`, `observe`, `tally` — the slots after a list of observations;
* `cumulate` — the running sums of the slots;
* `cumulate_tally` — the running sum up to an edge counts the observations up to that edge.
-/

variable {α : Type} [LinearOrder α]

/-- The slot of an observation: the first edge that it does not exceed, or the one after the
    last edge. -/
def slot (edges : List α) (x : α) : ℕ := edges.findIdx fun e => x ≤ e

/-- Count one observation. -/
def observe (edges : List α) (slots : List ℕ) (x : α) : List ℕ :=
  slots.modify (slot edges x) (· + 1)

/-- The slots after the observations, latest first. -/
def tally (edges : List α) : List α → List ℕ
  | [] => List.replicate (edges.length + 1) 0
  | x :: xs => observe edges (tally edges xs) x

/-- The running sums of a list, on top of `total`. -/
def cumulate (total : ℕ) : List ℕ → List ℕ
  | [] => []
  | n :: ns => (total + n) :: cumulate (total + n) ns

theorem length_tally (edges xs : List α) : (tally edges xs).length = edges.length + 1 := by
  induction xs with
  | nil => exact List.length_replicate
  | cons x xs ih =>
    show ((tally edges xs).modify _ _).length = _
    rw [List.length_modify, ih]

/-- In sorted edges an observation is placed at an edge or before it when it does not exceed it. -/
theorem slot_le_iff {edges : List α} (hsorted : edges.Pairwise (· ≤ ·)) (x : α) {i : ℕ}
    (hi : i < edges.length) : slot edges x ≤ i ↔ x ≤ edges[i] := by
  unfold slot
  constructor
  · intro hle
    have hlt : edges.findIdx (fun e => x ≤ e) < edges.length := by omega
    have hat : x ≤ edges[edges.findIdx fun e => x ≤ e] := by
      simpa using List.findIdx_getElem (w := hlt)
    rcases Nat.eq_or_lt_of_le hle with heq | hbefore
    · simpa only [heq] using hat
    · exact le_trans hat (List.pairwise_iff_getElem.mp hsorted _ _ hlt hi hbefore)
  · intro hx
    by_contra hlt
    have hnot := List.not_of_lt_findIdx (by omega : i < edges.findIdx fun e => x ≤ e)
    simp only [decide_eq_false_iff_not] at hnot
    exact hnot hx

theorem slot_le_length (edges : List α) (x : α) : slot edges x ≤ edges.length :=
  List.findIdx_le_length

/-- One more in a slot is one more in every sum that takes that slot in. -/
theorem sum_take_modify (slots : List ℕ) {i : ℕ} (hi : i < slots.length) (n : ℕ) :
    ((slots.modify i (· + 1)).take n).sum = (slots.take n).sum + if i < n then 1 else 0 := by
  induction slots generalizing i n with
  | nil => exact absurd hi (Nat.not_lt_zero i)
  | cons s slots ih =>
    cases n with
    | zero => rfl
    | succ n =>
      cases i with
      | zero =>
        rw [List.modify_zero_cons, List.take_succ_cons, List.take_succ_cons, List.sum_cons,
          List.sum_cons, if_pos (Nat.succ_pos n)]
        omega
      | succ i =>
        have hrest := ih (Nat.lt_of_succ_lt_succ hi) n
        rw [List.modify_succ_cons, List.take_succ_cons, List.take_succ_cons, List.sum_cons,
          List.sum_cons, hrest]
        simp only [Nat.succ_lt_succ_iff]
        omega

/-- The slots up to an edge together count the observations that do not exceed it. -/
theorem sum_take_tally {edges : List α} (hsorted : edges.Pairwise (· ≤ ·)) (xs : List α) {i : ℕ}
    (hi : i < edges.length) :
    ((tally edges xs).take (i + 1)).sum = xs.countP fun x => x ≤ edges[i] := by
  induction xs with
  | nil => simp [tally, List.take_replicate]
  | cons x xs ih =>
    have hslot : slot edges x < (tally edges xs).length := by
      rw [length_tally]
      exact Nat.lt_succ_of_le (slot_le_length edges x)
    show (((tally edges xs).modify _ _).take (i + 1)).sum = _
    rw [sum_take_modify _ hslot, ih, List.countP_cons]
    simp only [Nat.lt_succ_iff, slot_le_iff hsorted x hi, decide_eq_true_eq]

/-- All slots together count all observations. -/
theorem sum_tally (edges xs : List α) : (tally edges xs).sum = xs.length := by
  induction xs with
  | nil => simp [tally]
  | cons x xs ih =>
    have hslot : slot edges x < (tally edges xs).length := by
      rw [length_tally]
      exact Nat.lt_succ_of_le (slot_le_length edges x)
    have hsum := sum_take_modify (tally edges xs) hslot (tally edges xs).length
    rw [if_pos hslot, List.take_length, ih] at hsum
    rw [← List.length_modify (· + 1) (tally edges xs) (slot edges x), List.take_length] at hsum
    exact hsum

/-! ### Running sums -/

theorem length_cumulate (total : ℕ) (ns : List ℕ) : (cumulate total ns).length = ns.length := by
  induction ns generalizing total with
  | nil => rfl
  | cons n ns ih => rw [cumulate, List.length_cons, List.length_cons, ih]

theorem getElem_cumulate (total : ℕ) (ns : List ℕ) {i : ℕ} (hi : i < (cumulate total ns).length) :
    (cumulate total ns)[i] = total + (ns.take (i + 1)).sum := by
  induction ns generalizing total i with
  | nil => exact absurd hi (Nat.not_lt_zero i)
  | cons n ns ih =>
    cases i with
    | zero =>
      show total + n = total + ((n :: ns).take 1).sum
      simp
    | succ i =>
      have hrest : i < (cumulate (total + n) ns).length := Nat.lt_of_succ_lt_succ hi
      show (cumulate (total + n) ns)[i] = _
      rw [ih, List.take_succ_cons, List.sum_cons]
      omega

/-- **The running sums of the slots count the observations up to each edge**, and the last one
    counts them all. -/
theorem cumulate_tally {edges : List α} (hsorted : edges.Pairwise (· ≤ ·)) (xs : List α) :
    cumulate 0 (tally edges xs) =
      edges.map (fun e => xs.countP fun x => x ≤ e) ++ [xs.length] := by
  have hlength : (cumulate 0 (tally edges xs)).length = edges.length + 1 := by
    rw [length_cumulate, length_tally]
  apply List.ext_getElem
  · rw [hlength]
    simp
  · intro i hi _
    rw [getElem_cumulate, Nat.zero_add]
    by_cases hedge : i < edges.length
    · rw [sum_take_tally hsorted xs hedge, List.getElem_append_left (by simpa using hedge),
        List.getElem_map]
    · -- The last slot is the overflow.
      have hlast : i = edges.length := by omega
      have hall : (tally edges xs).take (i + 1) = tally edges xs := by
        rw [List.take_of_length_le]
        rw [length_tally]
        omega
      rw [hall, sum_tally, List.getElem_append_right (by simpa using Nat.le_of_not_lt hedge)]
      simp

end Algorandscout.Library.Histogram
