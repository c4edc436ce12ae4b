import Algorandscout.Library.Runs
import Mathlib.Data.List.Perm.Basic
import Mathlib.Data.List.Count

namespace Algorandscout.Library

/-!
# A bounded fan-out

Tasks in a list, each of which makes one lookup while it holds a permit of a semaphore.  They
start and finish in any order; what they give is gathered in the order of the list.

* `FanOut`, `FanOut.step` — the tasks, and what one of them can do;
* `FanOut.Inv`, `FanOut.inv_step` — permits, lookups and results, kept by every step;
* `FanOut.inv_run` — so they are right after every run;
* `FanOut.Inv.gathered_eq` — what is gathered depends on no order;
* `FanOut.Inv.exists_step`, `FanOut.Inv.length_le` — something is possible until all tasks are
  done, and no run is longer than two actions a task.
-/

/-- How far a task is. -/
inductive TaskState (β : Type) where
  | waiting
  | inFlight
  | done (result : β)

/-- Started, and perhaps finished. -/
def TaskState.started {β : Type} : TaskState β → Bool
  | .waiting => false
  | _ => true

def TaskState.flying {β : Type} : TaskState β → Bool
  | .inFlight => true
  | _ => false

def TaskState.finished {β : Type} : TaskState β → Bool
  | .done _ => true
  | _ => false

/-- The permits left, the tasks with their keys, and the lookups made, latest first. -/
structure FanOut (K β : Type) where
  permits : ℕ
  tasks : List (K × TaskState β)
  lookups : List K

namespace FanOut

variable {K β : Type}

/-- What a task can do: take a permit and make its lookup, or return with the result and give the
    permit back. -/
inductive Action where
  | start (i : ℕ)
  | finish (i : ℕ)

/-- Nothing has started. -/
def init (permits : ℕ) (keys : List K) : FanOut K β :=
  ⟨permits, keys.map fun k => (k, .waiting), []⟩

/-- One step of one task. -/
def step (lookup : K → β) (s : FanOut K β) : Action → Option (FanOut K β)
  | .start i =>
    match s.tasks[i]? with
    | some (k, .waiting) =>
      if s.permits = 0 then none
      else some {
        permits := s.permits - 1
        tasks := s.tasks.set i (k, .inFlight)
        lookups := k :: s.lookups }
    | _ => none
  | .finish i =>
    match s.tasks[i]? with
    | some (k, .inFlight) =>
      some { s with permits := s.permits + 1, tasks := s.tasks.set i (k, .done (lookup k)) }
    | _ => none

/-- The lookups that are in flight. -/
def inFlight (s : FanOut K β) : ℕ := s.tasks.countP (·.2.flying)

/-- Every task is done. -/
def Complete (s : FanOut K β) : Prop := ∀ t ∈ s.tasks, t.2.finished = true

/-- The results in the order of the tasks, those that are there. -/
def gathered (s : FanOut K β) : List (K × β) :=
  s.tasks.filterMap fun t => match t.2 with
    | .done result => some (t.1, result)
    | _ => none

variable {lookup : K → β} {s s' : FanOut K β}

/-- A list around the item at a position. -/
theorem exists_split {α : Type} {l : List α} {i : ℕ} {a : α} (h : l[i]? = some a) :
    ∃ before after, l = before ++ a :: after ∧ ∀ b, l.set i b = before ++ b :: after := by
  obtain ⟨hi, rfl⟩ := List.getElem?_eq_some_iff.mp h
  refine ⟨l.take i, l.drop (i + 1), ?_, ?_⟩
  · simp
  · intro b
    rw [List.set_eq_take_append_cons_drop, if_pos hi]

/-- **What a step does**: one task starts, for a permit, or one task finishes. -/
theorem step_cases {a : Action} (h : s.step lookup a = some s') :
    (∃ before k after, s.tasks = before ++ (k, .waiting) :: after ∧ s.permits ≠ 0 ∧ s' = {
      permits := s.permits - 1
      tasks := before ++ (k, .inFlight) :: after
      lookups := k :: s.lookups }) ∨
    ∃ before k after, s.tasks = before ++ (k, .inFlight) :: after ∧ s' = {
      s with
      permits := s.permits + 1
      tasks := before ++ (k, .done (lookup k)) :: after } := by
  cases a with
  | start i =>
    unfold step at h
    simp only at h
    split at h
    · next k htask =>
      split_ifs at h with hpermits
      obtain ⟨before, after, htasks, hset⟩ := exists_split htask
      rw [hset] at h
      exact .inl ⟨before, k, after, htasks, hpermits, (Option.some.inj h).symm⟩
    · cases h
  | finish i =>
    unfold step at h
    simp only at h
    split at h
    · next k htask =>
      obtain ⟨before, after, htasks, hset⟩ := exists_split htask
      rw [hset] at h
      exact .inr ⟨before, k, after, htasks, (Option.some.inj h).symm⟩
    · cases h

/-- What holds after the actions `as`, from `permits` permits and tasks for `keys`. -/
structure Inv (lookup : K → β) (permits : ℕ) (keys : List K) (as : List Action) (s : FanOut K β) :
    Prop where
  keys_eq : s.tasks.map (·.1) = keys
  /-- Each lookup in flight holds a permit. -/
  permits_eq : s.permits + s.inFlight = permits
  /-- The lookups made are those of the tasks that have started. -/
  lookups_perm : s.lookups.Perm ((s.tasks.filter (·.2.started)).map (·.1))
  results : ∀ k result, (k, .done result) ∈ s.tasks → result = lookup k
  /-- Each action is the start or the end of a task. -/
  length_eq : as.length = s.tasks.countP (·.2.started) + s.tasks.countP (·.2.finished)

theorem inv_init (permits : ℕ) (keys : List K) :
    Inv lookup permits keys [] (init permits keys) := by
  have hwaiting : ∀ t ∈ (init permits keys : FanOut K β).tasks, t.2 = .waiting := by
    intro t ht
    obtain ⟨k, -, rfl⟩ := List.mem_map.mp ht
    rfl
  have hnone : ∀ p : TaskState β → Bool, p .waiting = false →
      (init permits keys : FanOut K β).tasks.countP (fun t => p t.2) = 0 := by
    intro p hp
    rw [List.countP_eq_zero]
    intro t ht
    rw [hwaiting t ht, hp]
    exact Bool.false_ne_true
  constructor
  · show (keys.map _).map _ = keys
    rw [List.map_map]
    exact List.map_id keys
  · show permits + inFlight _ = permits
    rw [inFlight, hnone _ rfl, Nat.add_zero]
  · have hfilter : (init permits keys : FanOut K β).tasks.filter (·.2.started) = [] := by
      rw [List.filter_eq_nil_iff]
      intro t ht
      rw [hwaiting t ht]
      exact Bool.false_ne_true
    rw [hfilter]
    exact List.Perm.nil
  · intro k result hmem
    cases hwaiting _ hmem
  · rw [hnone _ rfl, hnone _ rfl]
    rfl

section

variable {permits left : ℕ} {keys lookups : List K} {as : List Action} {a : Action} {k : K}
  {before after : List (K × TaskState β)}

/-- The tasks in some state, with one of the tasks set apart. -/
theorem countP_around (p : TaskState β → Bool) (t : TaskState β) :
    (before ++ (k, t) :: after).countP (fun task => p task.2) =
      before.countP (fun task => p task.2) + after.countP (fun task => p task.2) +
        if p t then 1 else 0 := by
  rw [List.countP_append, List.countP_cons]
  exact (Nat.add_assoc _ _ _).symm

/-- The keys of the tasks that have started, with one of the tasks set apart. -/
theorem started_around (t : TaskState β) :
    ((before ++ (k, t) :: after).filter (·.2.started)).map (·.1) =
      (before.filter (·.2.started)).map (·.1) ++ (if t.started then [k] else []) ++
        (after.filter (·.2.started)).map (·.1) := by
  rw [List.filter_append, List.filter_cons, List.map_append]
  split_ifs <;> simp

theorem keys_around (t t' : TaskState β) :
    (before ++ (k, t) :: after).map (·.1) = (before ++ (k, t') :: after).map (·.1) := by
  rw [List.map_append, List.map_append, List.map_cons, List.map_cons]

/-- A task takes a permit and makes its lookup. -/
theorem Inv.start
    (hinv : Inv lookup permits keys as ⟨left, before ++ (k, .waiting) :: after, lookups⟩)
    (hleft : left ≠ 0) :
    Inv lookup permits keys (a :: as)
      ⟨left - 1, before ++ (k, .inFlight) :: after, k :: lookups⟩ := by
  obtain ⟨hkeys, hpermits, hlookups, hresults, hlength⟩ := hinv
  simp only [inFlight, countP_around, started_around] at hpermits hlookups hlength
  constructor
  · rw [← hkeys]
    exact keys_around _ _
  · simp only [inFlight, countP_around]
    simp only [TaskState.flying, Bool.false_eq_true, ↓reduceIte] at hpermits ⊢
    omega
  · simp only [started_around]
    simp only [TaskState.started, Bool.false_eq_true, ↓reduceIte, List.append_nil] at hlookups ⊢
    rw [List.append_assoc]
    exact (hlookups.cons k).trans List.perm_middle.symm
  · intro k' result hmem
    apply hresults k' result
    rcases List.mem_append.mp hmem with hmem | hmem
    · exact List.mem_append_left _ hmem
    · rcases List.mem_cons.mp hmem with heq | hmem
      · cases heq
      · exact List.mem_append_right _ (List.mem_cons_of_mem _ hmem)
  · simp only [countP_around, List.length_cons]
    simp only [TaskState.started, TaskState.finished, Bool.false_eq_true, ↓reduceIte] at hlength ⊢
    omega

/-- A task returns with its result, and gives its permit back. -/
theorem Inv.finish
    (hinv : Inv lookup permits keys as ⟨left, before ++ (k, .inFlight) :: after, lookups⟩) :
    Inv lookup permits keys (a :: as)
      ⟨left + 1, before ++ (k, .done (lookup k)) :: after, lookups⟩ := by
  obtain ⟨hkeys, hpermits, hlookups, hresults, hlength⟩ := hinv
  simp only [inFlight, countP_around, started_around] at hpermits hlookups hlength
  constructor
  · rw [← hkeys]
    exact keys_around _ _
  · simp only [inFlight, countP_around]
    simp only [TaskState.flying, Bool.false_eq_true, ↓reduceIte] at hpermits ⊢
    omega
  · simp only [started_around]
    exact hlookups
  · intro k' result hmem
    rcases List.mem_append.mp hmem with hmem | hmem
    · exact hresults k' result (List.mem_append_left _ hmem)
    · rcases List.mem_cons.mp hmem with heq | hmem
      · cases heq
        rfl
      · exact hresults k' result (List.mem_append_right _ (List.mem_cons_of_mem _ hmem))
  · simp only [countP_around, List.length_cons]
    simp only [TaskState.started, TaskState.finished, Bool.false_eq_true, ↓reduceIte] at hlength ⊢
    omega

/-- **Every step keeps the invariant.** -/
theorem inv_step (hinv : Inv lookup permits keys as s) (h : s.step lookup a = some s') :
    Inv lookup permits keys (a :: as) s' := by
  obtain ⟨left, tasks, lookups⟩ := s
  rcases step_cases h with ⟨before, k, after, rfl, hleft, rfl⟩ | ⟨before, k, after, rfl, rfl⟩
  · exact hinv.start hleft
  · exact hinv.finish

/-- **Every run keeps the invariant**, in whatever order the tasks start and finish. -/
theorem inv_run (h : runFrom (step lookup) (init permits keys) as = some s) :
    Inv lookup permits keys as s :=
  runFrom_invariant (inv_init permits keys) (fun _ _ _ _ _ hinv hs => inv_step hinv hs) h

/-! ### What follows -/

theorem Inv.inFlight_le (hinv : Inv lookup permits keys as s) : s.inFlight ≤ permits := by
  have hpermits := hinv.permits_eq
  omega

/-- No key is looked up more often than it is in the list. -/
theorem Inv.lookups_subperm (hinv : Inv lookup permits keys as s) : s.lookups.Subperm keys := by
  have hsub : ((s.tasks.filter (·.2.started)).map (·.1)).Sublist (s.tasks.map (·.1)) :=
    List.filter_sublist.map _
  rw [hinv.keys_eq] at hsub
  exact hinv.lookups_perm.subperm.trans hsub.subperm

/-- When all tasks are done, every key has been looked up. -/
theorem Inv.lookups_of_complete (hinv : Inv lookup permits keys as s) (h : s.Complete) :
    s.lookups.Perm keys := by
  have hall : s.tasks.filter (·.2.started) = s.tasks := by
    rw [List.filter_eq_self]
    intro t ht
    have hdone := h t ht
    cases hstate : t.2 with
    | done result => rfl
    | waiting =>
      rw [hstate] at hdone
      cases hdone
    | inFlight => rfl
  have hperm := hinv.lookups_perm
  rwa [hall, hinv.keys_eq] at hperm

/-- **When all tasks are done, the results are there in the order of the keys.** -/
theorem Inv.gathered_eq (hinv : Inv lookup permits keys as s) (h : s.Complete) :
    s.gathered = keys.map fun k => (k, lookup k) := by
  have hresult : ∀ t ∈ s.tasks, (match t.2 with
      | .done result => some (t.1, result)
      | _ => none) = some (t.1, lookup t.1) := by
    rintro ⟨k, state⟩ ht
    have hdone := h _ ht
    cases state with
    | done result => rw [← hinv.results k result ht]
    | waiting => cases hdone
    | inFlight => cases hdone
  unfold gathered
  rw [← hinv.keys_eq, List.map_map, List.filterMap_congr hresult, List.filterMap_eq_map']
  rfl

theorem exists_step_start {i : ℕ} (hi : s.tasks[i]? = some (k, .waiting))
    (hpermits : s.permits ≠ 0) : ∃ s', s.step lookup (.start i) = some s' := by
  unfold step
  simp only [hi, if_neg hpermits]
  exact ⟨_, rfl⟩

theorem exists_step_finish {i : ℕ} (hi : s.tasks[i]? = some (k, .inFlight)) :
    ∃ s', s.step lookup (.finish i) = some s' := by
  unfold step
  simp only [hi]
  exact ⟨_, rfl⟩

/-- **Something is possible until all tasks are done.** -/
theorem Inv.exists_step (hinv : Inv lookup permits keys as s) (hpos : 0 < permits)
    (h : ¬s.Complete) : ∃ a s', s.step lookup a = some s' := by
  by_cases hflying : ∃ (k : K) (i : ℕ), s.tasks[i]? = some (k, .inFlight)
  · -- A lookup in flight can return.
    obtain ⟨k, i, hi⟩ := hflying
    exact ⟨.finish i, exists_step_finish hi⟩
  · -- All permits are back, and the task that is not done waits.
    have hnone : s.inFlight = 0 := by
      unfold inFlight
      rw [List.countP_eq_zero]
      rintro ⟨k, state⟩ ht hfly
      obtain ⟨i, hi⟩ := List.mem_iff_getElem?.mp ht
      cases state with
      | inFlight => exact hflying ⟨k, i, hi⟩
      | waiting => cases hfly
      | done result => cases hfly
    have hpermits : s.permits ≠ 0 := by
      have heq := hinv.permits_eq
      omega
    unfold Complete at h
    push Not at h
    obtain ⟨⟨k, state⟩, ht, hunfinished⟩ := h
    obtain ⟨i, hi⟩ := List.mem_iff_getElem?.mp ht
    cases state with
    | waiting => exact ⟨.start i, exists_step_start hi hpermits⟩
    | inFlight => exact absurd ⟨k, i, hi⟩ hflying
    | done result => exact absurd rfl hunfinished

/-- Every task starts and finishes at most once. -/
theorem Inv.length_le (hinv : Inv lookup permits keys as s) : as.length ≤ 2 * keys.length := by
  have hkeys := congrArg List.length hinv.keys_eq
  rw [List.length_map] at hkeys
  have hstarted : s.tasks.countP (·.2.started) ≤ s.tasks.length := List.countP_le_length
  have hfinished : s.tasks.countP (·.2.finished) ≤ s.tasks.length := List.countP_le_length
  have hlength := hinv.length_eq
  omega

end

end FanOut

end Algorandscout.Library
