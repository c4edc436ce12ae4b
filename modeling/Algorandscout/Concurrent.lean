import Algorandscout.Cache
import Algorandscout.Library.Runs
import Mathlib.Logic.Function.Basic

namespace Algorandscout

open Library

/-!
# Concurrent reads through the cache

`get_or_fetch` holds no lock across its `await`, so the event loop may run anything between its
`get` and its `set`.  A task is split there: `start` is the code up to the `await`, `complete`
the code after it, with what the fetch gave.  A machine is the cache, the tasks and the clock;
its runs are all interleavings.

* `Machine.step` — one action, with `step_cases` as its inversion lemma;
* `Machine.Inv` — a task is of the pair that its start named, every entry of the cache was stored by
  a completed task of its pair, and every hit read such an entry within its TTL;
* `Machine.getOrFetch_eq_steps` — a task that nothing interrupts is `getOrFetch`;
* `concurrent_reads_safe` — what any interleaving guarantees.
-/

/-- Where a `get_or_fetch` task stands. -/
inductive Task (V ε : Type) where
  /-- Awaiting its fetch. -/
  | pending (pair : CacheKey)
  /-- Returned what the cache held. -/
  | hit (pair : CacheKey) (readAt : ℚ) (value : V)
  /-- Returned what its fetch gave, and stored it. -/
  | fetched (pair : CacheKey) (storedAt : ℚ) (value : Option V)
  /-- Raised what its fetch raised. -/
  | raised (pair : CacheKey) (exc : ε)
  deriving DecidableEq

/-- The pair that the task reads. -/
def Task.pair {V ε : Type} : Task V ε → CacheKey
  | .pending pair => pair
  | .hit pair _ _ => pair
  | .fetched pair _ _ => pair
  | .raised pair _ => pair

/-- What the task's caller got, once it got anything. -/
def Task.result {V ε : Type} : Task V ε → Option (Except ε (Option V))
  | .pending _ => none
  | .hit _ _ value => some (.ok (some value))
  | .fetched _ _ value => some (.ok value)
  | .raised _ exc => some (.error exc)

/-- The task after its `get`: returned, or awaiting its fetch. -/
def Task.afterGet {V ε : Type} (pair : CacheKey) (now : ℚ) : Option V → Task V ε
  | some value => .hit pair now value
  | none => .pending pair

/-- The cache, the tasks started so far, and the time of the last action. -/
structure Machine (V ε : Type) where
  cache : TTLCache V
  tasks : ℕ → Option (Task V ε)
  clock : ℚ

/-- What the event loop can do next. -/
inductive Action (V ε : Type) where
  | start (task : ℕ) (kind key : String)
  | complete (task : ℕ) (outcome : Except ε (Option V))
  | clear

namespace Machine

variable {V ε : Type}

/-- No task yet, and an empty cache. -/
def init (maxEntries : ℕ) : Machine V ε where
  cache := TTLCache.new maxEntries
  tasks := fun _ => none
  clock := 0

/-- One action at time `now`; `none` when it is not possible. -/
def step (m : Machine V ε) (timed : ℚ × Action V ε) : Option (Machine V ε) :=
  let (now, action) := timed
  if now < m.clock then none
  else
    match action with
    | .start i kind key =>
      match m.tasks i with
      | some _ => none
      | none =>
        -- Up to the `await` nothing else runs.
        let (hit, cache) := m.cache.get now kind key
        let task := Task.afterGet (kind, key) now hit
        some { cache, tasks := Function.update m.tasks i (some task), clock := now }
    | .complete i outcome =>
      match m.tasks i with
      -- Only a task that awaits its fetch can go on.
      | some (.pending (kind, key)) =>
        match outcome with
        -- The exception propagates before the `set`.
        | .error exc =>
          let task := .raised (kind, key) exc
          some { m with tasks := Function.update m.tasks i (some task), clock := now }
        | .ok value =>
          let task := .fetched (kind, key) now value
          some {
            cache := m.cache.set now kind key value
            tasks := Function.update m.tasks i (some task)
            clock := now }
      | _ => none
    | .clear => some { m with cache := m.cache.clear, clock := now }

/-- The actions so far, latest first, from the empty cache. -/
abbrev runs (maxEntries : ℕ) : List (ℚ × Action V ε) → Option (Machine V ε) :=
  runFrom step (init maxEntries)

/-- The ways an action at time `now` may go, each with what it does to the cache and the tasks. -/
inductive StepCase (m m' : Machine V ε) (now : ℚ) : Action V ε → Prop where
  | hit (i : ℕ) (kind key : String) (value : V)
      (unstarted : m.tasks i = none)
      (found : (m.cache.get now kind key).1 = some value)
      (cache_eq : m'.cache = (m.cache.get now kind key).2)
      (tasks_eq : m'.tasks = Function.update m.tasks i (some (.hit (kind, key) now value))) :
      StepCase m m' now (.start i kind key)
  | miss (i : ℕ) (kind key : String)
      (unstarted : m.tasks i = none)
      (absent : (m.cache.get now kind key).1 = none)
      (cache_eq : m'.cache = (m.cache.get now kind key).2)
      (tasks_eq : m'.tasks = Function.update m.tasks i (some (.pending (kind, key)))) :
      StepCase m m' now (.start i kind key)
  | raise (i : ℕ) (pair : CacheKey) (exc : ε)
      (pending : m.tasks i = some (.pending pair))
      (cache_eq : m'.cache = m.cache)
      (tasks_eq : m'.tasks = Function.update m.tasks i (some (.raised pair exc))) :
      StepCase m m' now (.complete i (.error exc))
  | store (i : ℕ) (kind key : String) (value : Option V)
      (pending : m.tasks i = some (.pending (kind, key)))
      (cache_eq : m'.cache = m.cache.set now kind key value)
      (tasks_eq : m'.tasks = Function.update m.tasks i (some (.fetched (kind, key) now value))) :
      StepCase m m' now (.complete i (.ok value))
  | clear
      (cache_eq : m'.cache = m.cache.clear)
      (tasks_eq : m'.tasks = m.tasks) :
      StepCase m m' now .clear

/-- **What an action can do.** -/
theorem step_cases {m m' : Machine V ε} {now : ℚ} {action : Action V ε}
    (h : m.step (now, action) = some m') :
    m.clock ≤ now ∧ m'.clock = now ∧ StepCase m m' now action := by
  unfold step at h
  by_cases hclock : now < m.clock
  · simp [hclock] at h
  simp only [hclock, ↓reduceIte] at h
  have hle := not_lt.mp hclock
  cases action with
  | start i kind key =>
    cases htask : m.tasks i with
    | some task => simp [htask] at h
    | none =>
      simp only [htask, Option.some.injEq] at h
      subst h
      refine ⟨hle, rfl, ?_⟩
      cases hget : (m.cache.get now kind key).1 with
      | some value => exact .hit i kind key value htask hget rfl (by simp [Task.afterGet])
      | none => exact .miss i kind key htask hget rfl (by simp [Task.afterGet])
  | complete i outcome =>
    cases htask : m.tasks i with
    | none => simp [htask] at h
    | some task =>
      cases task with
      | pending pair =>
        obtain ⟨kind, key⟩ := pair
        cases outcome with
        | error exc =>
          simp only [htask, Option.some.injEq] at h
          subst h
          exact ⟨hle, rfl, .raise i (kind, key) exc htask rfl rfl⟩
        | ok value =>
          simp only [htask, Option.some.injEq] at h
          subst h
          exact ⟨hle, rfl, .store i kind key value htask rfl rfl⟩
      | hit pair readAt value => simp [htask] at h
      | fetched pair storedAt value => simp [htask] at h
      | raised pair exc => simp [htask] at h
  | clear =>
    simp only [Option.some.injEq] at h
    subst h
    exact ⟨hle, rfl, .clear rfl rfl⟩

/-! ### Tasks -/

/-- An action writes one task, its own, which was not started or pending before; or none. -/
theorem tasks_of_step {m m' : Machine V ε} {now : ℚ} {action : Action V ε}
    (h : m.step (now, action) = some m') :
    m'.tasks = m.tasks ∨ ∃ i written, m'.tasks = Function.update m.tasks i (some written) ∧
      (m.tasks i = none ∨ ∃ pair, m.tasks i = some (.pending pair)) ∧
      ((∃ kind key, action = .start i kind key) ∨ ∃ outcome, action = .complete i outcome) := by
  cases (step_cases h).2.2 with
  | hit i kind key value hi _ _ htasks =>
    exact .inr ⟨i, _, htasks, .inl hi, .inl ⟨kind, key, rfl⟩⟩
  | miss i kind key hi _ _ htasks =>
    exact .inr ⟨i, _, htasks, .inl hi, .inl ⟨kind, key, rfl⟩⟩
  | raise i pair exc hi _ htasks =>
    exact .inr ⟨i, _, htasks, .inr ⟨pair, hi⟩, .inr ⟨_, rfl⟩⟩
  | store i kind key value hi _ htasks =>
    exact .inr ⟨i, _, htasks, .inr ⟨(kind, key), hi⟩, .inr ⟨_, rfl⟩⟩
  | clear _ htasks => exact .inl htasks

/-- A task is of the pair that it had before, or that the action starts it with. -/
theorem pair_of_step {m m' : Machine V ε} {now : ℚ} {action : Action V ε}
    (h : m.step (now, action) = some m') {i : ℕ} {task : Task V ε} (htask : m'.tasks i = some task) :
    (∃ before, m.tasks i = some before ∧ before.pair = task.pair ∧
        ∀ kind key, action ≠ .start i kind key) ∨
      m.tasks i = none ∧ action = .start i task.pair.1 task.pair.2 := by
  -- The task that the action writes, and any other one.
  have hupdate : ∀ {j : ℕ} {written : Task V ε},
      m'.tasks = Function.update m.tasks j (some written) →
        (i = j ∧ written = task) ∨ (i ≠ j ∧ m.tasks i = some task) := by
    intro j written hupdated
    rw [hupdated, Function.update_apply] at htask
    split_ifs at htask with hij
    · exact .inl ⟨hij, Option.some.inj htask⟩
    · exact .inr ⟨hij, htask⟩
  cases (step_cases h).2.2 with
  | hit j kind key value hj _ _ htasks =>
    rcases hupdate htasks with ⟨rfl, rfl⟩ | ⟨hne, hold⟩
    · exact .inr ⟨hj, rfl⟩
    · exact .inl ⟨task, hold, rfl, fun _ _ heq => hne (Action.start.inj heq).1.symm⟩
  | miss j kind key hj _ _ htasks =>
    rcases hupdate htasks with ⟨rfl, rfl⟩ | ⟨hne, hold⟩
    · exact .inr ⟨hj, rfl⟩
    · exact .inl ⟨task, hold, rfl, fun _ _ heq => hne (Action.start.inj heq).1.symm⟩
  | raise j pair exc hj _ htasks =>
    rcases hupdate htasks with ⟨rfl, rfl⟩ | ⟨-, hold⟩
    · exact .inl ⟨_, hj, rfl, nofun⟩
    · exact .inl ⟨task, hold, rfl, nofun⟩
  | store j kind key value hj _ htasks =>
    rcases hupdate htasks with ⟨rfl, rfl⟩ | ⟨-, hold⟩
    · exact .inl ⟨_, hj, rfl, nofun⟩
    · exact .inl ⟨task, hold, rfl, nofun⟩
  | clear _ htasks =>
    rw [htasks] at htask
    exact .inl ⟨task, htask, rfl, nofun⟩

/-- A task that has returned or raised stays as it is. -/
theorem tasks_settled {m m' : Machine V ε} {now : ℚ} {action : Action V ε}
    (h : m.step (now, action) = some m') {i : ℕ} {task : Task V ε} (htask : m.tasks i = some task)
    (hsettled : task.result ≠ none) : m'.tasks i = some task := by
  rcases tasks_of_step h with htasks | ⟨j, written, htasks, hj, -⟩
  · rw [htasks, htask]
  · have hne : i ≠ j := by
      intro hij
      rw [← hij, htask] at hj
      rcases hj with hnone | ⟨pair, hpending⟩
      · cases hnone
      · -- A pending task has no result yet.
        obtain rfl := Option.some.inj hpending
        exact hsettled rfl
    rw [htasks, Function.update_of_ne hne, htask]

/-- An action of another task leaves a task as it is. -/
theorem tasks_other {m m' : Machine V ε} {now : ℚ} {action : Action V ε}
    (h : m.step (now, action) = some m') {i : ℕ}
    (hstart : ∀ kind key, action ≠ .start i kind key)
    (hcomplete : ∀ outcome, action ≠ .complete i outcome) : m'.tasks i = m.tasks i := by
  rcases tasks_of_step h with htasks | ⟨j, written, htasks, -, haction⟩
  · rw [htasks]
  · have hne : i ≠ j := by
      rintro rfl
      rcases haction with ⟨kind, key, rfl⟩ | ⟨outcome, rfl⟩
      · exact hstart kind key rfl
      · exact hcomplete outcome rfl
    rw [htasks, Function.update_of_ne hne]

/-- No action takes a task away. -/
theorem unstarted_of_step {m m' : Machine V ε} {now : ℚ} {action : Action V ε}
    (h : m.step (now, action) = some m') {i : ℕ} (hi : m'.tasks i = none) : m.tasks i = none := by
  rcases tasks_of_step h with htasks | ⟨j, written, htasks, -, -⟩
  · rw [← htasks, hi]
  · rw [htasks, Function.update_apply] at hi
    split_ifs at hi
    exact hi

/-- What is started is there. -/
theorem tasks_of_start {m m' : Machine V ε} {now : ℚ} {i : ℕ} {kind key : String}
    (h : m.step (now, .start i kind key) = some m') : m'.tasks i ≠ none := by
  cases (step_cases h).2.2 with
  | hit _ _ _ value _ _ _ htasks =>
    rw [htasks, Function.update_self]
    exact Option.some_ne_none _
  | miss _ _ _ _ _ _ htasks =>
    rw [htasks, Function.update_self]
    exact Option.some_ne_none _

/-- A task can be started whatever the others do. -/
theorem step_start {m : Machine V ε} {now : ℚ} (hclock : m.clock ≤ now) {i : ℕ}
    (htask : m.tasks i = none) (kind key : String) :
    ∃ m', m.step (now, .start i kind key) = some m' ∧
      m'.cache = (m.cache.get now kind key).2 ∧
      m'.tasks = Function.update m.tasks i
        (some (.afterGet (kind, key) now (m.cache.get now kind key).1)) ∧
      m'.clock = now := by
  simp only [step, not_lt.mpr hclock, ↓reduceIte, htask]
  exact ⟨_, rfl, rfl, rfl, rfl⟩

/-- A fetch can come back whatever the others do. -/
theorem step_complete_ok {m : Machine V ε} {now : ℚ} (hclock : m.clock ≤ now) {i : ℕ}
    {kind key : String} (htask : m.tasks i = some (.pending (kind, key))) (value : Option V) :
    ∃ m', m.step (now, .complete i (.ok value)) = some m' ∧
      m'.cache = m.cache.set now kind key value ∧
      m'.tasks = Function.update m.tasks i (some (.fetched (kind, key) now value)) ∧
      m'.clock = now := by
  simp only [step, not_lt.mpr hclock, ↓reduceIte, htask]
  exact ⟨_, rfl, rfl, rfl, rfl⟩

/-- A fetch can fail whatever the others do. -/
theorem step_complete_error {m : Machine V ε} {now : ℚ} (hclock : m.clock ≤ now) {i : ℕ}
    {pair : CacheKey} (htask : m.tasks i = some (.pending pair)) (exc : ε) :
    ∃ m', m.step (now, .complete i (.error exc)) = some m' ∧
      m'.cache = m.cache ∧
      m'.tasks = Function.update m.tasks i (some (.raised pair exc)) ∧
      m'.clock = now := by
  simp only [step, not_lt.mpr hclock, ↓reduceIte, htask]
  exact ⟨_, rfl, rfl, rfl, rfl⟩

/-- **A task that nothing interrupts is `getOrFetch`**: the same answer, the same cache. -/
theorem getOrFetch_eq_steps {m : Machine V ε} {readAt storedAt : ℚ} (hread : m.clock ≤ readAt)
    (hstored : readAt ≤ storedAt) {i : ℕ} (htask : m.tasks i = none) (kind key : String)
    (fetch : Except ε (Option V)) :
    ∃ m₁ m', m.step (readAt, .start i kind key) = some m₁ ∧
      (m' = m₁ ∨ m₁.step (storedAt, .complete i fetch) = some m') ∧
      (m'.tasks i).bind Task.result =
        some (m.cache.getOrFetch readAt storedAt kind key fetch).1 ∧
      m'.cache = (m.cache.getOrFetch readAt storedAt kind key fetch).2 := by
  obtain ⟨m₁, hstart, hcache, htasks, hclock⟩ := step_start hread htask kind key
  have hi : m₁.tasks i = some (.afterGet (kind, key) readAt (m.cache.get readAt kind key).1) := by
    rw [htasks, Function.update_self]
  cases hget : (m.cache.get readAt kind key).1 with
  | some value =>
    refine ⟨m₁, m₁, hstart, .inl rfl, ?_⟩
    rw [TTLCache.getOrFetch_of_hit hget, hi, hget]
    exact ⟨rfl, hcache⟩
  | none =>
    rw [hget] at hi
    cases fetch with
    | error exc =>
      obtain ⟨m', hstep, hcache', htasks', -⟩ :=
        step_complete_error (hclock.trans_le hstored) hi exc
      refine ⟨m₁, m', hstart, .inr hstep, ?_⟩
      rw [TTLCache.getOrFetch_of_raise hget, htasks', Function.update_self]
      exact ⟨rfl, hcache'.trans hcache⟩
    | ok value =>
      obtain ⟨m', hstep, hcache', htasks', -⟩ :=
        step_complete_ok (hclock.trans_le hstored) hi value
      refine ⟨m₁, m', hstart, .inr hstep, ?_⟩
      rw [TTLCache.getOrFetch_of_miss hget, htasks', Function.update_self]
      exact ⟨rfl, by rw [hcache', hcache]⟩

/-! ### Where results and entries come from -/

/-- What a task holds after an action it held before, or the action wrote it. -/
theorem task_of_step {m m' : Machine V ε} {now : ℚ} {action : Action V ε}
    (h : m.step (now, action) = some m') {i : ℕ} {task : Task V ε}
    (hi : m'.tasks i = some task) :
    m.tasks i = some task ∨
      (∃ kind key, action = .start i kind key ∧ m.tasks i = none ∧
        task = .afterGet (kind, key) now (m.cache.get now kind key).1) ∨
      (∃ pair exc, action = .complete i (.error exc) ∧ m.tasks i = some (.pending pair) ∧
        task = .raised pair exc) ∨
      (∃ pair value, action = .complete i (.ok value) ∧ m.tasks i = some (.pending pair) ∧
        task = .fetched pair now value) := by
  -- An update at `j` is seen at `i` when they are the same task.
  have hcases : ∀ {j written}, m'.tasks = Function.update m.tasks j (some written) →
      (i = j ∧ task = written) ∨ m.tasks i = some task := by
    intro j written htasks
    rw [htasks, Function.update_apply] at hi
    split_ifs at hi with hij
    · exact .inl ⟨hij, (Option.some.inj hi).symm⟩
    · exact .inr hi
  cases (step_cases h).2.2 with
  | hit j kind key value hj hget _ htasks =>
    rcases hcases htasks with ⟨rfl, rfl⟩ | hold
    · exact .inr (.inl ⟨kind, key, rfl, hj, by rw [hget]; rfl⟩)
    · exact .inl hold
  | miss j kind key hj hget _ htasks =>
    rcases hcases htasks with ⟨rfl, rfl⟩ | hold
    · exact .inr (.inl ⟨kind, key, rfl, hj, by rw [hget]; rfl⟩)
    · exact .inl hold
  | raise j pair exc hj _ htasks =>
    rcases hcases htasks with ⟨rfl, rfl⟩ | hold
    · exact .inr (.inr (.inl ⟨pair, exc, rfl, hj, rfl⟩))
    · exact .inl hold
  | store j kind key value hj _ htasks =>
    rcases hcases htasks with ⟨rfl, rfl⟩ | hold
    · exact .inr (.inr (.inr ⟨(kind, key), value, rfl, hj, rfl⟩))
    · exact .inl hold
  | clear _ htasks => exact .inl (htasks ▸ hi)

/-- A hit was there before, or is the answer of the `get` that the action starts with. -/
theorem hit_of_step {m m' : Machine V ε} {now : ℚ} {action : Action V ε}
    (h : m.step (now, action) = some m') {i : ℕ} {pair : CacheKey} {readAt : ℚ} {value : V}
    (hi : m'.tasks i = some (.hit pair readAt value)) :
    m.tasks i = some (.hit pair readAt value) ∨
      (readAt = now ∧ action = .start i pair.1 pair.2 ∧ m.tasks i = none ∧
        (m.cache.get now pair.1 pair.2).1 = some value) := by
  rcases task_of_step h hi with hold | ⟨kind, key, rfl, hj, heq⟩ | ⟨_, _, _, _, heq⟩ |
    ⟨_, _, _, _, heq⟩
  · exact .inl hold
  · cases hget : (m.cache.get now kind key).1 with
    | none => simp [hget, Task.afterGet] at heq
    | some found =>
      simp only [hget, Task.afterGet, Task.hit.injEq] at heq
      obtain ⟨rfl, rfl, rfl⟩ := heq
      exact .inr ⟨rfl, rfl, hj, hget⟩
  · exact absurd heq (by simp)
  · exact absurd heq (by simp)

/-- A fetched value was there before, or is what the fetch gave in this action. -/
theorem fetched_of_step {m m' : Machine V ε} {now : ℚ} {action : Action V ε}
    (h : m.step (now, action) = some m') {i : ℕ} {pair : CacheKey} {storedAt : ℚ}
    {value : Option V} (hi : m'.tasks i = some (.fetched pair storedAt value)) :
    m.tasks i = some (.fetched pair storedAt value) ∨
      (storedAt = now ∧ action = .complete i (.ok value) ∧ m.tasks i = some (.pending pair)) := by
  rcases task_of_step h hi with hold | ⟨kind, key, rfl, hj, heq⟩ | ⟨_, _, _, _, heq⟩ |
    ⟨_, _, rfl, hj, heq⟩
  · exact .inl hold
  · cases hget : (m.cache.get now kind key).1 <;> simp [hget, Task.afterGet] at heq
  · exact absurd heq (by simp)
  · obtain ⟨rfl, rfl, rfl⟩ := Task.fetched.inj heq
    exact .inr ⟨rfl, rfl, hj⟩

/-- A pending task was pending before, or is the task the action started. -/
theorem pending_of_step {m m' : Machine V ε} {now : ℚ} {action : Action V ε}
    (h : m.step (now, action) = some m') {i : ℕ} {pair : CacheKey}
    (hi : m'.tasks i = some (.pending pair)) :
    m.tasks i = some (.pending pair) ∨
      (action = .start i pair.1 pair.2 ∧ m.tasks i = none) := by
  rcases task_of_step h hi with hold | ⟨kind, key, rfl, hj, heq⟩ | ⟨_, _, _, _, heq⟩ |
    ⟨_, _, _, _, heq⟩
  · exact .inl hold
  · cases hget : (m.cache.get now kind key).1 with
    | some found => simp [hget, Task.afterGet] at heq
    | none =>
      simp only [hget, Task.afterGet, Task.pending.injEq] at heq
      subst heq
      exact .inr ⟨rfl, hj⟩
  · exact absurd heq (by simp)
  · exact absurd heq (by simp)

/-- An entry was there before, and the action stored nothing for its pair; or it is what a fetch
    gave in this action. -/
theorem entry_of_step {m m' : Machine V ε} {now : ℚ} {action : Action V ε}
    (h : m.step (now, action) = some m') {pair : CacheKey} {storedAt : ℚ} {value : Option V}
    (hentry : m'.cache.data.lookup pair = some (storedAt, value)) :
    (m.cache.data.lookup pair = some (storedAt, value) ∧
      ∀ i v, action = .complete i (.ok v) → m.tasks i = some (.pending pair) →
        ttlSeconds pair.1 = none) ∨
      (storedAt = now ∧ (ttlSeconds pair.1).isSome ∧ ∃ i, action = .complete i (.ok value) ∧
        m.tasks i = some (.pending pair) ∧ m'.tasks i = some (.fetched pair now value)) := by
  cases (step_cases h).2.2 with
  | hit j kind key hit _ _ hcache _ =>
    rw [hcache] at hentry
    exact .inl ⟨TTLCache.lookup_of_lookup_get hentry, fun _ _ heq => absurd heq (by simp)⟩
  | miss j kind key _ _ hcache _ =>
    rw [hcache] at hentry
    exact .inl ⟨TTLCache.lookup_of_lookup_get hentry, fun _ _ heq => absurd heq (by simp)⟩
  | raise j pair exc _ hcache _ =>
    rw [hcache] at hentry
    exact .inl ⟨hentry, fun _ _ heq => absurd heq (by simp)⟩
  | store i kind key value' hi hcache htasks =>
    -- The pair of the completed task, read back off any way of writing the same action.
    have hpair : ∀ j v, (.complete i (.ok value') : Action V ε) = .complete j (.ok v) →
        m.tasks j = some (.pending pair) → pair = (kind, key) := by
      intro j v heq hj
      obtain ⟨rfl, -⟩ := Action.complete.inj heq
      rw [hi, Option.some.injEq, Task.pending.injEq] at hj
      exact hj.symm
    rw [hcache] at hentry
    by_cases hkind : ttlSeconds kind = none
    · rw [TTLCache.set_of_uncacheable hkind] at hentry
      refine .inl ⟨hentry, ?_⟩
      intro j v heq hj
      rw [hpair j v heq hj]
      exact hkind
    · rcases TTLCache.lookup_of_lookup_set hentry hkind with ⟨rfl, heq⟩ | ⟨hne, hold⟩
      · obtain ⟨rfl, rfl⟩ := Prod.mk.inj heq
        refine .inr ⟨rfl, Option.isSome_iff_ne_none.mpr hkind, i, rfl, hi, ?_⟩
        rw [htasks, Function.update_self]
      · refine .inl ⟨hold, ?_⟩
        intro j v heq hj
        exact absurd (hpair j v heq hj) hne
  | clear hcache _ =>
    rw [hcache] at hentry
    simp [TTLCache.clear] at hentry

/-- A cache that holds an entry may hold one. -/
theorem max_pos_of_lookup {c : TTLCache V} {p : CacheKey} {entry : ℚ × Option V}
    (h : c.data.lookup p = some entry) : 0 < c.max := by
  have hmem : p ∈ c.data := OrderedDict.mem_of_lookup h
  have hkeys : 0 < c.data.keys.length := List.length_pos_of_mem (AList.mem_keys.mp hmem)
  have hbounded := c.bounded
  rw [OrderedDict.length_eq_length_keys] at hbounded
  omega

/-- The size of the cache is fixed. -/
theorem cache_max_of_step {m m' : Machine V ε} {now : ℚ} {action : Action V ε}
    (h : m.step (now, action) = some m') : m'.cache.max = m.cache.max := by
  cases (step_cases h).2.2 with
  | hit _ _ _ _ _ _ hcache _ => rw [hcache, TTLCache.get_max]
  | miss _ _ _ _ _ hcache _ => rw [hcache, TTLCache.get_max]
  | raise _ _ _ _ hcache _ => rw [hcache]
  | store _ _ _ _ _ hcache _ => rw [hcache, TTLCache.set_max]
  | clear hcache _ =>
    rw [hcache]
    rfl

/-- A step that leaves an entry starts from a cache that may hold one. -/
theorem max_pos_of_step {m m' : Machine V ε} {now : ℚ} {action : Action V ε}
    (h : m.step (now, action) = some m') {pair : CacheKey} {entry : ℚ × Option V}
    (hentry : m'.cache.data.lookup pair = some entry) : 0 < m.cache.max := by
  rw [← cache_max_of_step h]
  exact max_pos_of_lookup hentry

/-- A task whose fetch fails raises what the fetch raised and leaves the cache alone. -/
theorem raised_of_step {m m' : Machine V ε} {now : ℚ} {i : ℕ} {exc : ε}
    (h : m.step (now, .complete i (.error exc)) = some m') :
    m'.cache = m.cache ∧ ∃ pair, m'.tasks i = some (.raised pair exc) := by
  cases (step_cases h).2.2 with
  | raise _ pair _ _ hcache htasks =>
    refine ⟨hcache, pair, ?_⟩
    rw [htasks, Function.update_self]

/-- A task that starts does nothing to the cache but its `get`. -/
theorem cache_of_start {m m' : Machine V ε} {now : ℚ} {i : ℕ} {kind key : String}
    (h : m.step (now, .start i kind key) = some m') :
    m'.cache = (m.cache.get now kind key).2 := by
  cases (step_cases h).2.2 with
  | hit _ _ _ _ _ _ hcache _ => exact hcache
  | miss _ _ _ _ _ hcache _ => exact hcache

/-! ### The invariant -/

/-- What holds in every state a run leads to. -/
structure Inv (actions : List (ℚ × Action V ε)) (m : Machine V ε) : Prop where
  /-- The actions started a task once, with its pair. -/
  named : ∀ i task, m.tasks i = some task →
    (∃ t, (t, .start i task.pair.1 task.pair.2) ∈ actions) ∧
      ∀ t kind key, (t, .start i kind key) ∈ actions → task.pair = (kind, key)
  /-- Nothing else started a task. -/
  unstarted : ∀ i, m.tasks i = none → ∀ t kind key, (t, .start i kind key) ∉ actions
  /-- An entry of the cache was stored by a completed task of its pair. -/
  stored : ∀ pair storedAt value, m.cache.data.lookup pair = some (storedAt, value) →
    ∃ j, m.tasks j = some (.fetched pair storedAt value)
  /-- A hit read what such a task had stored, within the TTL. -/
  hits : ∀ i pair readAt value, m.tasks i = some (.hit pair readAt value) →
    ∃ j storedAt ttl, m.tasks j = some (.fetched pair storedAt (some value)) ∧
      ttlSeconds pair.1 = some ttl ∧ storedAt ≤ readAt ∧ readAt - storedAt ≤ ttl
  /-- What a task returned from its own fetch is what its fetch gave. -/
  fetches : ∀ i pair storedAt value, m.tasks i = some (.fetched pair storedAt value) →
    (storedAt, .complete i (.ok value)) ∈ actions ∧ storedAt ≤ m.clock
  /-- A fetch that failed is what its task raised. -/
  raises : ∀ i t exc, (t, .complete i (.error exc)) ∈ actions →
    ∃ pair, m.tasks i = some (.raised pair exc)

theorem inv_init (maxEntries : ℕ) : Inv ([] : List (ℚ × Action V ε)) (init maxEntries) where
  named := by intro _ _ h; simp [init] at h
  unstarted := by intro _ _ _ _ _ h; cases h
  stored := by intro _ _ _ h; simp [init, TTLCache.new] at h
  hits := by intro _ _ _ _ h; simp [init] at h
  fetches := by intro _ _ _ _ h; simp [init] at h
  raises := by intro _ _ _ h; simp at h

/-- What a `get` hits was stored by a completed task, within the TTL. -/
theorem Inv.get {actions : List (ℚ × Action V ε)} {m : Machine V ε} {now : ℚ}
    (hinv : Inv actions m) (hle : m.clock ≤ now) {pair : CacheKey} {value : V}
    (hget : (m.cache.get now pair.1 pair.2).1 = some value) :
    ∃ j storedAt ttl, m.tasks j = some (.fetched pair storedAt (some value)) ∧
      ttlSeconds pair.1 = some ttl ∧ storedAt ≤ now ∧ now - storedAt ≤ ttl := by
  rw [TTLCache.get_fst, Option.bind_eq_some_iff] at hget
  obtain ⟨⟨storedAt, _⟩, hlive, rfl⟩ := hget
  obtain ⟨hlookup, ttl, httl, hage⟩ := TTLCache.live_eq_some_iff.mp hlive
  obtain ⟨j, hj⟩ := hinv.stored _ _ _ hlookup
  exact ⟨j, storedAt, ttl, hj, httl, (hinv.fetches _ _ _ _ hj).2.trans hle, hage⟩

/-- **Every action keeps the invariant.** -/
theorem Inv.step {actions : List (ℚ × Action V ε)} {m m' : Machine V ε} {now : ℚ}
    {action : Action V ε} (hinv : Inv actions m) (h : m.step (now, action) = some m') :
    Inv ((now, action) :: actions) m' := by
  have hkeep : ∀ {j pair t value}, m.tasks j = some (.fetched pair t value) →
      m'.tasks j = some (.fetched pair t value) :=
    fun hj => tasks_settled h hj (by simp [Task.result])
  obtain ⟨hle, hclock, -⟩ := step_cases h
  exact {
    named := fun i task htask => by
      rcases pair_of_step h htask with ⟨before, hbefore, hpair, hother⟩ | ⟨hnone, rfl⟩
      · obtain ⟨⟨t, hstart⟩, hall⟩ := hinv.named i before hbefore
        rw [hpair] at hstart hall
        refine ⟨⟨t, List.mem_cons_of_mem _ hstart⟩, fun t kind key hmem => ?_⟩
        rcases List.mem_cons.mp hmem with heq | hmem
        · exact absurd (Prod.mk.inj heq).2.symm (hother kind key)
        · exact hall t kind key hmem
      · refine ⟨⟨now, List.mem_cons_self⟩, fun t kind key hmem => ?_⟩
        rcases List.mem_cons.mp hmem with heq | hmem
        · obtain ⟨-, rfl, rfl⟩ := Action.start.inj (Prod.mk.inj heq).2
          rfl
        · exact absurd hmem (hinv.unstarted i hnone t kind key)
    unstarted := fun i hi t kind key hmem => by
      rcases List.mem_cons.mp hmem with heq | hmem
      · obtain ⟨rfl, rfl⟩ := Prod.mk.inj heq
        exact tasks_of_start h hi
      · exact hinv.unstarted i (unstarted_of_step h hi) t kind key hmem
    stored := fun pair storedAt value hentry => by
      rcases entry_of_step h hentry with ⟨hold, _⟩ | ⟨rfl, _, i, _, _, hi⟩
        -- A completed task stays as it is, so what it stored stays accounted for.
      · obtain ⟨j, hj⟩ := hinv.stored pair storedAt value hold
        exact ⟨j, hkeep hj⟩
      · exact ⟨i, hi⟩
    hits := fun i pair readAt value hi => by
      rcases hit_of_step h hi with hold | ⟨rfl, _, _, hget⟩
      · obtain ⟨j, storedAt, ttl, hj, hrest⟩ := hinv.hits i pair readAt value hold
        exact ⟨j, storedAt, ttl, hkeep hj, hrest⟩
      · obtain ⟨j, storedAt, ttl, hj, hrest⟩ := hinv.get hle hget
        exact ⟨j, storedAt, ttl, hkeep hj, hrest⟩
    fetches := fun i pair storedAt value hi => by
      rcases fetched_of_step h hi with hold | ⟨rfl, rfl, _⟩
      · obtain ⟨hmem, hat⟩ := hinv.fetches i pair storedAt value hold
        exact ⟨List.mem_cons_of_mem _ hmem, hclock ▸ hat.trans hle⟩
      · exact ⟨List.mem_cons_self, hclock.ge⟩
    raises := fun i t exc hmem => by
      rcases List.mem_cons.mp hmem with heq | hmem
      · obtain ⟨rfl, rfl⟩ := Prod.mk.inj heq
        exact (raised_of_step h).2
      · obtain ⟨pair, hi⟩ := hinv.raises i t exc hmem
        exact ⟨pair, tasks_settled h hi (by simp [Task.result])⟩ }

/-- **Every run has the invariant.** -/
theorem inv_runs {maxEntries : ℕ} {actions : List (ℚ × Action V ε)} {m : Machine V ε}
    (h : runs maxEntries actions = some m) : Inv actions m :=
  runFrom_invariant (inv_init maxEntries) (fun _ _ _ _ _ hinv hs => hinv.step hs) h

/-- What a task returned is from its own fetch, or from the entry that a completed task of the
    same pair stored no longer than the TTL before the read. -/
theorem Inv.result_origin {actions : List (ℚ × Action V ε)} {m : Machine V ε}
    (hinv : Inv actions m) {i : ℕ} {value : Option V}
    (hresult : (m.tasks i).bind Task.result = some (.ok value)) :
    (∃ t, (t, .complete i (.ok value)) ∈ actions) ∨
      ∃ pair readAt v, value = some v ∧ m.tasks i = some (.hit pair readAt v) ∧
        ∃ j storedAt ttl, m.tasks j = some (.fetched pair storedAt value) ∧
          (storedAt, .complete j (.ok value)) ∈ actions ∧ ttlSeconds pair.1 = some ttl ∧
          storedAt ≤ readAt ∧ readAt - storedAt ≤ ttl := by
  obtain ⟨task, hi, hresult⟩ := Option.bind_eq_some_iff.mp hresult
  cases task with
  | pending pair => cases hresult
  | raised pair exc => cases hresult
  | fetched pair storedAt v =>
    simp only [Task.result, Option.some.injEq, Except.ok.injEq] at hresult
    subst hresult
    exact .inl ⟨storedAt, (hinv.fetches _ _ _ _ hi).1⟩
  | hit pair readAt v =>
    simp only [Task.result, Option.some.injEq, Except.ok.injEq] at hresult
    subst hresult
    obtain ⟨j, storedAt, ttl, hj, httl, hbefore, hage⟩ := hinv.hits _ _ _ _ hi
    exact .inr ⟨pair, readAt, v, rfl, hi, j, storedAt, ttl, hj, (hinv.fetches _ _ _ _ hj).1,
      httl, hbefore, hage⟩

/-- A task that awaits its fetch keeps no other from starting. -/
theorem pending_lets_start {m : Machine V ε} {now : ℚ} (hclock : m.clock ≤ now) {i j : ℕ}
    {pair : CacheKey} (hi : m.tasks i = some (.pending pair)) (hj : m.tasks j = none)
    (kind key : String) :
    ∃ m', m.step (now, .start j kind key) = some m' ∧ m'.tasks i = some (.pending pair) := by
  obtain ⟨m', hs, -⟩ := step_start hclock hj kind key
  refine ⟨m', hs, ?_⟩
  rw [tasks_other hs, hi]
  · intro kind' key' heq
    obtain ⟨rfl, -⟩ := Action.start.inj heq
    rw [hi] at hj
    cases hj
  · intro outcome heq
    cases heq

/-- Nor from completing. -/
theorem pending_lets_complete {m : Machine V ε} {now : ℚ} (hclock : m.clock ≤ now) {i j : ℕ}
    {pair pair' : CacheKey} (hi : m.tasks i = some (.pending pair)) (hji : j ≠ i)
    (hj : m.tasks j = some (.pending pair')) (outcome : Except ε (Option V)) :
    ∃ m', m.step (now, .complete j outcome) = some m' ∧ m'.tasks i = some (.pending pair) := by
  have hs : ∃ m', m.step (now, .complete j outcome) = some m' := by
    cases outcome with
    | error exc => exact (step_complete_error hclock hj exc).imp fun m' hm => hm.1
    | ok value => exact (step_complete_ok hclock hj value).imp fun m' hm => hm.1
  obtain ⟨m', hs⟩ := hs
  refine ⟨m', hs, ?_⟩
  rw [tasks_other hs, hi]
  · intro kind key heq
    cases heq
  · intro outcome' heq
    exact hji (Action.complete.inj heq).1

/-- **Concurrent reads are safe**, in every interleaving.  A task that returns a value got it
    from its own fetch, or from the entry that a completed task of the same pair stored no
    longer than the TTL before the read.  A fetch that fails is what its task raises, and neither
    the start of a task nor its failure stores anything or takes away a live entry.  A task that
    awaits its fetch keeps no other from starting or completing.  The pair of a task is the one that
    its start named. -/
theorem concurrent_reads_safe {maxEntries : ℕ} {actions : List (ℚ × Action V ε)}
    {m : Machine V ε} (h : runs maxEntries actions = some m) :
    (∀ i value, (m.tasks i).bind Task.result = some (.ok value) →
      (∃ t, (t, .complete i (.ok value)) ∈ actions) ∨
      ∃ pair readAt v, value = some v ∧ m.tasks i = some (.hit pair readAt v) ∧
        ∃ j storedAt ttl, m.tasks j = some (.fetched pair storedAt value) ∧
          (storedAt, .complete j (.ok value)) ∈ actions ∧ ttlSeconds pair.1 = some ttl ∧
          storedAt ≤ readAt ∧ readAt - storedAt ≤ ttl) ∧
    (∀ i t exc, (t, .complete i (.error exc)) ∈ actions →
      (m.tasks i).bind Task.result = some (.error exc)) ∧
    (∀ now i exc m', m.step (now, .complete i (.error exc)) = some m' → m'.cache = m.cache) ∧
    (∀ now i kind key m', m.step (now, .start i kind key) = some m' →
      (∀ pair entry, m.cache.live now pair = some entry → m'.cache.live now pair = some entry) ∧
      ∀ pair entry, m'.cache.data.lookup pair = some entry →
        m.cache.data.lookup pair = some entry) ∧
    (∀ i pair now, m.tasks i = some (.pending pair) → m.clock ≤ now →
      (∀ j kind key, m.tasks j = none →
        ∃ m', m.step (now, .start j kind key) = some m' ∧ m'.tasks i = some (.pending pair)) ∧
      ∀ j pair' outcome, j ≠ i → m.tasks j = some (.pending pair') →
        ∃ m', m.step (now, .complete j outcome) = some m' ∧
          m'.tasks i = some (.pending pair)) ∧
    (∀ i task, m.tasks i = some task →
      (∃ t, (t, .start i task.pair.1 task.pair.2) ∈ actions) ∧
        ∀ t kind key, (t, .start i kind key) ∈ actions → task.pair = (kind, key)) := by
  have hinv := inv_runs h
  refine ⟨?_, ?_, ?_, ?_, ?_, hinv.named⟩
  · intro i value hresult
    exact hinv.result_origin hresult
  · intro i t exc hmem
    obtain ⟨pair, hi⟩ := hinv.raises i t exc hmem
    rw [hi]
    rfl
  · intro now i exc m' hs
    exact (raised_of_step hs).1
  · intro now i kind key m' hs
    rw [cache_of_start hs]
    constructor
    · intro pair entry hlive
      exact TTLCache.live_get kind key hlive
    · intro pair entry hentry
      exact TTLCache.lookup_of_lookup_get hentry
  · intro i pair now hi hclock
    constructor
    · intro j kind key hj
      exact pending_lets_start hclock hi hj kind key
    · intro j pair' outcome hji hj
      exact pending_lets_complete hclock hi hji hj outcome

/-- Two tasks miss on one asset; the fetch of the second fails, that of the first comes back,
    and a third task hits what it stored. -/
def sampleRun : List (ℚ × Action ℕ String) :=
  [(3, .start 2 "asset" "1"), (2, .complete 0 (.ok (some 5))), (2, .complete 1 (.error "503")),
    (1, .start 1 "asset" "1"), (0, .start 0 "asset" "1")]

/-- In the sample run the second task raises what its fetch raised, and the third got its value
    from the first. -/
theorem sampleRun_safe : ∃ m, runs 4 sampleRun = some m ∧
    (m.tasks 1).bind Task.result = some (.error "503") ∧
    ∃ pair readAt v, some 5 = some v ∧ m.tasks 2 = some (.hit pair readAt v) ∧
      ∃ j storedAt ttl, m.tasks j = some (.fetched pair storedAt (some 5)) ∧
        (storedAt, .complete j (.ok (some 5))) ∈ sampleRun ∧ ttlSeconds pair.1 = some ttl ∧
        storedAt ≤ readAt ∧ readAt - storedAt ≤ ttl := by
  have hrun : (runs 4 sampleRun).isSome := by decide +kernel
  have hthird : ((runs 4 sampleRun).bind fun m => (m.tasks 2).bind Task.result)
      = some (.ok (some 5)) := by decide +kernel
  obtain ⟨m, hm⟩ := Option.isSome_iff_exists.mp hrun
  rw [hm, Option.bind_some] at hthird
  obtain ⟨hresults, hraises, -⟩ := concurrent_reads_safe hm
  refine ⟨m, hm, hraises 1 2 "503" (by simp [sampleRun]), ?_⟩
  -- No fetch of the third task ever came back.
  rcases hresults 2 (some 5) hthird with ⟨t, hmem⟩ | hhit
  · simp [sampleRun] at hmem
  · exact hhit

end Machine

end Algorandscout
