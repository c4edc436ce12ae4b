import Mathlib.Data.Set.Insert
import Mathlib.Logic.Function.Basic
import Mathlib.Order.Defs.LinearOrder
import Algorandscout.Library.Courses
import Algorandscout.Library.Runs

namespace Algorandscout.Library

/-!
# Programs on an event loop

Programs that share a state.  Some of their operations are answered at once, from the state; the
others are awaited, and whatever awaits leaves the loop to the other programs.

* `Program.advance` — a program up to its next await;
* `Program.Follows` — what each operation at once has to do with the last answer awaited;
* `System`, `EventLoop`, `System.step` — tasks that start, await and go on, in any order;
* `System.taskInv_of_run` — a task has taken a part of a course of its program;
* `System.Keeps.run` — what every operation keeps holds along every run.
-/

namespace Program

variable {Op : Type} {Answer : Op → Type} {ε α β State : Type}

/-! ### Up to the next await -/

/-- `p` up to the first operation that is awaited; the others are answered from the state. -/
def advance (awaited : Op → Bool) (env : (op : Op) → State → Answer op × State) :
    Program Answer ε α → State → Log Answer × Program Answer ε α × State
  | done result, s => ([], done result, s)
  | perform op next, s =>
    if awaited op then ([], perform op next, s)
    else
      let (answer, s') := env op s
      let (log, rest, s'') := (next answer).advance awaited env s'
      (⟨op, answer⟩ :: log, rest, s'')

variable {awaited : Op → Bool} {env : (op : Op) → State → Answer op × State}

theorem advance_perform_of_awaited {op : Op} (h : awaited op = true)
    (next : Answer op → Program Answer ε α) (s : State) :
    (perform op next).advance awaited env s = ([], perform op next, s) := by
  rw [advance, if_pos h]

theorem advance_perform_at_once {op : Op} (h : awaited op = false)
    (next : Answer op → Program Answer ε α) (s : State) :
    (perform op next).advance awaited env s =
      let advanced := (next (env op s).1).advance awaited env (env op s).2
      (⟨op, (env op s).1⟩ :: advanced.1, advanced.2.1, advanced.2.2) := by
  rw [advance, h]
  rfl

theorem reaches_advance (p : Program Answer ε α) (s : State) :
    Reaches p (p.advance awaited env s).1 (p.advance awaited env s).2.1 := by
  induction p generalizing s with
  | done result => exact .here _
  | perform op next ih =>
    cases hop : awaited op with
    | true =>
      rw [advance_perform_of_awaited hop]
      exact .here _
    | false =>
      rw [advance_perform_at_once hop]
      exact .perform (ih (env op s).1 (env op s).2)

/-- It stops only where it awaits, or at its end. -/
theorem awaited_of_advance {p : Program Answer ε α} {s : State} {op : Op}
    {next : Answer op → Program Answer ε α}
    (h : (p.advance awaited env s).2.1 = perform op next) : awaited op = true := by
  induction p generalizing s with
  | done result => cases h
  | perform op' next' ih =>
    cases hop : awaited op' with
    | true =>
      rw [advance_perform_of_awaited hop] at h
      cases h
      exact hop
    | false =>
      rw [advance_perform_at_once hop] at h
      exact ih _ h

/-! ### Operations after the last answer -/

/-- Each operation at once is related by `R` to the last answer that was awaited, if any. -/
def Follows (awaited : Op → Bool) (R : Option (Entry Answer) → Entry Answer → Prop) :
    Program Answer ε α → Option (Entry Answer) → Prop
  | done _, _ => True
  | perform op next, last => ∀ answer,
    if awaited op then (next answer).Follows awaited R (some ⟨op, answer⟩)
    else R last ⟨op, answer⟩ ∧ (next answer).Follows awaited R last

variable {R : Option (Entry Answer) → Entry Answer → Prop} {last : Option (Entry Answer)}

theorem Follows.pure (a : α) :
    Follows awaited R (Pure.pure a : Program Answer ε α) last := trivial

theorem Follows.raise (e : ε) :
    Follows awaited R (Program.raise e : Program Answer ε α) last := trivial

theorem Follows.ofExcept (x : Except ε α) :
    Follows awaited R (Program.ofExcept x : Program Answer ε α) last := trivial

theorem Follows.bind {p : Program Answer ε β} {f : β → Program Answer ε α}
    (hp : Follows awaited R p last) (hf : ∀ b last, Follows awaited R (f b) last) :
    Follows awaited R (p >>= f) last := by
  induction p generalizing last with
  | done result =>
    cases result with
    | ok b => exact hf b last
    | error e => trivial
  | perform op next ih =>
    intro answer
    have hnext := hp answer
    split_ifs at hnext ⊢ with hop
    · exact ih answer hnext
    · exact ⟨hnext.1, ih answer hnext.2⟩

/-- A step that performs nothing, then the rest. -/
theorem Follows.ofExcept_bind {x : Except ε β} {f : β → Program Answer ε α}
    (hf : ∀ b, Follows awaited R (f b) last) :
    Follows awaited R (Program.ofExcept x >>= f) last := by
  cases x with
  | ok b => exact hf b
  | error e => trivial

theorem Follows.map {p : Program Answer ε β} {f : β → α} (hp : Follows awaited R p last) :
    Follows awaited R (f <$> p) last :=
  Follows.bind hp fun b _ => Follows.pure (f b)

theorem Follows.perform {op : Op} (hop : awaited op = true)
    {next : Answer op → Program Answer ε α}
    (hnext : ∀ answer, Follows awaited R (next answer) (some ⟨op, answer⟩)) :
    Follows awaited R (Program.perform op next) last := by
  intro answer
  rw [if_pos hop]
  exact hnext answer

theorem Follows.of_perform {op : Op} (hop : awaited op = true)
    {next : Answer op → Program Answer ε α}
    (h : Follows awaited R (Program.perform op next) last) (answer : Answer op) :
    Follows awaited R (next answer) (some ⟨op, answer⟩) := by
  have hnext := h answer
  rwa [if_pos hop] at hnext

/-- An awaited operation, and what is done with its answer. -/
theorem Follows.ask_bind {op : Op} (hop : awaited op = true) {f : Answer op → Program Answer ε α}
    (hf : ∀ answer, Follows awaited R (f answer) (some ⟨op, answer⟩)) :
    Follows awaited R (Program.ask op >>= f) last :=
  Follows.perform hop hf

/-- An operation at once, and what is done with its answer. -/
theorem Follows.ask_at_once_bind {op : Op} (hop : awaited op = false)
    {f : Answer op → Program Answer ε α} (hR : ∀ answer, R last ⟨op, answer⟩)
    (hf : ∀ answer, Follows awaited R (f answer) last) :
    Follows awaited R (Program.ask op >>= f) last := by
  intro answer
  rw [hop]
  exact ⟨hR answer, hf answer⟩

/-- A relation that always holds. -/
theorem Follows.of_forall (hR : ∀ last entry, R last entry) (p : Program Answer ε α)
    (last : Option (Entry Answer)) : Follows awaited R p last := by
  induction p generalizing last with
  | done result => trivial
  | perform op next ih =>
    intro answer
    split_ifs with hop
    · exact ih answer _
    · exact ⟨hR last _, ih answer last⟩

theorem Follows.advance {p : Program Answer ε α} (h : Follows awaited R p last) (s : State) :
    Follows awaited R (p.advance awaited env s).2.1 last := by
  induction p generalizing s with
  | done result => trivial
  | perform op next ih =>
    cases hop : awaited op with
    | true =>
      rw [advance_perform_of_awaited hop]
      exact h
    | false =>
      rw [advance_perform_at_once hop]
      have hnext := h (env op s).1
      rw [hop] at hnext
      exact ih _ hnext.2 _

/-- What each operation at once keeps, `advance` keeps. -/
theorem Follows.advance_induction {P : Log Answer → State → Prop} {p : Program Answer ε α}
    (h : Follows awaited R p last)
    (hstep : ∀ log s op, awaited op = false → R last ⟨op, (env op s).1⟩ → P log s →
      P (log ++ [⟨op, (env op s).1⟩]) (env op s).2)
    {before : Log Answer} {s : State} (hP : P before s) :
    P (before ++ (p.advance awaited env s).1) (p.advance awaited env s).2.2 := by
  induction p generalizing before s with
  | done result =>
    rw [Program.advance, List.append_nil]
    exact hP
  | perform op next ih =>
    cases hop : awaited op with
    | true =>
      rw [advance_perform_of_awaited hop, List.append_nil]
      exact hP
    | false =>
      rw [advance_perform_at_once hop]
      have hnext := h (env op s).1
      rw [hop] at hnext
      have hrest := ih _ hnext.2 (hstep before s op hop hnext.1 hP)
      rwa [List.append_assoc, List.singleton_append] at hrest

-- What follows goes by these rules.
attribute [irreducible] Follows

end Program

open Program

/-! ### The loop -/

/-- The programs that requests run, and what answers their operations at a time: those that are
    awaited are answered from outside. -/
structure System {Op : Type} (Answer : Op → Type) (ε α State Time Request : Type) where
  program : Request → Program Answer ε α
  awaited : Op → Bool
  env : Time → (op : Op) → State → Answer op × State

/-- The task of a request: what it has performed, and when, and what is left of its program. -/
structure LoopTask {Op : Type} (Answer : Op → Type) (ε α Time Request : Type) where
  request : Request
  startedAt : Time
  log : List (Time × Entry Answer)
  rest : Program Answer ε α

/-- The shared state, the tasks started so far, and the time of the last event. -/
structure EventLoop {Op : Type} (Answer : Op → Type) (ε α State Time Request : Type) where
  shared : State
  tasks : ℕ → Option (LoopTask Answer ε α Time Request)
  clock : Time

/-- What can happen next. -/
inductive LoopEvent {Op : Type} (Answer : Op → Type) (Request : Type) where
  | start (task : ℕ) (request : Request)
  /-- The task goes on with the answer to the operation that it awaits. -/
  | resume (task : ℕ) (answer : (op : Op) → Answer op)

namespace System

variable {Op : Type} {Answer : Op → Type} {ε α State Time Request : Type} [LinearOrder Time]

/-- Task `i` goes on as `task`, up to its next await. -/
def proceed (sys : System Answer ε α State Time Request)
    (l : EventLoop Answer ε α State Time Request) (now : Time) (i : ℕ)
    (task : LoopTask Answer ε α Time Request) : EventLoop Answer ε α State Time Request :=
  let advanced := task.rest.advance sys.awaited (sys.env now) l.shared
  { shared := advanced.2.2
    tasks := Function.update l.tasks i (some { task with
      log := task.log ++ advanced.1.map fun entry => (now, entry)
      rest := advanced.2.1 })
    clock := now }

/-- The task of a request that starts. -/
def started (sys : System Answer ε α State Time Request) (now : Time) (request : Request) :
    LoopTask Answer ε α Time Request :=
  ⟨request, now, [], sys.program request⟩

/-- One event at time `now`; `none` when it is not possible. -/
def step (sys : System Answer ε α State Time Request)
    (l : EventLoop Answer ε α State Time Request) (timed : Time × LoopEvent Answer Request) :
    Option (EventLoop Answer ε α State Time Request) :=
  let (now, event) := timed
  if now < l.clock then none
  else
    match event with
    | .start i request =>
      match l.tasks i with
      | some _ => none
      | none => some (sys.proceed l now i (sys.started now request))
    | .resume i answer =>
      match l.tasks i with
      | none => none
      | some task =>
        match task.rest with
        | .done _ => none
        | .perform op next => some (sys.proceed l now i { task with
            log := task.log ++ [(now, ⟨op, answer op⟩)]
            rest := next (answer op) })

/-- No task yet. -/
def init (s : State) (clock : Time) : EventLoop Answer ε α State Time Request :=
  ⟨s, fun _ => none, clock⟩

/-- Everything performed so far. -/
def performed (l : EventLoop Answer ε α State Time Request) : Set (Time × Entry Answer) :=
  {entry | ∃ i task, l.tasks i = some task ∧ entry ∈ task.log}

variable {sys : System Answer ε α State Time Request}
  {l l' : EventLoop Answer ε α State Time Request} {now : Time}

/-- The ways an event may go. -/
inductive StepCase (sys : System Answer ε α State Time Request)
    (l l' : EventLoop Answer ε α State Time Request) (now : Time) : Prop where
  | start (i : ℕ) (request : Request) (free : l.tasks i = none)
      (eq : l' = sys.proceed l now i (sys.started now request))
  | resume (i : ℕ) (task : LoopTask Answer ε α Time Request) (op : Op)
      (next : Answer op → Program Answer ε α) (answer : Answer op)
      (found : l.tasks i = some task) (awaits : task.rest = .perform op next)
      (eq : l' = sys.proceed l now i { task with
        log := task.log ++ [(now, ⟨op, answer⟩)]
        rest := next answer })

/-- **What an event can do.** -/
theorem step_cases {event : LoopEvent Answer Request} (h : sys.step l (now, event) = some l') :
    l.clock ≤ now ∧ StepCase sys l l' now := by
  unfold step at h
  by_cases hclock : now < l.clock
  · simp [hclock] at h
  simp only [hclock, ↓reduceIte] at h
  refine ⟨not_lt.mp hclock, ?_⟩
  cases event with
  | start i request =>
    cases htask : l.tasks i with
    | some task => simp [htask] at h
    | none =>
      simp only [htask, Option.some.injEq] at h
      exact .start i request htask h.symm
  | resume i answer =>
    cases htask : l.tasks i with
    | none => simp [htask] at h
    | some task =>
      cases hrest : task.rest with
      | done result => simp [htask, hrest] at h
      | perform op next =>
        simp only [htask, hrest, Option.some.injEq] at h
        exact .resume i task op next (answer op) htask hrest h.symm

/-! ### Tasks -/

/-- Where a task is, at time `clock`. -/
structure TaskInv (sys : System Answer ε α State Time Request) (clock : Time)
    (task : LoopTask Answer ε α Time Request) : Prop where
  reaches : Reaches (sys.program task.request) (task.log.map Prod.snd) task.rest
  awaits : ∀ op next, task.rest = .perform op next → sys.awaited op = true
  started : task.startedAt ≤ clock
  times : ∀ entry ∈ task.log, task.startedAt ≤ entry.1 ∧ entry.1 ≤ clock

theorem TaskInv.mono {clock : Time} {task : LoopTask Answer ε α Time Request}
    (h : TaskInv sys clock task) (hle : clock ≤ now) : TaskInv sys now task where
  reaches := h.reaches
  awaits := h.awaits
  started := h.started.trans hle
  times entry hentry := ⟨(h.times entry hentry).1, (h.times entry hentry).2.trans hle⟩

/-- The task after it went on from a point its program can reach. -/
theorem taskInv_proceed {i : ℕ} (task : LoopTask Answer ε α Time Request)
    (hreaches : Reaches (sys.program task.request) (task.log.map Prod.snd) task.rest)
    (hstarted : task.startedAt ≤ now)
    (htimes : ∀ entry ∈ task.log, task.startedAt ≤ entry.1 ∧ entry.1 ≤ now)
    {task' : LoopTask Answer ε α Time Request}
    (h : (sys.proceed l now i task).tasks i = some task') : TaskInv sys now task' := by
  obtain rfl := Option.some.inj ((Function.update_self i _ l.tasks).symm.trans h)
  refine ⟨?_, fun op next => awaited_of_advance, hstarted, ?_⟩
  · rw [List.map_append, List.map_map, Function.comp_def, List.map_id']
    exact hreaches.trans (reaches_advance task.rest l.shared)
  · intro entry hentry
    rcases List.mem_append.mp hentry with hold | hnew
    · exact htimes entry hold
    · obtain ⟨performed, -, rfl⟩ := List.mem_map.mp hnew
      exact ⟨hstarted, le_rfl⟩

/-- **Every event keeps the tasks where they can be.** -/
theorem taskInv_step {event : LoopEvent Answer Request}
    (hinv : ∀ i task, l.tasks i = some task → TaskInv sys l.clock task)
    (h : sys.step l (now, event) = some l') :
    ∀ i task, l'.tasks i = some task → TaskInv sys l'.clock task := by
  obtain ⟨hle, hcase⟩ := step_cases h
  intro j task' htask'
  -- The other tasks are as they were.
  have hother : ∀ {i task}, l' = sys.proceed l now i task → j ≠ i → TaskInv sys now task' := by
    rintro i task rfl hne
    have hold : l.tasks j = some task' := (Function.update_of_ne hne _ l.tasks).symm.trans htask'
    exact (hinv j task' hold).mono hle
  cases hcase with
  | start i request free heq =>
    have hclock : l'.clock = now := by rw [heq]; rfl
    rw [hclock]
    by_cases hij : j = i
    · subst hij heq
      exact taskInv_proceed _ (.here _) le_rfl (fun _ hentry => absurd hentry List.not_mem_nil)
        htask'
    · exact hother heq hij
  | resume i task op next answer found awaits heq =>
    have hclock : l'.clock = now := by rw [heq]; rfl
    rw [hclock]
    by_cases hij : j = i
    · subst hij heq
      have hold := (hinv j task found).mono hle
      refine taskInv_proceed { task with
        log := task.log ++ [(now, ⟨op, answer⟩)]
        rest := next answer } ?_ hold.started ?_ htask'
      · have hreaches := hold.reaches
        rw [awaits] at hreaches
        rw [List.map_append]
        exact hreaches.trans (.perform (.here _))
      · intro entry hentry
        rcases List.mem_append.mp hentry with hentry | hentry
        · exact hold.times entry hentry
        · obtain rfl := List.mem_singleton.mp hentry
          exact ⟨hold.started, le_rfl⟩
    · exact hother heq hij

/-- **A task has taken a part of a course of its program.** -/
theorem taskInv_of_run {s : State} {clock : Time} {events : List (Time × LoopEvent Answer Request)}
    (h : runFrom sys.step (init s clock) events = some l) :
    ∀ i task, l.tasks i = some task → TaskInv sys l.clock task := by
  refine runFrom_invariant
    (P := fun _ l => ∀ i task, l.tasks i = some task → TaskInv sys l.clock task) ?_ ?_ h
  · intro i task htask
    cases htask
  · intro _ _ _ _ _ hinv hstep
    exact taskInv_step hinv hstep

/-! ### The shared state -/

/-- What every operation has to keep of the shared state and of what has been performed. -/
structure Keeps (sys : System Answer ε α State Time Request)
    (R : Option (Entry Answer) → Entry Answer → Prop)
    (Inv : Set (Time × Entry Answer) → State → Prop) : Prop where
  follows : ∀ request, Follows sys.awaited R (sys.program request) none
  answered : ∀ {L s now op}, sys.awaited op = true → (∀ entry ∈ L, entry.1 ≤ now) → Inv L s →
    ∀ answer, Inv (insert (now, ⟨op, answer⟩) L) s
  /-- What is performed at once comes right after the last answer awaited. -/
  at_once : ∀ {L s now op last}, sys.awaited op = false → (∀ entry ∈ L, entry.1 ≤ now) →
    Inv L s → R last ⟨op, (sys.env now op s).1⟩ → (∀ entry, last = some entry → (now, entry) ∈ L) →
    Inv (insert (now, ⟨op, (sys.env now op s).1⟩) L) (sys.env now op s).2

omit [LinearOrder Time] in
/-- The entries of the tasks before, and those of the task that an event goes on with. -/
theorem performed_of_update {i : ℕ} {task : LoopTask Answer ε α Time Request}
    (htasks : l'.tasks = Function.update l.tasks i (some task))
    (hold : ∀ old, l.tasks i = some old → ∀ entry ∈ old.log, entry ∈ task.log) :
    performed l' = performed l ∪ {entry | entry ∈ task.log} := by
  ext entry
  constructor
  · rintro ⟨j, found, hfound, hentry⟩
    rw [htasks, Function.update_apply] at hfound
    split_ifs at hfound with hij
    · obtain rfl := Option.some.inj hfound
      exact .inr hentry
    · exact .inl ⟨j, found, hfound, hentry⟩
  · rintro (⟨j, found, hfound, hentry⟩ | hentry)
    · by_cases hij : j = i
      · subst hij
        exact ⟨j, task, by rw [htasks, Function.update_self], hold found hfound entry hentry⟩
      · exact ⟨j, found, by rw [htasks, Function.update_of_ne hij, hfound], hentry⟩
    · exact ⟨i, task, by rw [htasks, Function.update_self], hentry⟩

variable {R : Option (Entry Answer) → Entry Answer → Prop}
  {Inv : Set (Time × Entry Answer) → State → Prop}

/-- A task that goes on keeps the invariant. -/
theorem Keeps.proceed (keeps : Keeps sys R Inv) {i : ℕ}
    (task : LoopTask Answer ε α Time Request) {last : Option (Entry Answer)}
    (hfollows : Follows sys.awaited R task.rest last)
    (hold : ∀ old, l.tasks i = some old → ∀ entry ∈ old.log, entry ∈ task.log)
    (htimes : ∀ entry ∈ performed l ∪ {entry | entry ∈ task.log}, entry.1 ≤ now)
    (hlast : ∀ entry, last = some entry → (now, entry) ∈ task.log)
    (hinv : Inv (performed l ∪ {entry | entry ∈ task.log}) l.shared) :
    Inv (performed (sys.proceed l now i task)) (sys.proceed l now i task).shared := by
  let advanced := task.rest.advance sys.awaited (sys.env now) l.shared
  have htasks : (sys.proceed l now i task).tasks = Function.update l.tasks i (some { task with
      log := task.log ++ advanced.1.map fun entry => (now, entry)
      rest := advanced.2.1 }) := rfl
  rw [performed_of_update htasks fun old hfound entry hentry =>
    List.mem_append_left _ (hold old hfound entry hentry)]
  -- One operation at once after the other.
  have hstep : ∀ log s op, sys.awaited op = false → R last ⟨op, (sys.env now op s).1⟩ →
      Inv (performed l ∪ {entry | entry ∈ task.log ++ log.map fun entry => (now, entry)}) s →
      Inv (performed l ∪ {entry | entry ∈ task.log ++
        (log ++ [⟨op, (sys.env now op s).1⟩]).map fun entry => (now, entry)})
        (sys.env now op s).2 := by
    intro log s op hop hR hlog
    have hinsert := keeps.at_once hop ?_ hlog hR ?_
    · convert hinsert using 1
      ext entry
      simp only [List.map_append, List.mem_append, Set.mem_union, Set.mem_ofPred_eq, List.map_cons,
        List.map_nil, List.mem_singleton, Set.mem_insert_iff]
      tauto
    · rintro entry (hentry | hentry)
      · exact htimes entry (.inl hentry)
      · rcases List.mem_append.mp hentry with hentry | hentry
        · exact htimes entry (.inr hentry)
        · obtain ⟨performed, -, rfl⟩ := List.mem_map.mp hentry
          exact le_rfl
    · intro entry hentry
      exact .inr (List.mem_append_left _ (hlast entry hentry))
  have hbefore : Inv (performed l ∪ {entry | entry ∈ task.log ++
      ([] : Log Answer).map fun entry => (now, entry)}) l.shared := by
    rwa [List.map_nil, List.append_nil]
  exact hfollows.advance_induction hstep hbefore

/-- The shared state and the tasks, along a run. -/
structure LoopInv (sys : System Answer ε α State Time Request)
    (R : Option (Entry Answer) → Entry Answer → Prop)
    (Inv : Set (Time × Entry Answer) → State → Prop)
    (l : EventLoop Answer ε α State Time Request) : Prop where
  shared : Inv (performed l) l.shared
  tasks : ∀ i task, l.tasks i = some task → TaskInv sys l.clock task
  follows : ∀ i task, l.tasks i = some task → ∃ last, Follows sys.awaited R task.rest last

theorem LoopInv.times (h : LoopInv sys R Inv l) : ∀ entry ∈ performed l, entry.1 ≤ l.clock := by
  rintro entry ⟨i, task, htask, hentry⟩
  exact ((h.tasks i task htask).times entry hentry).2

omit [LinearOrder Time] in
/-- The tasks after one of them went on are followed as before. -/
theorem follows_proceed {i : ℕ} {task : LoopTask Answer ε α Time Request}
    {last : Option (Entry Answer)} (hfollows : Follows sys.awaited R task.rest last)
    (hothers : ∀ j found, l.tasks j = some found → ∃ last, Follows sys.awaited R found.rest last)
    {j : ℕ} {found : LoopTask Answer ε α Time Request}
    (hfound : (sys.proceed l now i task).tasks j = some found) :
    ∃ last, Follows sys.awaited R found.rest last := by
  by_cases hij : j = i
  · subst hij
    obtain rfl := Option.some.inj ((Function.update_self j _ l.tasks).symm.trans hfound)
    exact ⟨last, hfollows.advance l.shared⟩
  · exact hothers j found ((Function.update_of_ne hij _ l.tasks).symm.trans hfound)

/-- **Every event keeps the invariant.** -/
theorem Keeps.step (keeps : Keeps sys R Inv) {event : LoopEvent Answer Request}
    (hinv : LoopInv sys R Inv l) (h : sys.step l (now, event) = some l') :
    LoopInv sys R Inv l' := by
  have htasks := taskInv_step hinv.tasks h
  obtain ⟨hle, hcase⟩ := step_cases h
  have hbefore : ∀ entry ∈ performed l, entry.1 ≤ now := fun entry hentry =>
    (hinv.times entry hentry).trans hle
  cases hcase with
  | start i request free heq =>
    have hfollows := keeps.follows request
    have hnone : performed l ∪ {entry | entry ∈ (sys.started now request).log} = performed l := by
      simp [started]
    subst heq
    refine ⟨?_, htasks, fun j found => follows_proceed hfollows hinv.follows⟩
    refine keeps.proceed (sys.started now request) hfollows ?_ ?_ (fun _ h => nomatch h) ?_
    · intro old hfound
      rw [free] at hfound
      cases hfound
    · rwa [hnone]
    · rw [hnone]
      exact hinv.shared
  | resume i task op next answer found awaits heq =>
    have hop := (hinv.tasks i task found).awaits op next awaits
    obtain ⟨last, hrest⟩ := hinv.follows i task found
    have hfollows : Follows sys.awaited R (next answer) (some ⟨op, answer⟩) := by
      rw [awaits] at hrest
      exact hrest.of_perform hop answer
    have hinsert : performed l ∪ {entry | entry ∈ task.log ++ [(now, ⟨op, answer⟩)]} =
        insert (now, ⟨op, answer⟩) (performed l) := by
      ext entry
      have hold : entry ∈ task.log → entry ∈ performed l := fun hentry => ⟨i, task, found, hentry⟩
      simp only [Set.mem_union, Set.mem_ofPred_eq, List.mem_append, List.mem_singleton,
        Set.mem_insert_iff]
      tauto
    subst heq
    refine ⟨?_, htasks, fun j found => follows_proceed hfollows hinv.follows⟩
    refine keeps.proceed { task with
      log := task.log ++ [(now, ⟨op, answer⟩)]
      rest := next answer } hfollows ?_ ?_ ?_ ?_
    · intro old hold entry hentry
      obtain rfl := Option.some.inj (found.symm.trans hold)
      exact List.mem_append_left _ hentry
    · rw [hinsert]
      rintro entry (rfl | hentry)
      · exact le_rfl
      · exact hbefore entry hentry
    · rintro entry heq
      obtain rfl := Option.some.inj heq
      exact List.mem_append_right _ (List.mem_singleton_self _)
    · rw [hinsert]
      exact keeps.answered hop hbefore hinv.shared answer

/-- **What every operation keeps holds along every run.** -/
theorem Keeps.run (keeps : Keeps sys R Inv) {s : State} {clock : Time} (hinit : Inv ∅ s)
    {events : List (Time × LoopEvent Answer Request)}
    (h : runFrom sys.step (init s clock) events = some l) : LoopInv sys R Inv l := by
  refine runFrom_invariant (P := fun _ l => LoopInv sys R Inv l) ?_ ?_ h
  · refine ⟨?_, fun i task htask => ?_, fun i task htask => ?_⟩
    · have hnone : performed (init s clock : EventLoop Answer ε α State Time Request) = ∅ := by
        refine Set.eq_empty_of_forall_notMem ?_
        rintro entry ⟨i, task, htask, -⟩
        cases htask
      rw [hnone]
      exact hinit
    · cases htask
    · cases htask
  · intro _ _ _ _ _ hinv hstep
    exact keeps.step hinv hstep

end System

end Algorandscout.Library
