import Algorandscout.Library.EventLoop

namespace Algorandscout.Library

open Program

/-!
# Runs of an event loop as sequential histories

Between two awaits a program has the shared state for itself, so that a run, however its programs
take turns, did its operations one after the other.

* `Replays` — a history of operations, one after the other, from a state to another;
* `exists_linearization` — every run is such a history of all that was performed, in the order of
  time;
* `Replays.answered_from` — an operation at once was answered from the state that the history
  before it leads to;
* `first_of_run` — what a task performs first, unless it awaits it, it performs when it starts.
-/

namespace System

variable {Op : Type} {Answer : Op → Type} {ε α State Time Request : Type}

/-- The operations of the history, latest first, lead from `s₀` to `s`: what is awaited leaves the
    state as it is, and what is done at once is answered from it. -/
inductive Replays (sys : System Answer ε α State Time Request) (s₀ : State) :
    List (Time × Entry Answer) → State → Prop
  | nil : Replays sys s₀ [] s₀
  | answered {history : List (Time × Entry Answer)} {s : State} {now : Time} {op : Op}
      (earlier : Replays sys s₀ history s) (awaited : sys.awaited op = true) (answer : Answer op) :
      Replays sys s₀ ((now, ⟨op, answer⟩) :: history) s
  | at_once {history : List (Time × Entry Answer)} {s : State} {now : Time} {op : Op}
      (earlier : Replays sys s₀ history s) (at_once : sys.awaited op = false) :
      Replays sys s₀ ((now, ⟨op, (sys.env now op s).1⟩) :: history) (sys.env now op s).2

variable {sys : System Answer ε α State Time Request} {s₀ s : State}
  {history : List (Time × Entry Answer)} {now : Time}

/-- **Answers.** An operation at once was answered from what the history before it leads to. -/
theorem Replays.answered_from {later earlier : List (Time × Entry Answer)} {op : Op}
    {answer : Answer op}
    (h : Replays sys s₀ (later ++ (now, ⟨op, answer⟩) :: earlier) s)
    (hop : sys.awaited op = false) :
    ∃ before, Replays sys s₀ earlier before ∧ answer = (sys.env now op before).1 := by
  induction later generalizing s with
  | nil =>
    cases h with
    | answered _ awaited _ =>
      rw [hop] at awaited
      cases awaited
    | at_once earlier _ => exact ⟨_, earlier, rfl⟩
  | cons entry later ih =>
    cases h with
    | answered earlier _ _ => exact ih earlier
    | at_once earlier _ => exact ih earlier

variable [LinearOrder Time]

/-- The history is one of what `L` has, from `s₀` to `s`, and never goes back in time. -/
structure Linearizes (sys : System Answer ε α State Time Request) (s₀ : State)
    (history : List (Time × Entry Answer)) (L : Set (Time × Entry Answer)) (s : State) : Prop where
  replays : Replays sys s₀ history s
  chronological : history.Pairwise fun after before => before.1 ≤ after.1
  performs : ∀ entry, entry ∈ history ↔ entry ∈ L

variable {L : Set (Time × Entry Answer)}

/-- One more operation, after all others. -/
theorem Linearizes.insert (h : Linearizes sys s₀ history L s) {s' : State} {entry : Entry Answer}
    (hnow : ∀ before ∈ L, before.1 ≤ now)
    (hreplays : Replays sys s₀ ((now, entry) :: history) s') :
    Linearizes sys s₀ ((now, entry) :: history) (insert (now, entry) L) s' where
  replays := hreplays
  chronological := by
    refine List.pairwise_cons.mpr ⟨fun before hbefore => ?_, h.chronological⟩
    exact hnow before ((h.performs before).mp hbefore)
  performs found := by rw [List.mem_cons, Set.mem_insert_iff, h.performs]

/-- Every operation goes to the end of the history. -/
theorem linearizes_keeps (sys : System Answer ε α State Time Request) (s₀ : State) :
    Keeps sys (fun _ _ => True) fun L s => ∃ history, Linearizes sys s₀ history L s where
  follows request := Follows.of_forall (fun _ _ => trivial) _ _
  answered := by
    rintro L s now op hop hnow ⟨history, h⟩ answer
    exact ⟨_, h.insert hnow (.answered h.replays hop answer)⟩
  at_once := by
    rintro L s now op last hop hnow ⟨history, h⟩ - -
    exact ⟨_, h.insert hnow (.at_once h.replays hop)⟩

variable {l l' : EventLoop Answer ε α State Time Request} {clock : Time}
  {events : List (Time × LoopEvent Answer Request)}

/-- **Every run is a sequential history** of all that was performed in it. -/
theorem exists_linearization (h : runFrom sys.step (init s₀ clock) events = some l) :
    ∃ history, Linearizes sys s₀ history (performed l) l.shared := by
  have hnone : Linearizes sys s₀ [] ∅ s₀ := ⟨.nil, .nil, fun entry => by simp⟩
  exact ((linearizes_keeps sys s₀).run ⟨[], hnone⟩ h).shared

/-! ### The start of a task -/

/-- What the task performed first it performed when it started, unless it awaited it. -/
def StartsAtOnce (sys : System Answer ε α State Time Request)
    (task : LoopTask Answer ε α Time Request) : Prop :=
  ∀ t entry, task.log.head? = some (t, entry) → sys.awaited entry.1 = false → t = task.startedAt

omit [LinearOrder Time] in
/-- What goes on after its first operation has started as before. -/
theorem startsAtOnce_proceed {i : ℕ} {task task' : LoopTask Answer ε α Time Request}
    (hstarts : ∀ rest : List (Entry Answer), ∀ t entry,
      (task.log ++ rest.map fun entry => (now, entry)).head? = some (t, entry) →
        sys.awaited entry.1 = false → t = task.startedAt)
    (h : (sys.proceed l now i task).tasks i = some task') : StartsAtOnce sys task' := by
  obtain rfl := Option.some.inj ((Function.update_self i _ l.tasks).symm.trans h)
  exact hstarts _

/-- **Every event keeps the starts of the tasks.** -/
theorem startsAtOnce_step {event : LoopEvent Answer Request}
    (htasks : ∀ i task, l.tasks i = some task → TaskInv sys l.clock task)
    (hinv : ∀ i task, l.tasks i = some task → StartsAtOnce sys task)
    (h : sys.step l (now, event) = some l') :
    ∀ i task, l'.tasks i = some task → StartsAtOnce sys task := by
  obtain ⟨-, hcase⟩ := step_cases h
  intro j task' htask'
  -- The other tasks are as they were.
  have hother : ∀ {i task}, l' = sys.proceed l now i task → j ≠ i → StartsAtOnce sys task' := by
    rintro i task rfl hne
    exact hinv j task' ((Function.update_of_ne hne _ l.tasks).symm.trans htask')
  cases hcase with
  | start i request free heq =>
    by_cases hij : j = i
    · subst hij heq
      refine startsAtOnce_proceed (fun rest t entry hhead _ => ?_) htask'
      obtain ⟨first, -, hfirst⟩ := List.mem_map.mp (List.mem_of_head? hhead)
      exact (Prod.mk.inj hfirst).1.symm
    · exact hother heq hij
  | resume i task op next answer found awaits heq =>
    by_cases hij : j = i
    · subst hij heq
      refine startsAtOnce_proceed (fun rest t entry hhead hentry => ?_) htask'
      cases hlog : task.log with
      | nil =>
        -- The task had awaited its first operation.
        rw [hlog] at hhead
        obtain ⟨-, rfl⟩ := Prod.mk.inj (Option.some.inj hhead)
        have hop := (htasks j task found).awaits op next awaits
        rw [hentry] at hop
        cases hop
      | cons first later =>
        rw [hlog] at hhead
        refine hinv j task found t entry ?_ hentry
        rw [hlog]
        exact hhead
    · exact hother heq hij

/-- **What a task performs first**, unless it awaits it, it performs when it starts. -/
theorem first_of_run (h : runFrom sys.step (init s₀ clock) events = some l) {i : ℕ}
    {task : LoopTask Answer ε α Time Request} (htask : l.tasks i = some task) :
    StartsAtOnce sys task := by
  refine runFrom_invariant
    (P := fun _ l => ∀ i task, l.tasks i = some task → StartsAtOnce sys task) ?_ ?_ h i task htask
  · intro i task htask
    cases htask
  · intro _ _ _ _ hrun hinv hstep
    exact startsAtOnce_step (taskInv_of_run hrun) hinv hstep

end System

end Algorandscout.Library
