import Mathlib.Data.List.Basic
import Mathlib.Tactic.Common

namespace Algorandscout.Library

/-!
# Runs of a machine

A machine is a partial step function: `none` says that the action is not possible in that state.
A run is the list of its actions, latest first.

* `runFrom` — the state a run leads to;
* `runFrom_append` — a run cut in two;
* `runFrom_invariant` — what holds at the start and is kept by every step holds along every run;
* `AllSteps` — a condition on every step of a run, taken in the state the step starts from;
* `AllSteps.imp` — a condition that follows from another one;
* `allSteps_iff_forall_mem` — a condition that the state has no part in;
* `AllSteps.invariant` — invariants of the runs all of whose steps meet a condition;
* `allStates_iff` — when the condition on the steps is exact for a property of the states.
-/

variable {State Action : Type} (step : State → Action → Option State)

/-- The state after the actions, latest first, starting from `s₀`. -/
def runFrom (s₀ : State) : List Action → Option State
  | [] => some s₀
  | a :: as => (runFrom s₀ as).bind (step · a)

variable {step} {s₀ : State}

theorem runFrom_cons_eq_some {a : Action} {as : List Action} {s : State} :
    runFrom step s₀ (a :: as) = some s ↔
      ∃ s₁, runFrom step s₀ as = some s₁ ∧ step s₁ a = some s := by
  rw [runFrom, Option.bind_eq_some_iff]

/-- A run cut in two: the later actions run from where the earlier ones lead. -/
theorem runFrom_append {later earlier : List Action} {s₁ : State}
    (h : runFrom step s₀ earlier = some s₁) :
    runFrom step s₀ (later ++ earlier) = runFrom step s₁ later := by
  induction later with
  | nil => exact h
  | cons a later ih => rw [List.cons_append, runFrom, runFrom, ih]

/-- **Invariants.** What holds at the start and is kept by every step holds along every run. -/
theorem runFrom_invariant {P : List Action → State → Prop} (hinit : P [] s₀)
    (hstep : ∀ as s a s', runFrom step s₀ as = some s → P as s → step s a = some s' →
      P (a :: as) s')
    {as : List Action} {s : State} (h : runFrom step s₀ as = some s) : P as s := by
  induction as generalizing s with
  | nil =>
    rw [runFrom, Option.some.injEq] at h
    exact h ▸ hinit
  | cons a as ih =>
    obtain ⟨s₁, hrun, hs⟩ := runFrom_cons_eq_some.mp h
    exact hstep as s₁ a s hrun (ih hrun) hs

variable (step s₀) in
/-- Every step of the run meets `P`, in the state it starts from. -/
def AllSteps (P : State → Action → Prop) : List Action → Prop
  | [] => True
  | a :: as => (∀ s, runFrom step s₀ as = some s → P s a) ∧ AllSteps P as

/-- The earlier part of a run all of whose steps meet `P`. -/
theorem AllSteps.earlier {P : State → Action → Prop} {later earlier : List Action}
    (h : AllSteps step s₀ P (later ++ earlier)) : AllSteps step s₀ P earlier := by
  induction later with
  | nil => exact h
  | cons a later ih => exact ih h.2

/-- The later part of a run all of whose steps meet `P`, as a run from where the cut is. -/
theorem AllSteps.later {P : State → Action → Prop} {later earlier : List Action} {s₁ : State}
    (h : AllSteps step s₀ P (later ++ earlier)) (h₁ : runFrom step s₀ earlier = some s₁) :
    AllSteps step s₁ P later := by
  induction later with
  | nil => trivial
  | cons a later ih =>
    exact ⟨fun s hs => h.1 s ((runFrom_append h₁).trans hs), ih h.2⟩

/-- A condition on the steps of a run that follows from another, at every state it reaches. -/
theorem AllSteps.imp {P Q : State → Action → Prop} {as : List Action} {s : State}
    (hP : AllSteps step s₀ P as) (h : runFrom step s₀ as = some s)
    (hPQ : ∀ as s a s', runFrom step s₀ as = some s → step s a = some s' → P s a → Q s a) :
    AllSteps step s₀ Q as := by
  induction as generalizing s with
  | nil => trivial
  | cons a as ih =>
    obtain ⟨s₁, hrun, hs⟩ := runFrom_cons_eq_some.mp h
    refine ⟨?_, ih hP.2 hrun⟩
    intro s' hs'
    obtain rfl := Option.some.inj (hrun.symm.trans hs')
    exact hPQ as s₁ a s hrun hs (hP.1 s₁ hrun)

/-- Invariants of the runs all of whose steps meet a condition. -/
theorem AllSteps.invariant {C : State → Action → Prop} {P : State → Prop} {as : List Action}
    {s : State} (hC : AllSteps step s₀ C as) (h : runFrom step s₀ as = some s) (hinit : P s₀)
    (hstep : ∀ s a s', P s → C s a → step s a = some s' → P s') : P s := by
  refine runFrom_invariant (P := fun as s => AllSteps step s₀ C as → P s) (fun _ => hinit) ?_ h hC
  intro as s a s' hrun ih hs hC
  exact hstep s a s' (ih hC.2) (hC.1 s hrun) hs

/-- Where every action is always possible, every list of actions is a run. -/
theorem exists_runFrom (htotal : ∀ s a, ∃ s', step s a = some s') (as : List Action) :
    ∃ s, runFrom step s₀ as = some s := by
  induction as with
  | nil => exact ⟨s₀, rfl⟩
  | cons a as ih =>
    obtain ⟨s, hs⟩ := ih
    obtain ⟨s', hs'⟩ := htotal s a
    exact ⟨s', runFrom_cons_eq_some.mpr ⟨s, hs, hs'⟩⟩

/-- A condition on the steps that the state has no part in is one on the actions. -/
theorem allSteps_iff_forall_mem {P : State → Action → Prop} {Q : Action → Prop}
    (htotal : ∀ s a, ∃ s', step s a = some s') (hPQ : ∀ s a, P s a ↔ Q a) (as : List Action) :
    AllSteps step s₀ P as ↔ ∀ a ∈ as, Q a := by
  induction as with
  | nil => simp [AllSteps]
  | cons a as ih =>
    obtain ⟨s, hs⟩ : ∃ s, runFrom step s₀ as = some s := exists_runFrom htotal as
    rw [AllSteps, ih, List.forall_mem_cons]
    apply and_congr_left'
    constructor
    · intro h
      exact (hPQ s a).mp (h s hs)
    · intro h s' _
      exact (hPQ s' a).mpr h

variable (step s₀) in
/-- Every state along the run, the first one included, meets `Q`. -/
def AllStates (Q : State → Prop) (as : List Action) : Prop :=
  ∀ later earlier s, as = later ++ earlier → runFrom step s₀ earlier = some s → Q s

/-- A condition on the steps is exact for a property of the states when it keeps an invariant
    that gives the property, and no step that breaks it leads to a state with the property. -/
theorem allStates_iff {C : State → Action → Prop} {P Q : State → Prop} {as : List Action}
    {s : State} (h : runFrom step s₀ as = some s) (hinit : P s₀)
    (hstep : ∀ s a s', P s → C s a → step s a = some s' → P s') (hPQ : ∀ s, P s → Q s)
    (hQC : ∀ s a s', step s a = some s' → Q s' → C s a) :
    AllStates step s₀ Q as ↔ AllSteps step s₀ C as := by
  constructor
  · intro hQ
    induction as generalizing s with
    | nil => trivial
    | cons a as ih =>
      obtain ⟨s₁, hrun, hs⟩ := runFrom_cons_eq_some.mp h
      constructor
      · intro s' hs'
        obtain rfl := Option.some.inj (hrun.symm.trans hs')
        -- The state after the step has the property, so the step met the condition.
        exact hQC s₁ a s hs (hQ [] (a :: as) s rfl h)
      · apply ih hrun
        intro later earlier s' heq hs'
        exact hQ (a :: later) earlier s' (by rw [heq, List.cons_append]) hs'
  · rintro hC later earlier s' rfl hs'
    exact hPQ s' (hC.earlier.invariant hs' hinit hstep)

end Algorandscout.Library
