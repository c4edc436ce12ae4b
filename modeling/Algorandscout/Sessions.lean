import Algorandscout.Library.Runs
import Mathlib.Logic.Function.Basic

namespace Algorandscout

open Library

/-!
# The session of the client

`AlgorandClient` reads over an aiohttp session: the one it was given, or one that it opens when it
needs it.  `_ensure_session` runs without an `await`; `close` awaits the session's own `close`, and
anything may run meanwhile, reads that need a session included.

* `ensureSession`, `toClose` — what `_ensure_session` does, and what `close` has to close;
* `ClientState.step` — one turn of a task, with `ClientState.step_cases` as its inversion lemma;
* `ClientState.Inv` — what every turn keeps;
* `sessions_safe` — whatever the tasks do, no session is left open beside the current one, and one
  that was given is never closed.
-/

/-- A session of a client: the one it was given, or the `n`-th that it opened. -/
inductive Session where
  | given
  | own (n : ℕ)
  deriving DecidableEq, Repr

/-- Where a task that uses the client stands. -/
inductive SessionTask where
  /-- A read, with what `_ensure_session` returned. -/
  | reading (session : Session)
  /-- A `close` that awaits the session's own, when so many sessions had been opened. -/
  | closing (session : Session) (before : ℕ)
  /-- A `close` that returned, after the session's own if there was anything to close. -/
  | closed (session : Option Session) (before : ℕ)
  deriving DecidableEq, Repr

/-- The client, its sessions, and the tasks that use it. -/
structure ClientState where
  /-- `_session` -/
  session : Option Session
  /-- `_owns_session` -/
  ownsSession : Bool
  /-- Whether the client was given a session. -/
  wasGiven : Bool
  /-- How many sessions it has opened. -/
  opened : ℕ
  /-- `session.closed` -/
  isClosed : Session → Bool
  tasks : ℕ → Option SessionTask

/-- What can happen next. -/
inductive SessionEvent where
  /-- A read, or `__aenter__`, starts with `_ensure_session`. -/
  | ensure (task : ℕ)
  /-- `close` or `__aexit__`, up to the `await`. -/
  | close (task : ℕ)
  /-- The session is closed in the course of the awaited `session.close()`. -/
  | shut (task : ℕ)
  /-- The awaited `session.close()` returns. -/
  | finish (task : ℕ)
  /-- The session that was given is closed by whoever gave it. -/
  | shutGiven
  deriving DecidableEq, Repr

namespace ClientState

/-- `AlgorandClient(config, session)`. -/
def init (wasGiven : Bool) : ClientState where
  session := if wasGiven then some .given else none
  ownsSession := !wasGiven
  wasGiven := wasGiven
  opened := 0
  isClosed := fun _ => false
  tasks := fun _ => none

/-- The session, if there is one that is not closed. -/
def usable (c : ClientState) : Option Session := c.session.filter fun s => !c.isClosed s

/-- `_ensure_session`. -/
def ensureSession (c : ClientState) : Session × ClientState :=
  match c.usable with
  | some session => (session, c)
  | none =>
    let session := .own c.opened
    (session, { c with session := some session, ownsSession := true, opened := c.opened + 1 })

/-- What `close` has to close. -/
def toClose (c : ClientState) : Option Session := if c.ownsSession then c.usable else none

def setTask (c : ClientState) (i : ℕ) (task : SessionTask) : ClientState :=
  { c with tasks := Function.update c.tasks i (some task) }

/-- One turn; `none` when it is not possible. -/
def step (c : ClientState) : SessionEvent → Option ClientState
  | .ensure i =>
    match c.tasks i with
    | some _ => none
    | none =>
      let (session, c') := c.ensureSession
      some (c'.setTask i (.reading session))
  | .close i =>
    match c.tasks i with
    | some _ => none
    | none =>
      match c.toClose with
      | some session => some (c.setTask i (.closing session c.opened))
      | none => some (c.setTask i (.closed none c.opened))
  | .shut i =>
    match c.tasks i with
    | some (.closing session _) =>
      some { c with isClosed := Function.update c.isClosed session true }
    | _ => none
  | .finish i =>
    match c.tasks i with
    | some (.closing session before) =>
      -- aiohttp returns from `close` with the session closed.
      if c.isClosed session then some (c.setTask i (.closed (some session) before)) else none
    | _ => none
  | .shutGiven => some { c with isClosed := Function.update c.isClosed .given true }

/-- The turns so far, latest first, of a client that was given a session or not. -/
abbrev runs (wasGiven : Bool) : List SessionEvent → Option ClientState :=
  runFrom step (init wasGiven)

/-- The ways a turn may go. -/
inductive StepCase (c c' : ClientState) : SessionEvent → Prop
  /-- The session at hand is used. -/
  | reuse (i : ℕ) (session : Session) (unstarted : c.tasks i = none)
      (usable : c.usable = some session) (eq : c' = c.setTask i (.reading session)) :
      StepCase c c' (.ensure i)
  | fresh (i : ℕ) (unstarted : c.tasks i = none) (unusable : c.usable = none)
      (eq : c' = ({ c with
        session := some (.own c.opened), ownsSession := true, opened := c.opened + 1 } :
          ClientState).setTask i (.reading (.own c.opened))) :
      StepCase c c' (.ensure i)
  | await (i : ℕ) (session : Session) (unstarted : c.tasks i = none)
      (owns : c.ownsSession = true) (usable : c.usable = some session)
      (eq : c' = c.setTask i (.closing session c.opened)) : StepCase c c' (.close i)
  /-- There is nothing to close. -/
  | skip (i : ℕ) (unstarted : c.tasks i = none)
      (nothing : c.ownsSession = false ∨ c.usable = none)
      (eq : c' = c.setTask i (.closed none c.opened)) : StepCase c c' (.close i)
  | shut (i : ℕ) (session : Session) (before : ℕ)
      (awaited : c.tasks i = some (.closing session before))
      (eq : c' = { c with isClosed := Function.update c.isClosed session true }) :
      StepCase c c' (.shut i)
  | finish (i : ℕ) (session : Session) (before : ℕ)
      (awaited : c.tasks i = some (.closing session before)) (isClosed : c.isClosed session = true)
      (eq : c' = c.setTask i (.closed (some session) before)) : StepCase c c' (.finish i)
  | shutGiven (eq : c' = { c with isClosed := Function.update c.isClosed .given true }) :
      StepCase c c' .shutGiven

variable {c c' : ClientState} {event : SessionEvent}

/-- **What a turn can do.** -/
theorem step_cases (h : c.step event = some c') : StepCase c c' event := by
  cases event with
  | ensure i =>
    cases htask : c.tasks i with
    | some task => simp [step, htask] at h
    | none =>
      simp only [step, htask, ensureSession] at h
      cases husable : c.usable with
      | some session =>
        simp only [husable, Option.some.injEq] at h
        exact .reuse i session htask husable h.symm
      | none =>
        simp only [husable, Option.some.injEq] at h
        exact .fresh i htask husable h.symm
  | close i =>
    cases htask : c.tasks i with
    | some task => simp [step, htask] at h
    | none =>
      simp only [step, htask, toClose] at h
      cases howns : c.ownsSession with
      | false =>
        simp only [howns, Bool.false_eq_true, ↓reduceIte, Option.some.injEq] at h
        exact .skip i htask (.inl howns) h.symm
      | true =>
        cases husable : c.usable with
        | some session =>
          simp only [howns, husable, ↓reduceIte, Option.some.injEq] at h
          exact .await i session htask howns husable h.symm
        | none =>
          simp only [howns, husable, ↓reduceIte, Option.some.injEq] at h
          exact .skip i htask (.inr husable) h.symm
  | shut i =>
    simp only [step] at h
    split at h
    · next session before htask =>
      exact .shut i session before htask (Option.some.inj h).symm
    · cases h
  | finish i =>
    simp only [step] at h
    split at h
    · next session before htask =>
      split_ifs at h with hclosed
      exact .finish i session before htask hclosed (Option.some.inj h).symm
    · cases h
  | shutGiven => exact .shutGiven (Option.some.inj h).symm

/-! ### What every turn keeps -/

/-- The sessions that the client has had. -/
def Known (c : ClientState) : Session → Prop
  | .given => c.wasGiven = true
  | .own n => n < c.opened

/-- A `close` awaits, or awaited, the session's own. -/
def Asked (c : ClientState) (session : Session) : Prop :=
  ∃ i before, c.tasks i = some (.closing session before) ∨
    c.tasks i = some (.closed (some session) before)

/-- The invariant of the client. -/
structure Inv (c : ClientState) : Prop where
  /-- A session that is not closed is the one at hand. -/
  current : ∀ session, c.Known session → c.isClosed session = false → c.session = some session
  known : ∀ session, c.session = some session → c.Known session
  /-- The flag says whether the session at hand is its own. -/
  owns : ∀ session, c.session = some session → (c.ownsSession = true ↔ ∃ n, session = .own n)
  /-- What is not open yet is not closed. -/
  unopened : ∀ n, c.opened ≤ n → c.isClosed (.own n) = false
  /-- Own sessions are closed by `close`. -/
  asked : ∀ n, c.isClosed (.own n) = true → c.Asked (.own n)
  closing : ∀ i session before, c.tasks i = some (.closing session before) →
    (∃ n, session = .own n ∧ n < c.opened) ∧
      ∀ n < before, c.isClosed (.own n) = true ∨ session = .own n
  closed : ∀ i session before, c.tasks i = some (.closed session before) →
    session ≠ some .given ∧ ∀ n < before, c.isClosed (.own n) = true

theorem usable_eq_some_iff {session : Session} :
    c.usable = some session ↔ c.session = some session ∧ c.isClosed session = false := by
  unfold usable
  rw [Option.filter_eq_some_iff]
  simp

/-- Nothing is usable when everything is closed. -/
theorem Inv.isClosed_of_unusable (h : c.Inv) (hnone : c.usable = none) {session : Session}
    (hknown : c.Known session) : c.isClosed session = true := by
  by_contra hopen
  rw [Bool.not_eq_true] at hopen
  have husable := usable_eq_some_iff.mpr ⟨h.current session hknown hopen, hopen⟩
  rw [hnone] at husable
  cases husable

theorem inv_init (wasGiven : Bool) : (init wasGiven).Inv where
  current session hknown _ := by
    cases session with
    | given =>
      obtain rfl : wasGiven = true := hknown
      rfl
    | own n => exact absurd hknown (Nat.not_lt_zero n)
  known session hsession := by
    cases wasGiven with
    | false => cases hsession
    | true =>
      obtain rfl := Option.some.inj hsession
      rfl
  owns session hsession := by
    cases wasGiven with
    | false => cases hsession
    | true =>
      obtain rfl := Option.some.inj hsession
      simp [init]
  unopened _ _ := rfl
  asked n hn := by cases hn
  closing i session before hi := by cases hi
  closed i session before hi := by cases hi

/-- A task of the state after is one of the state before, or the one that was set. -/
theorem task_of_setTask {i j : ℕ} {task found : SessionTask}
    (h : (c.setTask i task).tasks j = some found) :
    c.tasks j = some found ∨ j = i ∧ found = task := by
  unfold setTask at h
  dsimp only at h
  rw [Function.update_apply] at h
  split_ifs at h with hij
  · exact .inr ⟨hij, (Option.some.inj h).symm⟩
  · exact .inl h

/-- What was asked for stays so when a task starts, or goes on with the same session. -/
theorem Asked.setTask {session : Session} (h : c.Asked session) {i : ℕ} {task : SessionTask}
    (hi : c.tasks i = none ∨ ∃ session before, c.tasks i = some (.closing session before) ∧
      task = .closed (some session) before) : (c.setTask i task).Asked session := by
  obtain ⟨j, before, hj⟩ := h
  by_cases hij : j = i
  · subst hij
    rcases hi with hnone | ⟨other, before', hclosing, rfl⟩
    · rw [hnone] at hj
      rcases hj with hj | hj
      · cases hj
      · cases hj
    · rw [hclosing] at hj
      rcases hj with hj | hj
      · obtain ⟨rfl, rfl⟩ := SessionTask.closing.inj (Option.some.inj hj)
        exact ⟨j, before', .inr (Function.update_self j _ _)⟩
      · cases hj
  · refine ⟨j, before, ?_⟩
    unfold ClientState.setTask
    dsimp only
    rw [Function.update_of_ne hij]
    exact hj

/-- What a task must keep to when it starts or goes on. -/
def Allowed (c : ClientState) : SessionTask → Prop
  | .reading _ => True
  | .closing session before => (∃ n, session = .own n ∧ n < c.opened) ∧
    ∀ n < before, c.isClosed (.own n) = true ∨ session = .own n
  | .closed session before => session ≠ some .given ∧ ∀ n < before, c.isClosed (.own n) = true

/-- A task starts, or returns from the `await`. -/
theorem Inv.setTask (h : c.Inv) {i : ℕ} {task : SessionTask}
    (hi : c.tasks i = none ∨ ∃ session before, c.tasks i = some (.closing session before) ∧
      task = .closed (some session) before) (htask : c.Allowed task) : (c.setTask i task).Inv where
  current := h.current
  known := h.known
  owns := h.owns
  unopened := h.unopened
  asked n hn := (h.asked n hn).setTask hi
  closing j session before hj := by
    rcases task_of_setTask hj with hold | ⟨-, rfl⟩
    · exact h.closing j session before hold
    · exact htask
  closed j session before hj := by
    rcases task_of_setTask hj with hold | ⟨-, rfl⟩
    · exact h.closed j session before hold
    · exact htask

/-- A session is opened, when none is usable. -/
theorem Inv.open (h : c.Inv) (hnone : c.usable = none) :
    ({ c with session := some (.own c.opened), ownsSession := true, opened := c.opened + 1 } :
      ClientState).Inv where
  current session hknown hopen := by
    -- All the others are closed.
    by_cases hnew : session = .own c.opened
    · rw [hnew]
    · have hold : c.Known session := by
        cases session with
        | given => exact hknown
        | own n =>
          have hlt : n < c.opened + 1 := hknown
          have hne : n ≠ c.opened := fun heq => hnew (heq ▸ rfl)
          exact show n < c.opened by omega
      rw [show c.isClosed session = true from h.isClosed_of_unusable hnone hold] at hopen
      cases hopen
  known session hsession := by
    obtain rfl := Option.some.inj hsession
    exact Nat.lt_succ_self c.opened
  owns session hsession := by
    obtain rfl := Option.some.inj hsession
    simp
  unopened n hn := h.unopened n (Nat.le_of_succ_le hn)
  asked n hn := h.asked n hn
  closing i session before hi := by
    obtain ⟨⟨n, rfl, hn⟩, hbefore⟩ := h.closing i session before hi
    exact ⟨⟨n, rfl, Nat.lt_succ_of_lt hn⟩, hbefore⟩
  closed := h.closed

/-- A session is closed: the given one, or one that a `close` asked for. -/
theorem Inv.shut (h : c.Inv) {session : Session}
    (hsession : session = .given ∨ ∃ n, session = .own n ∧ n < c.opened ∧ c.Asked session) :
    ({ c with isClosed := Function.update c.isClosed session true } : ClientState).Inv := by
  have hkept : ∀ other, c.isClosed other = true →
      Function.update c.isClosed session true other = true := by
    intro other hother
    rw [Function.update_apply]
    split_ifs
    · rfl
    · exact hother
  have hopen : ∀ other, Function.update c.isClosed session true other = false →
      c.isClosed other = false := by
    intro other hother
    by_contra hclosed
    rw [Bool.not_eq_false] at hclosed
    rw [hkept other hclosed] at hother
    cases hother
  refine ⟨fun other hknown hother => h.current other hknown (hopen other hother), h.known, h.owns,
    ?_, ?_, ?_, ?_⟩
  · intro n hn
    have hne : Session.own n ≠ session := by
      rintro rfl
      rcases hsession with hgiven | ⟨m, hm, hlt, -⟩
      · cases hgiven
      · obtain rfl := Session.own.inj hm
        exact absurd hlt (Nat.not_lt.mpr hn)
    dsimp only
    rw [Function.update_of_ne hne]
    exact h.unopened n hn
  · intro n hn
    dsimp only at hn
    rw [Function.update_apply] at hn
    split_ifs at hn with heq
    · rcases hsession with hgiven | ⟨m, hm, -, hasked⟩
      · rw [hgiven] at heq
        cases heq
      · rw [← heq] at hasked
        exact hasked
    · exact h.asked n hn
  · intro i other before hi
    obtain ⟨hown, hbefore⟩ := h.closing i other before hi
    refine ⟨hown, fun n hn => ?_⟩
    exact (hbefore n hn).imp_left (hkept (.own n))
  · intro i other before hi
    obtain ⟨hspared, hbefore⟩ := h.closed i other before hi
    exact ⟨hspared, fun n hn => hkept (.own n) (hbefore n hn)⟩

/-- **Every turn keeps the invariant.** -/
theorem Inv.step (h : c.Inv) (hstep : c.step event = some c') : c'.Inv := by
  cases step_cases hstep with
  | reuse i session hi _ heq =>
    subst heq
    exact h.setTask (.inl hi) trivial
  | fresh i hi hnone heq =>
    subst heq
    exact (h.open hnone).setTask (.inl hi) trivial
  | await i session hi howns husable heq =>
    subst heq
    obtain ⟨hsession, hopen⟩ := usable_eq_some_iff.mp husable
    obtain ⟨n, rfl⟩ := (h.owns session hsession).mp howns
    refine h.setTask (.inl hi) ⟨⟨n, rfl, h.known _ hsession⟩, fun m hm => ?_⟩
    -- Another one that is open would be the one at hand.
    cases hm' : c.isClosed (.own m) with
    | true => exact .inl rfl
    | false =>
      have hcurrent := h.current (.own m) hm hm'
      rw [hsession] at hcurrent
      exact .inr (Option.some.inj hcurrent)
  | skip i hi hnothing heq =>
    subst heq
    refine h.setTask (.inl hi) ⟨by simp, fun n hn => ?_⟩
    by_contra hopen
    rw [Bool.not_eq_true] at hopen
    have hsession := h.current (.own n) hn hopen
    rcases hnothing with howns | hnone
    · rw [(h.owns _ hsession).mpr ⟨n, rfl⟩] at howns
      cases howns
    · have hknown : c.Known (.own n) := hn
      rw [h.isClosed_of_unusable hnone hknown] at hopen
      cases hopen
  | shut i session before hi heq =>
    subst heq
    obtain ⟨⟨n, rfl, hn⟩, -⟩ := h.closing i session before hi
    exact h.shut (.inr ⟨n, rfl, hn, i, before, .inl hi⟩)
  | finish i session before hi hclosed heq =>
    subst heq
    obtain ⟨⟨n, rfl, -⟩, hbefore⟩ := h.closing i session before hi
    refine h.setTask (.inr ⟨_, before, hi, rfl⟩) ⟨by simp, fun m hm => ?_⟩
    rcases hbefore m hm with hm' | hm'
    · exact hm'
    · rwa [← hm']
  | shutGiven heq =>
    subst heq
    exact h.shut (.inl rfl)

theorem inv_of_run {wasGiven : Bool} {events : List SessionEvent}
    (h : runs wasGiven events = some c) : c.Inv :=
  runFrom_invariant (P := fun _ c => c.Inv) (inv_init wasGiven)
    (fun _ _ _ _ _ hinv hstep => hinv.step hstep) h

/-! ### What that means -/

/-- What may be relied on in a state of the client. -/
structure Safe (c : ClientState) : Prop where
  /-- Of all the sessions that it has had, none is open but the one at hand. -/
  one_open : ∀ session, c.Known session → c.isClosed session = false → c.session = some session
  /-- A session that was given is never closed by the client. -/
  spared : ¬c.Asked .given
  /-- A `close` that has returned left none open of those opened before it. -/
  closed_all : ∀ i session before, c.tasks i = some (.closed session before) →
    ∀ n < before, c.isClosed (.own n) = true
  /-- A read finds its session closed only if some `close` asked for that, or the giver. -/
  interrupted : ∀ i session, c.tasks i = some (.reading session) → c.isClosed session = true →
    session = .given ∨ c.Asked session
  /-- A read starts over an open session, and one is opened for it only if none is open. -/
  ensured : ∀ i c', c.step (.ensure i) = some c' → ∃ session,
    c'.tasks i = some (.reading session) ∧ c'.session = some session ∧
      c'.isClosed session = false ∧
      (c'.opened = c.opened ∨ ∀ other, c.Known other → c.isClosed other = true)

/-- **The sessions are safe.**  Whatever reads and `close` calls there are, and in whatever order
    they go on, the client has one open session at most, opens one only when it has none, closes
    those that it opened, and leaves the one that it was given to its giver. -/
theorem sessions_safe {wasGiven : Bool} {events : List SessionEvent}
    (hrun : runs wasGiven events = some c) : c.Safe := by
  have hinv := inv_of_run hrun
  refine ⟨hinv.current, ?_, fun i session before hi => (hinv.closed i session before hi).2, ?_, ?_⟩
  · rintro ⟨i, before, hi | hi⟩
    · obtain ⟨⟨n, hn, -⟩, -⟩ := hinv.closing i .given before hi
      cases hn
    · exact (hinv.closed i _ before hi).1 rfl
  · intro i session _ hclosed
    cases session with
    | given => exact .inl rfl
    | own n => exact .inr (hinv.asked n hclosed)
  · intro i c' hstep
    cases step_cases hstep with
    | reuse _ session hi husable heq =>
      subst heq
      obtain ⟨hsession, hopen⟩ := usable_eq_some_iff.mp husable
      exact ⟨session, Function.update_self i _ _, hsession, hopen, .inl rfl⟩
    | fresh _ hi hnone heq =>
      subst heq
      exact ⟨.own c.opened, Function.update_self i _ _, rfl, hinv.unopened _ (Nat.le_refl _),
        .inr fun other => hinv.isClosed_of_unusable hnone⟩

/-- A read that starts while the session is being closed opens another one, which the `close` does
    not see. -/
theorem sessions_safe_reopened : ∃ c, runs false
    [.finish 1, .ensure 2, .shut 1, .close 1, .ensure 0] = some c ∧
      c.session = some (.own 1) ∧ c.isClosed (.own 1) = false ∧ c.Safe := by
  obtain ⟨c, hrun, hsession, hopen⟩ : ∃ c, runs false
      [.finish 1, .ensure 2, .shut 1, .close 1, .ensure 0] = some c ∧
        c.session = some (.own 1) ∧ c.isClosed (.own 1) = false := ⟨_, rfl, rfl, rfl⟩
  exact ⟨c, hrun, hsession, hopen, sessions_safe hrun⟩

end ClientState

end Algorandscout
