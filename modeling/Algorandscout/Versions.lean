import Algorandscout.Concurrent

namespace Algorandscout

open Library

/-!
# Reads in time

What is behind a pair is a record of the upstream that changes; a version number that only grows
stands for it.  A fetch reads the version current at some instant between the start of its task
and its completion.  A world is the machine of concurrent reads with the upstream around it.

* `World.step` — one event, with `step_cases` as its inversion lemma;
* `InTime` — the fetches of a pair come back in the order of the versions they read;
* `World.Inv` — under `InTime`, no entry is older than what its pair was answered with;
* `reads_never_go_back` — under `InTime`, a task started after a pair was answered with a version
  is not answered with a smaller one;
* `late_delivery_read_back` — after a delivery that is not in time, the next task is.
-/

/-- The machine, the current version of every pair, and what the fetches have read. -/
structure World (ε : Type) where
  machine : Machine ℕ ε
  version : CacheKey → ℕ
  sampled : ℕ → Option ℕ

/-- What can happen next. -/
inductive WorldEvent (ε : Type) where
  /-- The record of the pair changes. -/
  | publish (pair : CacheKey) (version : ℕ)
  | start (task : ℕ) (kind key : String)
  /-- The upstream reads the record for the fetch of the task. -/
  | sample (task : ℕ)
  /-- The fetch comes back with what was read for it. -/
  | deliver (task : ℕ)
  | fail (task : ℕ) (exc : ε)
  | clear

/-- The pair was answered with the value, by the task. -/
def Machine.Answered {V ε : Type} (m : Machine V ε) (i : ℕ) (pair : CacheKey) (value : V) : Prop :=
  (∃ t, m.tasks i = some (.hit pair t value)) ∨ ∃ t, m.tasks i = some (.fetched pair t (some value))

namespace World

variable {ε : Type}

/-- An empty cache, and every record at its first version. -/
def init (maxEntries : ℕ) : World ε where
  machine := Machine.init maxEntries
  version := fun _ => 0
  sampled := fun _ => none

/-- One event at time `now`; `none` when it is not possible. -/
def step (w : World ε) (timed : ℚ × WorldEvent ε) : Option (World ε) :=
  let (now, event) := timed
  match event with
  | .publish pair version =>
    if w.version pair ≤ version then
      some { w with version := Function.update w.version pair version }
    else none
  | .start i kind key =>
    (w.machine.step (now, .start i kind key)).map fun m => { w with machine := m }
  -- The instant of the read lies between the start of the task and its completion.
  | .sample i =>
    match w.machine.tasks i with
    | some (.pending pair) =>
      some { w with sampled := Function.update w.sampled i (some (w.version pair)) }
    | _ => none
  -- What comes back was read before, and may be outdated by now.
  | .deliver i =>
    match w.sampled i with
    | some version =>
      (w.machine.step (now, .complete i (.ok (some version)))).map fun m => { w with machine := m }
    | none => none
  | .fail i exc =>
    (w.machine.step (now, .complete i (.error exc))).map fun m => { w with machine := m }
  | .clear => (w.machine.step (now, .clear)).map fun m => { w with machine := m }

/-- The events so far, latest first, from the empty cache. -/
abbrev runs (maxEntries : ℕ) : List (ℚ × WorldEvent ε) → Option (World ε) :=
  runFrom step (init maxEntries)

/-- Of a pair that the cache may store, the fetch that comes back is not older than one that
    came back before it. -/
def InTime (w : World ε) : ℚ × WorldEvent ε → Prop
  | (_, .deliver i) => 0 < w.machine.cache.max → ∀ pair version,
      w.machine.tasks i = some (.pending pair) → w.sampled i = some version →
      (ttlSeconds pair.1).isSome →
      ∀ j t delivered, w.machine.tasks j = some (.fetched pair t (some delivered)) →
        delivered ≤ version
  | _ => True

/-- The ways an event at time `now` may go: it publishes a version, reads the current one for a
    fetch, or takes a step of the machine, which completes a fetch only with what was read for
    it. -/
inductive StepCase (w w' : World ε) (now : ℚ) : WorldEvent ε → Prop where
  | publish (pair : CacheKey) (version : ℕ)
      (newer : w.version pair ≤ version)
      (machine_eq : w'.machine = w.machine)
      (sampled_eq : w'.sampled = w.sampled)
      (version_eq : w'.version = Function.update w.version pair version) :
      StepCase w w' now (.publish pair version)
  | sample (i : ℕ) (pair : CacheKey)
      (pending : w.machine.tasks i = some (.pending pair))
      (machine_eq : w'.machine = w.machine)
      (sampled_eq : w'.sampled = Function.update w.sampled i (some (w.version pair)))
      (version_eq : w'.version = w.version) :
      StepCase w w' now (.sample i)
  | machine (event : WorldEvent ε) (action : Action ℕ ε)
      (step_eq : w.machine.step (now, action) = some w'.machine)
      (sampled_eq : w'.sampled = w.sampled)
      (version_eq : w'.version = w.version)
      (delivers : ∀ i value, action = .complete i (.ok value) →
        event = .deliver i ∧ ∃ version, value = some version ∧ w.sampled i = some version) :
      StepCase w w' now event

/-- **What an event can do.** -/
theorem step_cases {w w' : World ε} {now : ℚ} {event : WorldEvent ε}
    (h : w.step (now, event) = some w') : StepCase w w' now event := by
  -- Most events complete no fetch.
  have hnone : ∀ {action : Action ℕ ε}, (∀ i value, action ≠ .complete i (.ok value)) →
      (w.machine.step (now, action)).map (fun m => { w with machine := m }) = some w' →
      StepCase w w' now event := by
    intro action hne hstep
    obtain ⟨m, hm, rfl⟩ := Option.map_eq_some_iff.mp hstep
    exact .machine event action hm rfl rfl fun i value heq => absurd heq (hne i value)
  cases event with
  | publish pair version =>
    simp only [step] at h
    split_ifs at h with hle
    obtain rfl := Option.some.inj h
    exact .publish pair version hle rfl rfl rfl
  | start i kind key => exact hnone (fun _ _ heq => by cases heq) h
  | sample i =>
    simp only [step] at h
    split at h
    case h_1 pair hi =>
      obtain rfl := Option.some.inj h
      exact .sample i pair hi rfl rfl rfl
    case h_2 => cases h
  | deliver i =>
    simp only [step] at h
    cases hs : w.sampled i with
    | none => simp [hs] at h
    | some version =>
      rw [hs] at h
      obtain ⟨m, hm, rfl⟩ := Option.map_eq_some_iff.mp h
      refine .machine _ _ hm rfl rfl ?_
      intro j value heq
      simp only [Action.complete.injEq, Except.ok.injEq] at heq
      obtain ⟨rfl, rfl⟩ := heq
      exact ⟨rfl, version, rfl, hs⟩
  | fail i exc => exact hnone (fun _ _ heq => by cases heq) h
  | clear => exact hnone (fun _ _ heq => by cases heq) h

end World

/-! ### Answers -/

/-- An answer was given before, or by a hit, or by the fetch that came back in this action. -/
theorem Machine.answered_of_step {V ε : Type} {m m' : Machine V ε} {now : ℚ} {action : Action V ε}
    (h : m.step (now, action) = some m') {i : ℕ} {pair : CacheKey} {value : V}
    (hi : m'.Answered i pair value) :
    m.Answered i pair value ∨
      (action = .start i pair.1 pair.2 ∧ m.tasks i = none ∧
        ∃ t, m.cache.live now pair = some (t, some value)) ∨
      (action = .complete i (.ok (some value)) ∧ m.tasks i = some (.pending pair)) := by
  rcases hi with ⟨t, hi⟩ | ⟨t, hi⟩
  · rcases hit_of_step h hi with hold | ⟨_, rfl, hnone, hget⟩
    · exact .inl (.inl ⟨t, hold⟩)
    · rw [TTLCache.get_fst, Option.bind_eq_some_iff] at hget
      obtain ⟨⟨storedAt, _⟩, hlive, rfl⟩ := hget
      exact .inr (.inl ⟨rfl, hnone, storedAt, hlive⟩)
  · rcases fetched_of_step h hi with hold | ⟨_, rfl, hpending⟩
    · exact .inl (.inr ⟨t, hold⟩)
    · exact .inr (.inr ⟨rfl, hpending⟩)

/-- An answer stays given. -/
theorem Machine.Answered.step {V ε : Type} {m m' : Machine V ε} {now : ℚ} {action : Action V ε}
    {i : ℕ} {pair : CacheKey} {value : V} (hi : m.Answered i pair value)
    (h : m.step (now, action) = some m') : m'.Answered i pair value := by
  rcases hi with ⟨t, hi⟩ | ⟨t, hi⟩
  · exact .inl ⟨t, tasks_settled h hi (by simp [Task.result])⟩
  · exact .inr ⟨t, tasks_settled h hi (by simp [Task.result])⟩

namespace World

variable {ε : Type}

/-! ### The invariant -/

/-- What holds in every state that a run with `InTime` deliveries leads to. -/
structure Inv (w : World ε) : Prop where
  machine : ∃ actions, w.machine.Inv actions
  /-- A fetch has read no version that is not out yet. -/
  sampled_le : ∀ i pair version, w.machine.tasks i = some (.pending pair) →
    w.sampled i = some version → version ≤ w.version pair
  /-- Nor was any pair answered with one. -/
  answered_le : ∀ i pair version, w.machine.Answered i pair version → version ≤ w.version pair
  /-- Nothing was read for a task not started. -/
  unstarted : ∀ i, w.machine.tasks i = none → w.sampled i = none
  /-- Nor does any entry hold one. -/
  entry_le : ∀ pair t version, w.machine.cache.data.lookup pair = some (t, some version) →
    version ≤ w.version pair
  /-- The entries are of kinds that may be stored. -/
  cacheable : ∀ pair entry, w.machine.cache.data.lookup pair = some entry →
    (ttlSeconds pair.1).isSome
  /-- No entry is older than what its pair was answered with. -/
  newest : ∀ pair t version, w.machine.cache.data.lookup pair = some (t, some version) →
    ∀ j answered, w.machine.Answered j pair answered → answered ≤ version

theorem inv_init (maxEntries : ℕ) : Inv (init maxEntries : World ε) where
  machine := ⟨[], Machine.inv_init maxEntries⟩
  sampled_le := by intro _ _ _ h; simp [init, Machine.init] at h
  answered_le := by
    rintro _ _ _ (⟨t, h⟩ | ⟨t, h⟩) <;> simp [init, Machine.init] at h
  unstarted := fun _ _ => rfl
  entry_le := by intro _ _ _ h; simp [init, Machine.init, TTLCache.new] at h
  cacheable := by intro _ _ h; simp [init, Machine.init, TTLCache.new] at h
  newest := by intro _ _ _ h; simp [init, Machine.init, TTLCache.new] at h

/-- What a pair was answered with came back from a fetch. -/
theorem Inv.delivered {w : World ε} (hinv : w.Inv) {i : ℕ} {pair : CacheKey} {version : ℕ}
    (hi : w.machine.Answered i pair version) :
    ∃ j t, w.machine.tasks j = some (.fetched pair t (some version)) := by
  obtain ⟨actions, hm⟩ := hinv.machine
  rcases hi with ⟨t, hi⟩ | ⟨t, hi⟩
  · obtain ⟨j, storedAt, _, hj, _⟩ := hm.hits _ _ _ _ hi
    exact ⟨j, storedAt, hj⟩
  · exact ⟨i, t, hi⟩

/-- Versions only grow. -/
theorem version_le_of_step {w w' : World ε} {now : ℚ} {event : WorldEvent ε}
    (h : w.step (now, event) = some w') (pair : CacheKey) : w.version pair ≤ w'.version pair := by
  cases step_cases h with
  | publish published version hle _ _ hver =>
    rw [hver, Function.update_apply]
    split_ifs with hp
    · exact hp ▸ hle
    · exact le_rfl
  | sample _ _ _ _ _ hver => rw [hver]
  | machine _ _ _ _ hver _ => rw [hver]

/-- Where the machine stands still, only what is read for the fetches has to be looked at. -/
theorem Inv.still {w w' : World ε} (hinv : w.Inv) (hmachine : w'.machine = w.machine)
    (hver : ∀ pair, w.version pair ≤ w'.version pair)
    (hsampled : ∀ i pair version, w.machine.tasks i = some (.pending pair) →
      w'.sampled i = some version → version ≤ w'.version pair)
    (hunstarted : ∀ i, w.machine.tasks i = none → w'.sampled i = none) : w'.Inv where
  machine := hmachine ▸ hinv.machine
  sampled_le := fun i pair version hi => hsampled i pair version (hmachine ▸ hi)
  answered_le := fun i pair version hi =>
    (hinv.answered_le i pair version (hmachine ▸ hi)).trans (hver pair)
  unstarted := fun i hi => hunstarted i (hmachine ▸ hi)
  entry_le := fun pair t version hentry =>
    (hinv.entry_le pair t version (hmachine ▸ hentry)).trans (hver pair)
  cacheable := hmachine ▸ hinv.cacheable
  newest := hmachine ▸ hinv.newest

/-- After a step of the machine no entry is older than what its pair was answered with, if the
    fetch that the step completes is in time. -/
theorem Inv.newest_of_step {w : World ε} {m' : Machine ℕ ε} {now : ℚ} {event : WorldEvent ε}
    {action : Action ℕ ε} (hinv : w.Inv) (hintime : w.InTime (now, event))
    (hstep : w.machine.step (now, action) = some m')
    (hdelivered : ∀ {i version}, action = .complete i (.ok (some version)) →
      event = .deliver i ∧ w.sampled i = some version)
    {pair : CacheKey} {t : ℚ} {version : ℕ}
    (hentry : m'.cache.data.lookup pair = some (t, some version)) {j answered : ℕ}
    (hj : m'.Answered j pair answered) : answered ≤ version := by
  rcases Machine.entry_of_step hstep hentry with ⟨hold, hnostore⟩ |
    ⟨_, hsome, i, rfl, hpending, _⟩
  · rcases Machine.answered_of_step hstep hj with hj | ⟨_, _, t', hlive⟩ | ⟨heq, hpending⟩
    · exact hinv.newest pair t version hold j answered hj
    · -- A hit gives the entry itself.
      have hfound := (TTLCache.live_eq_some_iff.mp hlive).1
      rw [hold, Option.some.injEq, Prod.mk.injEq, Option.some.injEq] at hfound
      exact hfound.2.ge
    · -- A completed fetch would have replaced the entry.
      have hkind := hinv.cacheable pair _ hold
      rw [hnostore j _ heq hpending] at hkind
      exact absurd hkind (by simp)
  · obtain ⟨rfl, hs⟩ := hdelivered rfl
    rcases Machine.answered_of_step hstep hj with hj | ⟨heq, _⟩ | ⟨heq, _⟩
    · -- The answer is a version that a fetch came back with.
      obtain ⟨k, t', hk⟩ := hinv.delivered hj
      have hmax := Machine.max_pos_of_step hstep hentry
      exact hintime hmax pair version hpending hs hsome k t' answered hk
    · cases heq
    · -- The answer is the version just stored.
      simp only [Action.complete.injEq, Except.ok.injEq, Option.some.injEq] at heq
      exact heq.2.ge

/-- **Every event keeps the invariant**, a delivery if it is in time. -/
theorem Inv.step {w w' : World ε} {now : ℚ} {event : WorldEvent ε} (hinv : w.Inv)
    (hintime : w.InTime (now, event)) (h : w.step (now, event) = some w') : w'.Inv := by
  have hver := version_le_of_step h
  cases step_cases h with
  | publish _ _ _ hmachine hsampled _ =>
    apply hinv.still hmachine hver
    · intro i pair version hi hv
      rw [hsampled] at hv
      exact (hinv.sampled_le i pair version hi hv).trans (hver pair)
    · intro i hi
      rw [hsampled]
      exact hinv.unstarted i hi
  | sample k pair' hk hmachine hsampled hversion =>
    apply hinv.still hmachine hver
    · intro i pair version hi hv
      rw [hsampled, Function.update_apply] at hv
      split_ifs at hv with hik
      · -- What has just been read is the current version.
        subst hik
        obtain rfl := Task.pending.inj (Option.some.inj (hk.symm.trans hi))
        rw [hversion]
        exact (Option.some.inj hv).ge
      · exact (hinv.sampled_le i pair version hi hv).trans (hver pair)
    · intro i hi
      have hne : i ≠ k := by
        rintro rfl
        rw [hk] at hi
        cases hi
      rw [hsampled, Function.update_of_ne hne]
      exact hinv.unstarted i hi
  | machine _ action hstep hsampled hversion hcomplete =>
    -- A completion gives back what was read for the task.
    have hdelivered : ∀ {i version : ℕ}, action = .complete i (.ok (some version)) →
        event = .deliver i ∧ w.sampled i = some version := by
      intro i version heq
      obtain ⟨hevent, read, hread, hs⟩ := hcomplete i (some version) heq
      exact ⟨hevent, Option.some.inj hread ▸ hs⟩
    constructor
    case machine => exact hinv.machine.imp' _ fun _ hm => hm.step hstep
    case sampled_le =>
      intro i pair version hi hv
      rw [hsampled] at hv
      rw [hversion]
      rcases Machine.pending_of_step hstep hi with hold | ⟨_, hnone⟩
      · exact hinv.sampled_le i pair version hold hv
      · rw [hinv.unstarted i hnone] at hv
        cases hv
    case answered_le =>
      intro i pair version hi
      rw [hversion]
      rcases Machine.answered_of_step hstep hi with hold | ⟨_, _, t, hlive⟩ | ⟨heq, hpending⟩
      · exact hinv.answered_le i pair version hold
      · exact hinv.entry_le pair t version (TTLCache.live_eq_some_iff.mp hlive).1
      · exact hinv.sampled_le i pair version hpending (hdelivered heq).2
    case unstarted =>
      intro i hi
      rw [hsampled]
      exact hinv.unstarted i (Machine.unstarted_of_step hstep hi)
    case entry_le =>
      intro pair t version hentry
      rw [hversion]
      rcases Machine.entry_of_step hstep hentry with ⟨hold, _⟩ | ⟨_, _, i, heq, hpending, _⟩
      · exact hinv.entry_le pair t version hold
      · exact hinv.sampled_le i pair version hpending (hdelivered heq).2
    case cacheable =>
      intro pair entry hentry
      obtain ⟨t, value⟩ := entry
      rcases Machine.entry_of_step hstep hentry with ⟨hold, _⟩ | ⟨_, hsome, _⟩
      · exact hinv.cacheable pair (t, value) hold
      · exact hsome
    case newest =>
      intro pair t version hentry j answered hj
      exact hinv.newest_of_step hintime hstep hdelivered hentry hj

/-! ### Later tasks -/

/-- What holds of task `j`, not started when task `i` had been answered with `version`. -/
structure Behind (w : World ε) (i : ℕ) (pair : CacheKey) (version j : ℕ) : Prop where
  answered : w.machine.Answered i pair version
  /-- Its fetch reads no smaller version. -/
  sampled : ∀ v, w.machine.tasks j = some (.pending pair) → w.sampled j = some v → version ≤ v
  /-- It is answered with no smaller version. -/
  answer : ∀ v, w.machine.Answered j pair v → version ≤ v

/-- **Every event keeps a later task behind.** -/
theorem Behind.step {w w' : World ε} {now : ℚ} {event : WorldEvent ε} {i j version : ℕ}
    {pair : CacheKey} (hbehind : w.Behind i pair version j) (hinv : w.Inv)
    (h : w.step (now, event) = some w') : w'.Behind i pair version j := by
  obtain ⟨hi, hsample, hanswer⟩ := hbehind
  cases step_cases h with
  | publish _ _ _ hmachine hsampled _ =>
    exact {
      answered := hmachine ▸ hi
      sampled := fun v hj hv => hsample v (hmachine ▸ hj) (hsampled ▸ hv)
      answer := fun v hj => hanswer v (hmachine ▸ hj) }
  | sample k pair' hk hmachine hsampled _ =>
    exact {
      answered := hmachine ▸ hi
      sampled := fun v hj hv => by
        rw [hmachine] at hj
        rw [hsampled, Function.update_apply] at hv
        split_ifs at hv with hjk
        · -- What is read now is at least what the pair was answered with.
          subst hjk
          obtain rfl := Task.pending.inj (Option.some.inj (hk.symm.trans hj))
          exact (hinv.answered_le i pair' version hi).trans (Option.some.inj hv).le
        · exact hsample v hj hv
      answer := fun v hj => hanswer v (hmachine ▸ hj) }
  | machine _ action hstep hsampled _ hcomplete =>
    exact {
      answered := hi.step hstep
      sampled := fun v hj hv => by
        rw [hsampled] at hv
        rcases Machine.pending_of_step hstep hj with hold | ⟨_, hnone⟩
        · exact hsample v hold hv
        · rw [hinv.unstarted j hnone] at hv
          exact absurd hv (by simp)
      answer := fun v hj => by
        rcases Machine.answered_of_step hstep hj with hold | ⟨_, _, t, hlive⟩ | ⟨heq, hpending⟩
        · exact hanswer v hold
        · exact hinv.newest pair t v (TTLCache.live_eq_some_iff.mp hlive).1 i version hi
        · obtain ⟨_, u, hu, hs⟩ := hcomplete j (some v) heq
          exact hsample v hpending (Option.some.inj hu ▸ hs) }

/-- **Reads in time never go back.** In every interleaving all of whose deliveries are in time,
    a task that was not started when its pair was answered with a version is not answered with
    a smaller one. -/
theorem reads_never_go_back {maxEntries : ℕ} {later earlier : List (ℚ × WorldEvent ε)}
    {w₁ w₂ : World ε} (h₁ : runs maxEntries earlier = some w₁)
    (h₂ : runs maxEntries (later ++ earlier) = some w₂)
    (hintime : AllSteps step (init maxEntries) InTime (later ++ earlier))
    {i j version v : ℕ} {pair : CacheKey} (hi : w₁.machine.Answered i pair version)
    (hunstarted : w₁.machine.tasks j = none) (hj : w₂.machine.Answered j pair v) :
    version ≤ v := by
  -- The invariant holds where the run is cut, and from there on the task stays behind.
  have hinv₁ : w₁.Inv := hintime.earlier.invariant h₁ (inv_init maxEntries)
    fun _ _ _ hinv hC hs => hinv.step hC hs
  have hstart : w₁.Inv ∧ w₁.Behind i pair version j := by
    refine ⟨hinv₁, hi, fun v hpending => ?_, fun v hanswered => ?_⟩
    · rw [hunstarted] at hpending
      exact absurd hpending (by simp)
    · rcases hanswered with ⟨t, ht⟩ | ⟨t, ht⟩
      · rw [hunstarted] at ht
        exact absurd ht (by simp)
      · rw [hunstarted] at ht
        exact absurd ht (by simp)
  have hlater : runFrom step w₁ later = some w₂ := (runFrom_append h₁).symm.trans h₂
  have hend : w₂.Inv ∧ w₂.Behind i pair version j :=
    (hintime.later h₁).invariant (P := fun w => w.Inv ∧ w.Behind i pair version j) hlater hstart
      fun _ _ _ hw hC hs => ⟨hw.1.step hC hs, hw.2.step hw.1 hs⟩
  exact hend.2.answer v hj

/-- **A late delivery is read back.** When a fetch comes back with a version older than one that
    came back before, the next task for the pair is answered with the older version. -/
theorem late_delivery_read_back {w w' : World ε} {now : ℚ} {i k : ℕ}
    (h : w.step (now, .deliver i) = some w') (hlate : ¬ w.InTime (now, .deliver i))
    (hk : w'.machine.tasks k = none) :
    ∃ pair j answered version w'', version < answered ∧ w'.machine.Answered j pair answered ∧
      w'.step (now, .start k pair.1 pair.2) = some w'' ∧
      w''.machine.Answered k pair version := by
  simp only [InTime, not_forall, not_le] at hlate
  obtain ⟨hmax, pair, version, hpending, hsampled, hsome, j, t, answered, hj, hlt⟩ := hlate
  have hkind : ttlSeconds pair.1 ≠ none := Option.isSome_iff_ne_none.mp hsome
  simp only [step, hsampled, Option.map_eq_some_iff] at h
  obtain ⟨m, hm, rfl⟩ := h
  -- The delivery stores the older version, and it is live at once.
  have hcache : m.cache = w.machine.cache.set now pair.1 pair.2 (some version) := by
    obtain ⟨m₁, hm₁, hcache, -⟩ := Machine.step_complete_ok (Machine.step_cases hm).1 hpending
      (some version)
    rw [hm, Option.some.injEq] at hm₁
    rw [hm₁, hcache]
  have hget : (m.cache.get now pair.1 pair.2).1 = some version := by
    rw [TTLCache.get_fst, hcache, TTLCache.live_set_self hkind hmax]
    rfl
  obtain ⟨m', hm', -, htasks, -⟩ := Machine.step_start (Machine.step_cases hm).2.1.le hk
    pair.1 pair.2
  refine ⟨pair, j, answered, version, { w with machine := m' }, hlt,
    Machine.Answered.step (.inr ⟨t, hj⟩) hm, ?_, .inl ⟨now, ?_⟩⟩
  · show (m.step (now, .start k pair.1 pair.2)).map _ = _
    rw [hm']
    rfl
  · show m'.tasks k = _
    rw [htasks, Function.update_self, hget]
    rfl

/-- A fetch of asset 1 comes back with its first change, and then the asset changes again. -/
def quietRun : List (ℚ × WorldEvent String) :=
  [(3, .publish ("asset", "1") 2), (2, .deliver 0), (1, .sample 0), (0, .start 0 "asset" "1"),
    (0, .publish ("asset", "1") 1)]

/-- The next task is answered from the cache, with no smaller version. -/
theorem quietRun_never_goes_back : ∃ w, runs 4 ([(4, .start 1 "asset" "1")] ++ quietRun) = some w ∧
    ∃ v, w.machine.Answered 1 ("asset", "1") v ∧ 1 ≤ v := by
  have h₁ : (runs 4 quietRun).map (fun w => (w.machine.tasks 0, w.machine.tasks 1))
      = some (some (.fetched ("asset", "1") 2 (some 1)), none) := by decide +kernel
  have h₂ : (runs 4 ([(4, .start 1 "asset" "1")] ++ quietRun)).map (·.machine.tasks 1)
      = some (some (.hit ("asset", "1") 4 1)) := by decide +kernel
  have hintime : AllSteps step (init 4) InTime ([(4, .start 1 "asset" "1")] ++ quietRun) := by
    refine ⟨fun _ _ => trivial, fun _ _ => trivial, fun w hw => ?_, fun _ _ => trivial,
      fun _ _ => trivial, fun _ _ => trivial, trivial⟩
    -- When the only fetch comes back, none has come back before.
    simp [runFrom, step, Machine.step, init, Machine.init, TTLCache.get, TTLCache.new, ttlSeconds,
      ttlTable, List.lookup_cons, Task.afterGet] at hw
    subst hw
    intro _ pair version _ _ _ j t delivered hj
    simp [Function.update_apply] at hj
  obtain ⟨w₁, hw₁, htasks⟩ := Option.map_eq_some_iff.mp h₁
  obtain ⟨w₂, hw₂, htask⟩ := Option.map_eq_some_iff.mp h₂
  obtain ⟨hzero, hone⟩ := Prod.mk.inj htasks
  exact ⟨w₂, hw₂, 1, .inl ⟨4, htask⟩,
    reads_never_go_back hw₁ hw₂ hintime (.inr ⟨2, hzero⟩) hone (.inl ⟨4, htask⟩)⟩

/-- A fetch of asset 1 reads it before a change, and a fetch that reads it after the change
    comes back first. -/
def overtakenRun : List (ℚ × WorldEvent String) :=
  [(4, .deliver 1), (3, .sample 1), (3, .start 1 "asset" "1"), (2, .publish ("asset", "1") 1),
    (1, .sample 0), (0, .start 0 "asset" "1")]

/-- The overtaken fetch comes back, and a third task is answered with the version before the
    change, after the second was answered with the one after it. -/
theorem overtakenRun_goes_back : ∃ w₁ w₂, runs maxEntriesPerKind overtakenRun = some w₁ ∧
    runs maxEntriesPerKind ([(6, .start 2 "asset" "1"), (5, .deliver 0)] ++ overtakenRun)
      = some w₂ ∧
    w₁.machine.Answered 1 ("asset", "1") 1 ∧ w₁.machine.tasks 2 = none ∧
    w₂.machine.Answered 2 ("asset", "1") 0 := by
  have h₁ : (runs maxEntriesPerKind overtakenRun).map
      (fun w => (w.machine.tasks 1, w.machine.tasks 2)) =
        some (some (.fetched ("asset", "1") 4 (some 1)), none) := by decide +kernel
  have h₂ : (runs maxEntriesPerKind
      ([(6, .start 2 "asset" "1"), (5, .deliver 0)] ++ overtakenRun)).map (·.machine.tasks 2)
      = some (some (.hit ("asset", "1") 6 0)) := by decide +kernel
  obtain ⟨w₁, hw₁, htasks⟩ := Option.map_eq_some_iff.mp h₁
  obtain ⟨w₂, hw₂, htask⟩ := Option.map_eq_some_iff.mp h₂
  obtain ⟨hone, htwo⟩ := Prod.mk.inj htasks
  exact ⟨w₁, w₂, hw₁, hw₂, .inr ⟨4, hone⟩, htwo, .inl ⟨6, htask⟩⟩

end World

end Algorandscout
