import Algorandscout.Concurrent
import Algorandscout.Service

namespace Algorandscout

open Library

/-!
# What the transaction route remembers

Requests for transactions as tasks of the machine of concurrent reads: a payload is what a task
returns, the response is what the route makes of it.

* `Settled` — a payload whose transaction carries a confirmed round;
* `answeredOk_of_settled` — its response has status `ok`;
* `getTransaction_eq_steps` — a request that nothing interrupts is the route;
* `Machine.OnlySettled` — no other payload is remembered;
* `only_settled_cached_iff` — in every state of a run this holds exactly when no fetch brings
  another payload;
* `missing_remembered` — a run where a payload without a transaction is remembered.
-/

/-- The payload's transaction carries a confirmed round. -/
def Settled (payload : Json) : Prop :=
  ∃ members tx : Dict, payload = .obj members ∧ members.get "transaction" = .obj tx ∧
    (tx.get "confirmed-round").truthy = true

/-- The response is neither a 404 nor pending: its status is `ok`, unless the record is one that
    the mapper cannot take. -/
def AnsweredOk (payload : Json) : Prop :=
  (∃ m, transactionResponse payload = .ok m ∧ m.status = "ok") ∨
    ∃ e, transactionResponse payload = .error (.unhandled e)

/-- **A settled payload is answered with status `ok`.** -/
theorem answeredOk_of_settled {payload : Json} (h : Settled payload) : AnsweredOk payload := by
  obtain ⟨members, tx, rfl, htx, hround⟩ := h
  have htruthy : (Json.obj tx).truthy = true := by
    cases tx with
    | nil => exact absurd hround (by simp)
    | cons entry tx => rfl
  unfold AnsweredOk transactionResponse mapping
  simp only [Json.asDict_obj, Except.mapError, ok_bind, htx, htruthy]
  cases hmap : mapTransaction (.obj tx) with
  | error e => exact .inr ⟨e, rfl⟩
  | ok m =>
    obtain ⟨record, detailKey, counterparty, value, heq, hfields⟩ :=
      (mapTransaction_eq_ok_iff.mp hmap).1.fieldsOf
    obtain rfl := Json.obj.inj heq
    -- The status is read off the confirmed round alone.
    have hstatus : m.status = "ok" := by
      rw [hfields.status_eq, if_pos hround]
    cases hconfirmations : confirmationsOf (members.get "current-round") m.blockNumber with
    | error e =>
      right
      refine ⟨e, ?_⟩
      simp only [ok_bind, hconfirmations]
      rfl
    | ok confirmations =>
      left
      refine ⟨{ m with confirmations }, ?_, hstatus⟩
      simp only [ok_bind, hconfirmations]
      rfl

namespace Machine

/-- The machine of the service: payloads, and upstream errors. -/
abbrev Requests := Machine Json AlgorandError

/-- The response to a request, once its task has returned or raised. -/
def responseOf (task : Task Json AlgorandError) :
    Option (Except ServiceError MappedTransaction) :=
  task.result.map fun result =>
    (result.mapError ServiceError.algorand).bind fun value =>
      transactionResponse (Json.ofValue value)

/-- **A request that nothing interrupts is the route**: the same response, the same cache. -/
theorem getTransaction_eq_steps {m : Requests} {now : ℚ} (hclock : m.clock ≤ now) {i : ℕ}
    (htask : m.tasks i = none) {txid : String} (hvalid : validateTxid txid = .ok txid)
    (answer : Call → Except AlgorandError Json) :
    ∃ m₁ m', m.step (now, .start i "transaction" txid) = some m₁ ∧
      (m' = m₁ ∨ m₁.step (now, .complete i ((answer (.transaction txid)).map Json.asValue)) =
        some m') ∧
      ((m'.tasks i).bind responseOf, m'.cache) =
        (some ((getTransaction txid).run (atOnce now answer) m.cache).1,
          ((getTransaction txid).run (atOnce now answer) m.cache).2) := by
  obtain ⟨m₁, m', hstart, hcomplete, hresult, hcache⟩ := getOrFetch_eq_steps hclock le_rfl htask
    "transaction" txid ((answer (.transaction txid)).map Json.asValue)
  refine ⟨m₁, m', hstart, hcomplete, ?_⟩
  rw [run_getTransaction hvalid, hcache]
  obtain ⟨task, hi, hresult⟩ := Option.bind_eq_some_iff.mp hresult
  rw [hi, Option.bind_some, responseOf, hresult]
  rfl

/-! ### The invariant -/

/-- No payload is remembered but settled ones. -/
structure OnlySettled (m : Requests) : Prop where
  /-- A live entry is settled, so a request that hits it is answered with status `ok`. -/
  live : ∀ now txid entry, m.clock ≤ now → m.cache.live now ("transaction", txid) = some entry →
    ∃ payload, entry.2 = some payload ∧ Settled payload ∧ AnsweredOk payload
  /-- A request that was answered from the cache was answered with status `ok`. -/
  remembered : ∀ i txid readAt payload,
    m.tasks i = some (.hit ("transaction", txid) readAt payload) → AnsweredOk payload
  /-- So was one whose own fetch brought a settled payload. -/
  fetched : ∀ i txid storedAt payload,
    m.tasks i = some (.fetched ("transaction", txid) storedAt (some payload)) →
      Settled payload → AnsweredOk payload

/-- **The condition on a step**: a fetch that comes back brings a settled payload, if the cache
    may hold anything. -/
def FetchSettled (m : Requests) (timed : ℚ × Action Json AlgorandError) : Prop :=
  0 < m.cache.max → ∀ i txid value, timed.2 = .complete i (.ok value) →
    m.tasks i = some (.pending ("transaction", txid)) → ∃ payload, value = some payload ∧
      Settled payload

/-- What every entry and every hit is, expired entries included. -/
structure SettledInv (m : Requests) : Prop where
  entries : ∀ txid entry, m.cache.data.lookup ("transaction", txid) = some entry →
    ∃ payload, entry.2 = some payload ∧ Settled payload
  hits : ∀ i txid readAt payload,
    m.tasks i = some (.hit ("transaction", txid) readAt payload) → Settled payload

theorem settledInv_init (maxEntries : ℕ) : SettledInv (init maxEntries) where
  entries := by intro _ _ h; simp [init, TTLCache.new] at h
  hits := by intro _ _ _ _ h; simp [init] at h

/-- **A step that meets the condition keeps the invariant.** -/
theorem SettledInv.step {m m' : Requests} {timed : ℚ × Action Json AlgorandError}
    (hinv : SettledInv m) (hfetch : FetchSettled m timed) (h : m.step timed = some m') :
    SettledInv m' := by
  obtain ⟨now, action⟩ := timed
  constructor
  · intro txid entry hlookup
    rcases entry_of_step h hlookup with ⟨hold, -⟩ | ⟨-, -, i, haction, hpending, -⟩
    · exact hinv.entries txid entry hold
    · -- The entry was just stored, so the cache may hold something.
      exact hfetch (max_pos_of_step h hlookup) i txid entry.2 haction hpending
  · intro i txid readAt payload hi
    rcases hit_of_step h hi with hold | ⟨-, -, -, hget⟩
    · exact hinv.hits i txid readAt payload hold
    · rw [TTLCache.get_fst, Option.bind_eq_some_iff] at hget
      obtain ⟨entry, hlive, hvalue⟩ := hget
      obtain ⟨payload', hentry, hsettled⟩ :=
        hinv.entries txid entry (TTLCache.live_eq_some_iff.mp hlive).1
      obtain rfl := Option.some.inj (hvalue.symm.trans hentry)
      exact hsettled

theorem SettledInv.onlySettled {m : Requests} (hinv : SettledInv m) : OnlySettled m where
  live := by
    intro now txid entry _ hlive
    obtain ⟨payload, hentry, hsettled⟩ :=
      hinv.entries txid entry (TTLCache.live_eq_some_iff.mp hlive).1
    exact ⟨payload, hentry, hsettled, answeredOk_of_settled hsettled⟩
  remembered := by
    intro i txid readAt payload hi
    exact answeredOk_of_settled (hinv.hits i txid readAt payload hi)
  fetched := by
    intro _ _ _ payload _ hsettled
    exact answeredOk_of_settled hsettled

/-- **The condition is needed**: what a fetch brings is live right after it. -/
theorem fetchSettled_of_onlySettled {m m' : Requests} {timed : ℚ × Action Json AlgorandError}
    (h : m.step timed = some m') (honly : OnlySettled m') : FetchSettled m timed := by
  obtain ⟨now, action⟩ := timed
  intro hmax i txid value haction hpending
  simp only at haction
  subst haction
  obtain ⟨hle, hclock, -⟩ := step_cases h
  obtain ⟨m'', hstep, hcache, -, -⟩ := step_complete_ok hle hpending value
  obtain rfl := Option.some.inj (hstep.symm.trans h)
  -- The kind is cacheable, so the payload is stored, whatever it is.
  have hkind : ttlSeconds "transaction" ≠ none := by simp [ttlSeconds, ttlTable]
  have hlive : m''.cache.live now ("transaction", txid) = some (now, value) := by
    rw [hcache]
    exact TTLCache.live_set_self hkind hmax now txid value
  obtain ⟨payload, hentry, hsettled, -⟩ := honly.live now txid _ hclock.le hlive
  exact ⟨payload, hentry, hsettled⟩

/-- **Only settled transactions are remembered**, in every state along a run, exactly when every
    fetch for a transaction that comes back in the run brings a settled payload (or the cache may
    hold nothing). -/
theorem only_settled_cached_iff {maxEntries : ℕ} {actions : List (ℚ × Action Json AlgorandError)}
    {m : Requests} (h : runs maxEntries actions = some m) :
    AllStates step (init maxEntries) OnlySettled actions ↔
      AllSteps step (init maxEntries) FetchSettled actions := by
  apply allStates_iff h (settledInv_init maxEntries)
  · intro s timed s' hinv hfetch hstep
    exact hinv.step hfetch hstep
  · intro s hinv
    exact hinv.onlySettled
  · intro s timed s' hstep honly
    exact fetchSettled_of_onlySettled hstep honly

/-! ### Two runs -/

/-- The transaction id of 32 zero bytes. -/
def sampleTxid : String := "AAAAAAAAAAAAAAAAAAAAAAAAAAAAAAAAAAAAAAAAAAAAAAAAAAAA"

/-- The payload of a payment confirmed in round 90. -/
def confirmedPayload : Json :=
  .obj [("current-round", .int 100), ("transaction", .obj
    [("tx-type", .str "pay"), ("sender", .str "S"), ("confirmed-round", .int 90),
      ("payment-transaction", .obj [("receiver", .str "R"), ("amount", .int 100)])])]

/-- A fetch brings a confirmed transaction, and a second request remembers it. -/
def confirmedRun : List (ℚ × Action Json AlgorandError) :=
  [(2, .start 1 "transaction" sampleTxid), (1, .complete 0 (.ok (some confirmedPayload))),
    (0, .start 0 "transaction" sampleTxid)]

theorem confirmedRun_onlySettled : ∃ m, runs 2048 confirmedRun = some m ∧ OnlySettled m := by
  have hrun : (runs 2048 confirmedRun).isSome := by decide +kernel
  obtain ⟨m, hm⟩ := Option.isSome_iff_exists.mp hrun
  refine ⟨m, hm, (only_settled_cached_iff hm).mpr ?_ [] confirmedRun m rfl hm⟩
  have hsettled : Settled confirmedPayload := ⟨_, _, rfl, rfl, rfl⟩
  refine ⟨?_, ?_, ?_, trivial⟩
  · intro s _ _ i txid value haction
    exact absurd haction (by simp)
  · intro s _ _ i txid value haction _
    obtain ⟨-, hvalue⟩ := Action.complete.inj haction
    exact ⟨_, (Except.ok.inj hvalue).symm, hsettled⟩
  · intro s _ _ i txid value haction
    exact absurd haction (by simp)

/-- What the upstream says of a transaction it does not know yet. -/
def missingPayload : Json := .obj [("current-round", .int 100)]

/-- A fetch brings no transaction, and a second request comes after it. -/
def missingRun : List (ℚ × Action Json AlgorandError) :=
  [(2, .start 1 "transaction" sampleTxid), (1, .complete 0 (.ok (some missingPayload))),
    (0, .start 0 "transaction" sampleTxid)]

/-- **A 404 is remembered**: the second request is answered with it, and the upstream is not
    asked whether the transaction is confirmed by now. -/
theorem missing_remembered : ∃ m, runs 2048 missingRun = some m ∧
    ((m.tasks 1).bind responseOf).map statusOf = some 404 ∧
    ¬AllStates step (init 2048) OnlySettled missingRun := by
  have hrun : (runs 2048 missingRun).isSome := by decide +kernel
  have hstatus : ((runs 2048 missingRun).bind fun m =>
      ((m.tasks 1).bind responseOf).map statusOf) = some 404 := by decide +kernel
  obtain ⟨m, hm⟩ := Option.isSome_iff_exists.mp hrun
  rw [hm, Option.bind_some] at hstatus
  refine ⟨m, hm, hstatus, ?_⟩
  intro honly
  obtain ⟨m₁, hstart, hpending, hmax⟩ : ∃ m₁ : Requests,
      runs 2048 [(0, .start 0 "transaction" sampleTxid)] = some m₁ ∧
        m₁.tasks 0 = some (.pending ("transaction", sampleTxid)) ∧ 0 < m₁.cache.max :=
    ⟨_, rfl, rfl, by decide⟩
  obtain ⟨m₂, hstore, -⟩ := runFrom_cons_eq_some.mp hm
  obtain ⟨m₁', hstart', hstep⟩ := runFrom_cons_eq_some.mp hstore
  obtain rfl := Option.some.inj (hstart.symm.trans hstart')
  -- The state after the second step has the payload as a live entry.
  have hsettled := fetchSettled_of_onlySettled hstep
    (honly [(2, .start 1 "transaction" sampleTxid)] _ m₂ rfl hstore)
  obtain ⟨payload, hpayload, members, tx, hobj, htx, -⟩ :=
    hsettled hmax 0 sampleTxid (some missingPayload) rfl hpending
  obtain rfl := Json.obj.inj ((Option.some.inj hpayload).trans hobj)
  exact absurd htx (by simp [Dict.get_cons])

end Machine

end Algorandscout
