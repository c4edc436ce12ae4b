import Algorandscout.CacheRuns
import Algorandscout.Service
import Algorandscout.Library.Runs

namespace Algorandscout

open Library

/-!
# Cached transactions and the chain tip

A confirmed transaction never changes, and the route caches the payload that holds it.  The
payload holds the chain tip too, which does change, and `confirmations` is computed from it.

* `Indexer` — an indexer with one confirmed transaction, whose tip never goes back;
* `Indexer.step` — requests for that transaction, and any other use of the cache;
* `Indexer.Inv` — an entry of the transaction is the payload of the time it was stored at;
* `response_fresh_of_current`, `current_of_response_fresh` — the next response is the one that a
  fresh payload gives exactly when no entry with an outdated tip is live;
* `cached_transaction_fresh_iff` — the same for all requests of a run;
* `stale_confirmations` — a run with such an entry.
-/

/-- An indexer that holds the confirmed transaction `txid`. -/
structure Indexer where
  txid : String
  valid : validateTxid txid = .ok txid
  /-- The transaction, which never changes. -/
  record : Dict
  round : ℕ
  round_pos : 0 < round
  confirmed : record.get "confirmed-round" = .int round
  /-- The round that the indexer has reached, at each time. -/
  tip : ℚ → ℕ
  tip_mono : Monotone tip
  /-- The answer for the transaction, at each time. -/
  payload : ℚ → Dict
  payload_record : ∀ t, (payload t).get "transaction" = .obj record
  payload_tip : ∀ t, (payload t).get "current-round" = .int (tip t)
  /-- The answers to other calls. -/
  elsewhere : Call → Except AlgorandError Json

/-- A cache, and the time it was last used at. -/
structure Serving where
  cache : TTLCache Json
  clock : ℚ

namespace Indexer

/-- What the indexer answers at time `t`. -/
def answer (ix : Indexer) (t : ℚ) : Call → Except AlgorandError Json
  | .transaction txid =>
    if txid = ix.txid then .ok (.obj (ix.payload t)) else ix.elsewhere (.transaction txid)
  | call => ix.elsewhere call

/-- The pair that the transaction is cached under. -/
def pair (ix : Indexer) : CacheKey := ("transaction", ix.txid)

/-- What happens to the cache: a request for the transaction, or any call that stores nothing
    for it. -/
inductive Event (ix : Indexer) where
  | request
  | traffic (call : CacheCall Json) (other : ∀ value, call ≠ .set "transaction" ix.txid value)

/-- The route for the transaction, at time `now`. -/
def serve (ix : Indexer) (s : Serving) (now : ℚ) :
    Except ServiceError MappedTransaction × TTLCache Json :=
  (getTransaction ix.txid).run (atOnce now (ix.answer now)) s.cache

/-- One event at time `now`. -/
def step (ix : Indexer) (s : Serving) (timed : ℚ × ix.Event) : Option Serving :=
  let (now, event) := timed
  if now < s.clock then none
  else
    match event with
    | .request => some ⟨(ix.serve s now).2, now⟩
    | .traffic call _ => some ⟨call.apply s.cache now, now⟩

/-- The events so far, latest first, from the empty cache. -/
abbrev runs (ix : Indexer) (maxEntries : ℕ) : List (ℚ × ix.Event) → Option Serving :=
  runFrom ix.step ⟨TTLCache.new maxEntries, 0⟩

/-- The response to a request at time `now`. -/
def response (ix : Indexer) (s : Serving) (now : ℚ) : Except ServiceError MappedTransaction :=
  (ix.serve s now).1

/-- The response that a fresh payload gives at time `t`. -/
def fresh (ix : Indexer) (t : ℚ) : Except ServiceError MappedTransaction :=
  transactionResponse (.obj (ix.payload t))

/-- **The condition**: the entry that a request at time `now` would hit, if any, was stored when
    the indexer had reached the same round, or it has not passed the transaction's round yet. -/
def TipCurrent (ix : Indexer) (s : Serving) (now : ℚ) : Prop :=
  ∀ entry, s.cache.live now ix.pair = some entry →
    ix.tip entry.1 = ix.tip now ∨ (ix.tip entry.1 ≠ 0 ∧ ix.tip now ≤ ix.round)

/-- The condition on an event, which is one on requests only. -/
def RequestCurrent (ix : Indexer) (s : Serving) : ℚ × ix.Event → Prop
  | (now, .request) => ix.TipCurrent s now
  | (_, .traffic _ _) => True

/-- A request is answered as a fresh payload is. -/
def AnsweredFresh (ix : Indexer) (s : Serving) : ℚ × ix.Event → Prop
  | (now, .request) => ix.response s now = ix.fresh now
  | (_, .traffic _ _) => True

/-- All events of the run meet the property, each in the state that it starts from. -/
abbrev AllEvents (ix : Indexer) (maxEntries : ℕ) (P : Serving → ℚ × ix.Event → Prop) :
    List (ℚ × ix.Event) → Prop :=
  AllSteps ix.step ⟨TTLCache.new maxEntries, 0⟩ P

variable {ix : Indexer} {s : Serving} {now : ℚ}

/-! ### What a request does -/

theorem serve_eq (ix : Indexer) (s : Serving) (now : ℚ) :
    ix.serve s now =
      let answered := s.cache.getOrFetch (ε := AlgorandError) now now "transaction" ix.txid
        (.ok (some (.obj (ix.payload now))))
      ((answered.1.mapError ServiceError.algorand).bind fun value =>
        transactionResponse (Json.ofValue value), answered.2) := by
  have hanswer : ix.answer now (.transaction ix.txid) = .ok (.obj (ix.payload now)) := by
    show (if ix.txid = ix.txid then _ else _) = _
    rw [if_pos rfl]
  unfold serve
  rw [run_getTransaction ix.valid, hanswer]
  rfl

/-- A miss is answered with the fresh payload, which is stored. -/
theorem serve_of_miss (h : (s.cache.get now "transaction" ix.txid).1 = none) :
    ix.serve s now = (ix.fresh now, (s.cache.get now "transaction" ix.txid).2.set now
      "transaction" ix.txid (some (.obj (ix.payload now)))) := by
  rw [serve_eq, TTLCache.getOrFetch_of_miss h]
  rfl

/-- A hit is answered with the payload that was stored. -/
theorem serve_of_hit {hit : Json} (h : (s.cache.get now "transaction" ix.txid).1 = some hit) :
    ix.serve s now = (transactionResponse hit, (s.cache.get now "transaction" ix.txid).2) := by
  rw [serve_eq, TTLCache.getOrFetch_of_hit h]
  rfl

/-! ### The invariant -/

/-- An entry of the transaction is the payload of the time it was stored at. -/
def Inv (ix : Indexer) (s : Serving) : Prop :=
  ∀ storedAt value, s.cache.data.lookup ix.pair = some (storedAt, value) →
    value = some (.obj (ix.payload storedAt)) ∧ storedAt ≤ s.clock

/-- What a `get` leaves was there before. -/
theorem Inv.get (hinv : ix.Inv s) (hle : s.clock ≤ now) (kind key : String) :
    ix.Inv ⟨(s.cache.get now kind key).2, now⟩ := by
  intro storedAt value hlookup
  obtain ⟨hvalue, hbefore⟩ := hinv storedAt value (TTLCache.lookup_of_lookup_get hlookup)
  exact ⟨hvalue, hbefore.trans hle⟩

/-- A `set` at the present time stores the present payload, or for another pair. -/
theorem Inv.set (hinv : ix.Inv s) (hle : s.clock ≤ now) (kind key : String) (value : Option Json)
    (h : (kind, key) = ix.pair → value = some (.obj (ix.payload now))) :
    ix.Inv ⟨s.cache.set now kind key value, now⟩ := by
  intro storedAt stored hlookup
  by_cases hkind : ttlSeconds kind = none
  · rw [TTLCache.set_of_uncacheable hkind] at hlookup
    obtain ⟨hvalue, hbefore⟩ := hinv storedAt stored hlookup
    exact ⟨hvalue, hbefore.trans hle⟩
  · rcases TTLCache.lookup_of_lookup_set hlookup hkind with ⟨hpair, hentry⟩ | ⟨-, hold⟩
    · obtain ⟨rfl, rfl⟩ := Prod.mk.inj hentry
      exact ⟨h hpair.symm, le_refl _⟩
    · obtain ⟨hvalue, hbefore⟩ := hinv storedAt stored hold
      exact ⟨hvalue, hbefore.trans hle⟩

/-- Time does not go back. -/
theorem clock_le_of_step {s' : Serving} {event : ix.Event} (h : ix.step s (now, event) = some s') :
    s.clock ≤ now := by
  unfold Indexer.step at h
  simp only at h
  split_ifs at h with hclock
  exact not_lt.mp hclock

/-- **Every event keeps the invariant.** -/
theorem Inv.step {s' : Serving} {event : ix.Event} (hinv : ix.Inv s)
    (h : ix.step s (now, event) = some s') : ix.Inv s' := by
  have hle := clock_le_of_step h
  unfold Indexer.step at h
  simp only [not_lt.mpr hle, ↓reduceIte] at h
  cases event with
  | request =>
    obtain rfl := Option.some.inj h
    cases hget : (s.cache.get now "transaction" ix.txid).1 with
    | some hit =>
      rw [serve_of_hit hget]
      exact hinv.get hle _ _
    | none =>
      rw [serve_of_miss hget]
      -- What a miss stores is the payload of this moment.
      exact (hinv.get hle _ _).set le_rfl _ _ _ fun _ => rfl
  | traffic call other =>
    obtain rfl := Option.some.inj h
    cases call with
    | get kind key => exact hinv.get hle kind key
    | set kind key value =>
      refine hinv.set hle kind key value fun hpair => ?_
      -- Other traffic stores nothing for the transaction.
      obtain ⟨rfl, rfl⟩ := Prod.mk.inj hpair
      exact absurd rfl (other value)
    | clear =>
      intro storedAt value hlookup
      simp [CacheCall.apply, TTLCache.clear] at hlookup

theorem inv_runs {maxEntries : ℕ} {events : List (ℚ × ix.Event)}
    (h : ix.runs maxEntries events = some s) : ix.Inv s := by
  refine runFrom_invariant (P := fun _ s => ix.Inv s) ?_ ?_ h
  · intro storedAt value hlookup
    simp [TTLCache.new] at hlookup
  · intro _ _ _ _ _ hinv hstep
    exact hinv.step hstep

/-! ### The response -/

/-- A request is answered as a fresh payload was when the entry it hits was stored. -/
theorem response_eq (hinv : ix.Inv s) (now : ℚ) :
    ix.response s now = ix.fresh (match s.cache.live now ix.pair with
      | some entry => entry.1
      | none => now) := by
  have hget := TTLCache.get_fst s.cache now "transaction" ix.txid
  change _ = (s.cache.live now ix.pair).bind Prod.snd at hget
  unfold response
  cases hlive : s.cache.live now ix.pair with
  | none =>
    rw [hlive] at hget
    rw [serve_of_miss hget]
  | some entry =>
    obtain ⟨storedAt, value⟩ := entry
    obtain ⟨rfl, -⟩ := hinv storedAt value (TTLCache.live_eq_some_iff.mp hlive).1
    rw [hlive] at hget
    rw [serve_of_hit hget]
    rfl

theorem record_truthy (ix : Indexer) : (Json.obj ix.record).truthy = true := by
  have hconfirmed := ix.confirmed
  cases hempty : ix.record with
  | nil =>
    rw [hempty, Dict.get_nil] at hconfirmed
    exact absurd hconfirmed (by simp)
  | cons entry record => rfl

/-- A transaction that cannot be mapped is answered in one way at all times. -/
theorem fresh_of_error {e : PyError} (he : mapTransaction (.obj ix.record) = .error e) (t : ℚ) :
    ix.fresh t = .error (.unhandled e) := by
  unfold fresh transactionResponse mapping
  simp only [Json.asDict_obj, Except.mapError, ok_bind, ix.payload_record, ix.record_truthy, he]
  rfl

/-- `confirmations`, from the two rounds. -/
def confirmationsAt (tip round : ℕ) : Option Int :=
  if tip = 0 then none else some (max 0 ((tip : Int) - round))

/-- A later tip shows in the confirmations, unless it has not passed the round. -/
theorem confirmationsAt_eq_iff {earlier later round : ℕ} (h : earlier ≤ later) :
    confirmationsAt earlier round = confirmationsAt later round ↔
      earlier = later ∨ (earlier ≠ 0 ∧ later ≤ round) := by
  unfold confirmationsAt
  split_ifs with hearlier hlater hlater
  · simp [hearlier, hlater]
  · simp only [hearlier, ne_eq, not_true_eq_false, false_and, or_false, false_iff]
    omega
  · omega
  · rw [Option.some.injEq]
    omega

/-- The fresh response: the transaction, with the confirmations of the moment. -/
theorem fresh_eq {m : MappedTransaction} (hm : mapTransaction (.obj ix.record) = .ok m) (t : ℚ) :
    ix.fresh t = .ok { m with confirmations := confirmationsAt (ix.tip t) ix.round } := by
  obtain ⟨members, detailKey, counterparty, value, heq, hfields⟩ :=
    (mapTransaction_eq_ok_iff.mp hm).1.fieldsOf
  obtain rfl := Json.obj.inj heq
  have hblock : m.blockNumber = .int ix.round := by
    rw [hfields.blockNumber_eq, ix.confirmed]
  have hround : (Json.int ix.round).truthy = true := by
    have hpos := ix.round_pos
    simp only [Json.truthy_int, bne_iff_ne, ne_eq]
    omega
  unfold fresh transactionResponse mapping
  simp only [Json.asDict_obj, Except.mapError, ok_bind, ix.payload_record, ix.payload_tip,
    ix.record_truthy, hm, hblock]
  unfold confirmationsOf confirmationsAt
  rw [hround]
  by_cases htip : ix.tip t = 0
  · simp [htip]
  · have htruthy : (Json.int (ix.tip t)).truthy = true := by
      simp only [Json.truthy_int, bne_iff_ne, ne_eq]
      omega
    rw [htruthy]
    simp [htip]

/-- An entry was stored before now, at a tip that is not beyond the present one. -/
theorem Inv.tip_le (hinv : ix.Inv s) (hle : s.clock ≤ now) {entry : ℚ × Option Json}
    (hlive : s.cache.live now ix.pair = some entry) : ix.tip entry.1 ≤ ix.tip now := by
  apply ix.tip_mono
  exact (hinv entry.1 entry.2 (TTLCache.live_eq_some_iff.mp hlive).1).2.trans hle

/-- A response is fresh if no entry with an outdated tip is live. -/
theorem response_fresh_of_current (hinv : ix.Inv s) (hle : s.clock ≤ now)
    (hcurrent : ix.TipCurrent s now) : ix.response s now = ix.fresh now := by
  rw [response_eq hinv now]
  cases hlive : s.cache.live now ix.pair with
  | none => rfl
  | some entry =>
    have hsame :=
      (confirmationsAt_eq_iff (hinv.tip_le hle hlive)).mpr (hcurrent entry hlive)
    show ix.fresh entry.1 = ix.fresh now
    cases hmap : mapTransaction (.obj ix.record) with
    | ok m => rw [fresh_eq hmap, fresh_eq hmap, hsame]
    | error e => rw [fresh_of_error hmap, fresh_of_error hmap]

/-- Only then is it fresh, if the transaction can be mapped at all. -/
theorem current_of_response_fresh (hinv : ix.Inv s) (hle : s.clock ≤ now) {m : MappedTransaction}
    (hm : mapTransaction (.obj ix.record) = .ok m)
    (heq : ix.response s now = ix.fresh now) : ix.TipCurrent s now := by
  intro entry hlive
  rw [response_eq hinv now, hlive] at heq
  simp only at heq
  rw [fresh_eq hm, fresh_eq hm, Except.ok.injEq, MappedTransaction.mk.injEq] at heq
  -- Of all the fields, only the confirmations can differ.
  have hsame : confirmationsAt (ix.tip entry.1) ix.round =
      confirmationsAt (ix.tip now) ix.round := by tauto
  exact (confirmationsAt_eq_iff (hinv.tip_le hle hlive)).mp hsame

/-- **Cached transactions are fresh** as long as the tip they were cached with is.  In every run,
    every request is answered as a fresh payload is, if none finds an entry with an outdated tip;
    and only then, if the transaction can be mapped at all.  A fresh response carries the
    confirmations of the moment. -/
theorem cached_transaction_fresh_iff {maxEntries : ℕ} {events : List (ℚ × ix.Event)}
    (h : ix.runs maxEntries events = some s) :
    (ix.AllEvents maxEntries ix.RequestCurrent events →
      ix.AllEvents maxEntries ix.AnsweredFresh events) ∧
    ∀ m, mapTransaction (.obj ix.record) = .ok m →
      (ix.AllEvents maxEntries ix.AnsweredFresh events →
        ix.AllEvents maxEntries ix.RequestCurrent events) ∧
      ∀ t, 0 < ix.tip t → ix.fresh t =
        .ok { m with confirmations := some (max 0 ((ix.tip t : Int) - ix.round)) } := by
  constructor
  · intro hcurrent
    refine hcurrent.imp h ?_
    intro earlier s ⟨now, event⟩ s' hrun hstep
    cases event with
    | request => exact response_fresh_of_current (inv_runs hrun) (clock_le_of_step hstep)
    | traffic call other => exact id
  · intro m hm
    constructor
    · intro hfresh
      refine hfresh.imp h ?_
      intro earlier s ⟨now, event⟩ s' hrun hstep
      cases event with
      | request => exact current_of_response_fresh (inv_runs hrun) (clock_le_of_step hstep) hm
      | traffic call other => exact id
    · intro t hpos
      rw [fresh_eq hm]
      unfold confirmationsAt
      rw [if_neg hpos.ne']

/-! ### A stale tip -/

/-- A payment confirmed in round 90; the chain is at round 100 for a minute, then at 120. -/
def sample : Indexer where
  txid := String.ofList (List.replicate 52 'A')
  valid := by decide +kernel
  record := [("tx-type", .str "pay"), ("sender", .str "S"), ("confirmed-round", .int 90),
    ("payment-transaction", .obj [("receiver", .str "R"), ("amount", .int 100)])]
  round := 90
  round_pos := by decide
  confirmed := rfl
  tip t := if t < 60 then 100 else 120
  tip_mono := by
    intro a b hle
    show (if a < 60 then 100 else 120) ≤ if b < 60 then 100 else 120
    split_ifs with ha hb hb
    · exact le_rfl
    · decide
    · exact absurd (hle.trans_lt hb) ha
    · exact le_rfl
  payload t := [("current-round", .int (if t < 60 then 100 else 120)), ("transaction", .obj
    [("tx-type", .str "pay"), ("sender", .str "S"), ("confirmed-round", .int 90),
      ("payment-transaction", .obj [("receiver", .str "R"), ("amount", .int 100)])])]
  payload_record _ := rfl
  payload_tip t := by
    show Json.int _ = Json.int _
    split_ifs
    · rfl
    · rfl
  elsewhere _ := .error ⟨false, "transport failure", none, ""⟩

/-- One request, at time 0. -/
def sampleEvents : List (ℚ × sample.Event) := [(0, .request)]

theorem exists_run_sampleEvents : ∃ s, sample.runs 2048 sampleEvents = some s ∧ s.clock = 0 ∧
    ∃ value, s.cache.live 60 sample.pair = some (0, value) := by
  refine ⟨_, rfl, rfl, some (.obj (sample.payload 0)), ?_⟩
  show TTLCache.live (sample.serve ⟨TTLCache.new 2048, 0⟩ 0).2 60 sample.pair = _
  rw [serve_of_miss rfl]
  have hkind : ttlSeconds "transaction" = some 3600 := rfl
  refine TTLCache.live_eq_some_iff.mpr ⟨?_, 3600, hkind, by norm_num⟩
  exact TTLCache.lookup_set_self (by rw [hkind]; simp) (by decide) 0 sample.txid _

/-- Half a minute later the entry is still fresh: both requests are answered as a fresh payload
    is. -/
theorem sample_fresh : ∃ s, sample.runs 2048 ((30, .request) :: sampleEvents) = some s ∧
    sample.AllEvents 2048 sample.AnsweredFresh ((30, .request) :: sampleEvents) := by
  obtain ⟨s, hrun, hclock, -⟩ := exists_run_sampleEvents
  have hlater : ∃ s', sample.step s (30, .request) = some s' := by
    unfold Indexer.step
    simp only [hclock, not_lt.mpr (show (0 : ℚ) ≤ 30 by norm_num), ↓reduceIte]
    exact ⟨_, rfl⟩
  obtain ⟨s', hstep⟩ := hlater
  have hruns := runFrom_cons_eq_some.mpr ⟨s, hrun, hstep⟩
  refine ⟨s', hruns, (cached_transaction_fresh_iff hruns).1 ⟨?_, ?_, trivial⟩⟩
  · intro s₁ hs₁ entry hlive
    obtain rfl := Option.some.inj (hrun.symm.trans hs₁)
    have hbefore := (inv_runs hrun entry.1 entry.2 (TTLCache.live_eq_some_iff.mp hlive).1).2
    rw [hclock] at hbefore
    have hearlier : entry.1 < 60 := by linarith
    left
    show (if entry.1 < 60 then 100 else 120) = if (30 : ℚ) < 60 then 100 else 120
    rw [if_pos hearlier, if_pos (by norm_num)]
  · intro s₀ hs₀ entry hlive
    obtain rfl := Option.some.inj hs₀
    cases hlive

/-- **A minute later the response is stale**: it counts 10 confirmations where there are 30. -/
theorem stale_confirmations : ∃ s m m', sample.runs 2048 sampleEvents = some s ∧
    sample.response s 60 = .ok m ∧ m.confirmations = some 10 ∧
    sample.fresh 60 = .ok m' ∧ m'.confirmations = some 30 ∧
    ¬sample.AllEvents 2048 sample.AnsweredFresh ((60, .request) :: sampleEvents) := by
  obtain ⟨s, hrun, -, value, hlive⟩ := exists_run_sampleEvents
  obtain ⟨m, hm⟩ : ∃ m, mapTransaction (.obj sample.record) = .ok m :=
    ⟨_, mapTransaction_leaf rfl⟩
  have hearlier : confirmationsAt (sample.tip 0) sample.round = some 10 := by decide +kernel
  have hlater : confirmationsAt (sample.tip 60) sample.round = some 30 := by decide +kernel
  have hstale : sample.response s 60 = .ok { m with confirmations := some 10 } := by
    rw [response_eq (inv_runs hrun), hlive]
    simp only
    rw [fresh_eq hm, hearlier]
  have hfresh : sample.fresh 60 = .ok { m with confirmations := some 30 } := by
    rw [fresh_eq hm, hlater]
  refine ⟨s, _, _, hrun, hstale, rfl, hfresh, rfl, ?_⟩
  intro hall
  have heq : sample.response s 60 = sample.fresh 60 := hall.1 s hrun
  rw [hstale, hfresh] at heq
  have hconfirmations : (some 10 : Option Int) = some 30 :=
    congrArg MappedTransaction.confirmations (Except.ok.inj heq)
  exact absurd hconfirmations (by decide)

end Indexer

end Algorandscout
