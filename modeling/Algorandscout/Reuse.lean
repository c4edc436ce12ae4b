import Algorandscout.CacheRuns
import Algorandscout.Library.Linearization
import Algorandscout.Network

namespace Algorandscout

open Library Library.Program

/-!
# When nothing is sent

The cache is there to spare attempts.  A run of the network did its operations on the cache one
after the other, and what a sequential history of the cache answers is known.

* `History.exists_latestSet`, `History.used_of_touchedSince` — what is latest, and what has pushed
  towards an eviction, after a given `set`;
* `History.get_of_set` — so a `get` within the TTL finds what was stored since;
* `cache_of_replays` — the cache of a run is that of its calls on the cache;
* `answered_without_request` — whatever requests run at the same time, a request for what was
  stored within the TTL is answered when it starts, and sends nothing.
-/

/-! ### Histories of the cache -/

variable {V : Type}

/-- The pair that a call is about. -/
def CacheCall.pair : CacheCall V → Option CacheKey
  | .get kind key => some (kind, key)
  | .set kind key _ => some (kind, key)
  | .clear => none

theorem CacheCall.pair_of_touched {c : TTLCache V} {now : ℚ} {call : CacheCall V} {p : CacheKey}
    (h : call.touched c now = some p) : call.pair = some p := by
  cases call with
  | get kind key => exact (Option.ite_none_right_eq_some.mp h).2
  | set kind key value => exact (Option.ite_none_right_eq_some.mp h).2
  | clear => cases h

namespace History

variable {h : History V} {p q : CacheKey} {t now : ℚ} {value : Option V}

/-- A pair that was stored, and not cleared, has a latest `set`, which is no earlier. -/
theorem exists_latestSet (hclock : h.Chronological) (hclear : ∀ e ∈ h, e.2 ≠ .clear)
    (hset : (t, .set p.1 p.2 value) ∈ h) :
    ∃ later stored, latestSet p h = some (later, stored) ∧ t ≤ later ∧
      (later, .set p.1 p.2 stored) ∈ h := by
  induction h with
  | nil => cases hset
  | cons e h ih =>
    obtain ⟨now, call⟩ := e
    obtain ⟨hle, hclock'⟩ := List.pairwise_cons.mp hclock
    have hclear' : ∀ e ∈ h, e.2 ≠ .clear := fun e he => hclear e (List.mem_cons_of_mem _ he)
    -- Unless the call stores the pair, the latest `set` is that of the earlier calls.
    have hearlier : latestSet p ((now, call) :: h) = latestSet p h →
        (t, .set p.1 p.2 value) ∈ h → ∃ later stored,
          latestSet p ((now, call) :: h) = some (later, stored) ∧ t ≤ later ∧
            (later, .set p.1 p.2 stored) ∈ (now, call) :: h := by
      intro heq hmem
      obtain ⟨later, stored, hlatest, hle, hstored⟩ := ih hclock' hclear' hmem
      exact ⟨later, stored, heq.trans hlatest, hle, List.mem_cons_of_mem _ hstored⟩
    cases call with
    | get kind key =>
      rcases List.mem_cons.mp hset with heq | hmem
      · cases heq
      · exact hearlier rfl hmem
    | clear => exact absurd rfl (hclear _ List.mem_cons_self)
    | set kind key stored =>
      by_cases hp : p = (kind, key)
      · subst hp
        refine ⟨now, stored, by rw [latestSet, if_pos rfl], ?_, List.mem_cons_self⟩
        rcases List.mem_cons.mp hset with heq | hmem
        · exact (Prod.mk.inj heq).1.le
        · exact hle t (List.mem_map_of_mem hmem)
      · rcases List.mem_cons.mp hset with heq | hmem
        · obtain ⟨rfl, rfl, -⟩ := CacheCall.set.inj (Prod.mk.inj heq).2
          exact absurd rfl hp
        · exact hearlier (by rw [latestSet, if_neg hp]) hmem

/-- What was touched since the pair was stored is another pair, which was used since. -/
theorem used_of_touchedSince {maxEntries : ℕ} (hclock : h.Chronological)
    (hkind : (ttlSeconds p.1).isSome) (hset : (t, .set p.1 p.2 value) ∈ h)
    (hq : q ∈ touchedSince p (touches maxEntries h)) :
    ∃ e ∈ h, t ≤ e.1 ∧ e.2.pair = some q := by
  induction h with
  | nil => cases hset
  | cons e h ih =>
    obtain ⟨now, call⟩ := e
    obtain ⟨hle, hclock'⟩ := List.pairwise_cons.mp hclock
    -- The call that stored the pair touched it.
    have hearlier : call.touched (run maxEntries h) now ≠ some p →
        (t, .set p.1 p.2 value) ∈ h := by
      intro hne
      rcases List.mem_cons.mp hset with heq | hmem
      · obtain ⟨-, rfl⟩ := Prod.mk.inj heq
        rw [CacheCall.touched_set, if_pos hkind] at hne
        exact absurd rfl hne
      · exact hmem
    have hbefore : (t, CacheCall.set p.1 p.2 value) ∈ h →
        q ∈ touchedSince p (touches maxEntries h) →
          ∃ e ∈ (now, call) :: h, t ≤ e.1 ∧ e.2.pair = some q := by
      intro hmem hq
      obtain ⟨e, he, hfound⟩ := ih hclock' hmem hq
      exact ⟨e, List.mem_cons_of_mem _ he, hfound⟩
    rw [touches] at hq
    cases htouched : call.touched (run maxEntries h) now with
    | none =>
      rw [htouched] at hq hearlier
      exact hbefore (hearlier (by simp)) hq
    | some r =>
      rw [htouched, Option.toList_some, List.singleton_append] at hq
      by_cases hr : r = p
      · rw [hr] at hq
        simp [touchedSince] at hq
      · have hmem := hearlier (by rw [htouched]; simpa using hr)
        rw [touchedSince_cons hr, Finset.mem_insert] at hq
        rcases hq with rfl | hq
        · exact ⟨(now, call), List.mem_cons_self, hle t (List.mem_map_of_mem hmem),
            CacheCall.pair_of_touched htouched⟩
        · exact hbefore hmem hq

/-- **A `get` finds what was stored** within the TTL, or later, when fewer than `max` other pairs
    were used since. -/
theorem get_of_set {maxEntries : ℕ} {kind key : String} {ttl : ℚ} (hclock : h.Chronological)
    (hnow : ∀ e ∈ h, e.1 ≤ now) (hclear : ∀ e ∈ h, e.2 ≠ .clear)
    (httl : ttlSeconds kind = some ttl) (hset : (t, .set kind key value) ∈ h)
    (hage : now - t ≤ ttl) {others : Finset CacheKey}
    (hothers : ∀ e ∈ h, t ≤ e.1 → ∀ q, e.2.pair = some q → q ≠ (kind, key) → q ∈ others)
    (hroom : others.card < maxEntries) :
    ∃ later stored, t ≤ later ∧ (later, .set kind key stored) ∈ h ∧
      ((run maxEntries h).get now kind key).1 = stored := by
  have hinv := cacheInv_run maxEntries h hclock now hnow
  obtain ⟨later, stored, hlatest, hle, hstored⟩ :=
    exists_latestSet (p := (kind, key)) hclock hclear hset
  have hkind : (ttlSeconds kind).isSome := by rw [httl]; rfl
  have htouched : touchedSince (kind, key) (touches maxEntries h) ⊆ others := by
    intro q hq
    obtain ⟨e, he, hsince, hpair⟩ := used_of_touchedSince (p := (kind, key)) hclock hkind hset hq
    exact hothers e he hsince q hpair (ne_of_mem_touchedSince hq)
  have hlookup := hinv.complete (kind, key) (later, stored) ttl hlatest httl (by linarith) (by
    rw [run_max]
    exact (Finset.card_le_card htouched).trans_lt hroom)
  have hlive : (run maxEntries h).live now (kind, key) = some (later, stored) :=
    TTLCache.live_eq_some_iff.mpr ⟨hlookup, ttl, httl, by linarith⟩
  refine ⟨later, stored, hle, hstored, ?_⟩
  rw [TTLCache.get_fst, hlive]
  rfl

end History

/-! ### The cache of a run -/

variable {sha512_256 : List UInt8 → Digest} {keyText : KeyText} {config : AlgorandConfig}

/-- The call on the cache that an operation is, if it is one. -/
def cacheCall : ℚ × Entry StackOp.Answer → Option (ℚ × CacheCall Json)
  | (_, ⟨.http _, _⟩) => none
  | (now, ⟨.cacheGet kind key, _⟩) => some (now, .get kind key)
  | (now, ⟨.cacheSet kind key value, _⟩) => some (now, .set kind key value)

/-- **The cache of a run** is that of its calls on the cache, in their order. -/
theorem cache_of_replays {maxEntries : ℕ} {history : NetworkLog} {cache : TTLCache Json}
    (h : System.Replays (network sha512_256 keyText config) (TTLCache.new maxEntries) history
      cache) : cache = History.run maxEntries (history.filterMap cacheCall) := by
  induction h with
  | nil => rfl
  | @answered history cache now op earlier awaited answer ih =>
    cases op with
    | http op => exact ih
    | cacheGet kind key => cases awaited
    | cacheSet kind key value => cases awaited
  | @at_once history cache now op earlier at_once ih =>
    cases op with
    | http op => cases at_once
    | cacheGet kind key =>
      show (cache.get now kind key).2 = _
      rw [ih]
      rfl
    | cacheSet kind key value =>
      show cache.set now kind key value = _
      rw [ih]
      rfl

theorem time_of_cacheCall {entry : ℚ × Entry StackOp.Answer} {e : ℚ × CacheCall Json}
    (h : cacheCall entry = some e) : e.1 = entry.1 ∧ e.2 ≠ .clear := by
  obtain ⟨t, op, answer⟩ := entry
  cases op with
  | http op => cases h
  | cacheGet kind key =>
    obtain rfl := Option.some.inj h
    exact ⟨rfl, nofun⟩
  | cacheSet kind key value =>
    obtain rfl := Option.some.inj h
    exact ⟨rfl, nofun⟩

theorem eq_of_cacheCall_set {entry : ℚ × Entry StackOp.Answer} {t : ℚ} {kind key : String}
    {value : Option Json} (h : cacheCall entry = some (t, .set kind key value)) :
    entry = (t, ⟨.cacheSet kind key value, ()⟩) := by
  obtain ⟨now, op, answer⟩ := entry
  cases op with
  | http op => cases h
  | cacheGet kind key => cases h
  | cacheSet kind key value =>
    cases h
    rfl

theorem op_of_cacheCall {entry : ℚ × Entry StackOp.Answer} {e : ℚ × CacheCall Json}
    (h : cacheCall entry = some e) {pair : CacheKey} (hpair : e.2.pair = some pair) :
    entry.2.1 = .cacheGet pair.1 pair.2 ∨
      ∃ value, entry.2.1 = .cacheSet pair.1 pair.2 value := by
  obtain ⟨now, op, answer⟩ := entry
  cases op with
  | http op => cases h
  | cacheGet kind key =>
    obtain rfl := Option.some.inj h
    obtain rfl := Option.some.inj hpair
    exact .inl rfl
  | cacheSet kind key value =>
    obtain rfl := Option.some.inj h
    obtain rfl := Option.some.inj hpair
    exact .inr ⟨value, rfl⟩

theorem chronological_filterMap {history : NetworkLog}
    (h : history.Pairwise fun after before => before.1 ≤ after.1) :
    History.Chronological (history.filterMap cacheCall) := by
  unfold History.Chronological
  rw [List.pairwise_map, List.pairwise_filterMap]
  refine h.imp fun {after before} hle e he e' he' => ?_
  rw [(time_of_cacheCall he).1, (time_of_cacheCall he').1]
  exact hle

/-! ### Requests for what is stored -/

/-- The value was stored for the pair at time `t`. -/
def StoredAt
    (l : EventLoop StackOp.Answer ServiceError ApiResponse (TTLCache Json) ℚ ApiRequest)
    (t : ℚ) (kind key : String) (value : Option Json) : Prop :=
  (t, (⟨.cacheSet kind key value, ()⟩ : Entry StackOp.Answer)) ∈ System.performed l

/-- The pair was read or stored from the one time to the other. -/
def UsedBetween
    (l : EventLoop StackOp.Answer ServiceError ApiResponse (TTLCache Json) ℚ ApiRequest)
    (first last : ℚ) (pair : CacheKey) : Prop :=
  ∃ entry ∈ System.performed l, first ≤ entry.1 ∧ entry.1 ≤ last ∧
    (entry.2.1 = .cacheGet pair.1 pair.2 ∨ ∃ value, entry.2.1 = .cacheSet pair.1 pair.2 value)

/-- How a request goes that sends nothing. -/
inductive Spared
    (l : EventLoop StackOp.Answer ServiceError ApiResponse (TTLCache Json) ℚ ApiRequest)
    (task : LoopTask StackOp.Answer ServiceError ApiResponse ℚ ApiRequest) (t : ℚ)
    (kind key : String) (response : Json → Except ServiceError ApiResponse) : Prop
  /-- The identifier is malformed. -/
  | refused (e : Raised) (log_eq : task.log = []) (rest_eq : task.rest = .done (.error
      (.validation e)))
  /-- It is answered when it starts, from what was stored at `t` or since. -/
  | hit (storedAt : ℚ) (payload : Json) (since : t ≤ storedAt) (before : storedAt ≤ task.startedAt)
      (stored : StoredAt l storedAt kind key (some payload))
      (log_eq : task.log =
        [(task.startedAt, ⟨.cacheGet kind key, (some payload : Option Json)⟩)])
      (rest_eq : task.rest = .done (response payload))

variable {kind key : String} {call : Call} {response : Json → Except ServiceError ApiResponse}

/-- A route that checks its identifier, fetches through the cache, and maps what it got: it reads
    the cache first, and on a hit that is all. -/
theorem stack_fetched {α ρ : Type} {x : Except Raised ρ} {mapper : Json → Except ServiceError α}
    {f : α → ApiResponse} {route : Route ApiResponse}
    (hroute : route = f <$> (Program.ofExcept (x.mapError ServiceError.validation) >>= fun _ =>
      getOrFetch kind key (upstream call) >>= fun payload => Program.ofExcept (mapper payload))) :
    (∃ e, stack config route = .done (.error (.validation e))) ∨
      ∃ next, stack config route = .perform (.cacheGet kind key) next ∧
        ∀ payload : Json, next (some payload) = .done ((mapper payload).map f) := by
  subst hroute
  cases x with
  | error e => exact .inl ⟨e, rfl⟩
  | ok _ =>
    refine .inr ⟨_, rfl, fun payload => ?_⟩
    show stack config (f <$> Program.ofExcept (mapper payload)) = _
    cases mapper payload <;> rfl

variable (sha512_256 config) in
theorem Cached.stack_cases {request : ApiRequest}
    (h : Cached keyText request kind key call response) :
    (∃ e, stack config (respond sha512_256 keyText config request) =
        .done (.error (.validation e))) ∨
      ∃ next, stack config (respond sha512_256 keyText config request) =
          .perform (.cacheGet kind key) next ∧
        ∀ payload : Json, next (some payload) = .done (response payload) := by
  cases h with
  | transaction txid => exact stack_fetched rfl
  | block roundNumber includeTransactions => exact stack_fetched rfl
  | token assetId => exact stack_fetched rfl
  | smartContract appId => exact stack_fetched rfl

variable {maxEntries : ℕ} {events : List (ℚ × LoopEvent StackOp.Answer ApiRequest)}
  {l : EventLoop StackOp.Answer ServiceError ApiResponse (TTLCache Json) ℚ ApiRequest} {i : ℕ}
  {task : LoopTask StackOp.Answer ServiceError ApiResponse ℚ ApiRequest}

/-- A request through the cache reads it when it starts, and on a hit that is all. -/
theorem Cached.reads_first (hrun : NetworkRun sha512_256 keyText config maxEntries events l)
    (htask : l.tasks i = some task) (hcached : Cached keyText task.request kind key call response) :
    (∃ e, task.log = [] ∧ task.rest = .done (.error (.validation e))) ∨
      ∃ answer : Option Json, (task.startedAt, ⟨.cacheGet kind key, answer⟩) ∈ task.log ∧
        ∀ payload, answer = some payload →
          task.log = [(task.startedAt, ⟨.cacheGet kind key, (some payload : Option Json)⟩)] ∧
            task.rest = .done (response payload) := by
  have htaskInv := System.taskInv_of_run hrun i task htask
  have hreaches : Reaches (stack config (respond sha512_256 keyText config task.request))
      (task.log.map Prod.snd) task.rest := htaskInv.reaches
  generalize hentries : task.log.map Prod.snd = entries at hreaches
  generalize hrest : task.rest = rest at hreaches
  rcases hcached.stack_cases sha512_256 config with ⟨e, heq⟩ | ⟨next, heq, hnext⟩
  · rw [heq] at hreaches
    cases hreaches
    exact .inl ⟨e, List.map_eq_nil_iff.mp hentries, rfl⟩
  · rw [heq] at hreaches
    cases hreaches with
    | here =>
      -- It does not await what the cache answers.
      cases htaskInv.awaits _ _ hrest
    | @perform _ _ answer log _ hlater =>
      obtain ⟨⟨t, entry⟩, later, hlog, rfl, hmap⟩ := List.map_eq_cons_iff.mp hentries
      obtain rfl : t = task.startedAt :=
        System.first_of_run hrun htask t _ (by rw [hlog]; rfl) rfl
      refine .inr ⟨answer, by rw [hlog]; exact List.mem_cons_self, ?_⟩
      rintro payload rfl
      rw [hnext] at hlater
      cases hlater
      rw [hlog, List.map_eq_nil_iff.mp hmap]
      exact ⟨rfl, rfl⟩

/-- **What is stored is not asked for.**  Whatever requests run at the same time and however the
    loop takes turns between them, a request for what was stored within the TTL sends no HTTP
    request: it is answered when it starts, from what was stored then or since.  A stored null is
    never answered, and a pair goes when `max` others were used after it. -/
theorem answered_without_request
    (hrun : NetworkRun sha512_256 keyText config maxEntries events l)
    (htask : l.tasks i = some task) (hcached : Cached keyText task.request kind key call response)
    {ttl t : ℚ} {value : Option Json} (httl : ttlSeconds kind = some ttl)
    (hstored : StoredAt l t kind key value) (hafter : t < task.startedAt)
    (hfresh : task.startedAt ≤ t + ttl)
    (hnull : ∀ t', t ≤ t' → t' ≤ task.startedAt → ¬ StoredAt l t' kind key none)
    {others : Finset CacheKey}
    (hothers : ∀ pair, UsedBetween l t task.startedAt pair → pair ≠ (kind, key) → pair ∈ others)
    (hroom : others.card < maxEntries) : Spared l task t kind key response := by
  rcases hcached.reads_first hrun htask with ⟨e, hlog, hrest⟩ | ⟨answer, hread, hhit⟩
  · exact .refused e hlog hrest
  -- The history of the run, up to where the request reads the cache.
  obtain ⟨history, hlin⟩ := System.exists_linearization hrun
  have hmem := (hlin.performs _).mpr ⟨i, task, htask, hread⟩
  obtain ⟨later, earlier, rfl⟩ := List.append_of_mem hmem
  obtain ⟨cache, hreplays, hanswer⟩ := hlin.replays.answered_from rfl
  have hanswer : answer = (cache.get task.startedAt kind key).1 := hanswer
  rw [cache_of_replays hreplays] at hanswer
  obtain ⟨-, htimes, hlater⟩ := List.pairwise_append.mp hlin.chronological
  obtain ⟨hbefore, hclock⟩ := List.pairwise_cons.mp htimes
  have hperformed : ∀ entry ∈ earlier, entry ∈ System.performed l := fun entry hentry =>
    (hlin.performs entry).mp (List.mem_append_right _ (List.mem_cons_of_mem _ hentry))
  have hset : (t, ⟨.cacheSet kind key value, ()⟩) ∈ earlier := by
    rcases List.mem_append.mp ((hlin.performs _).mpr hstored) with hmem | hmem
    · exact absurd (hlater _ hmem _ List.mem_cons_self) (not_le.mpr hafter)
    · rcases List.mem_cons.mp hmem with heq | hmem
      · cases heq
      · exact hmem
  -- Its calls on the cache.
  have hcall : ∀ e ∈ earlier.filterMap cacheCall, ∃ entry ∈ earlier, cacheCall entry = some e :=
    fun e he => List.mem_filterMap.mp he
  have hnow : ∀ e ∈ earlier.filterMap cacheCall, e.1 ≤ task.startedAt := by
    intro e he
    obtain ⟨entry, hentry, heq⟩ := hcall e he
    rw [(time_of_cacheCall heq).1]
    exact hbefore entry hentry
  have hclear : ∀ e ∈ earlier.filterMap cacheCall, e.2 ≠ .clear := by
    intro e he
    obtain ⟨entry, -, heq⟩ := hcall e he
    exact (time_of_cacheCall heq).2
  have hused : ∀ e ∈ earlier.filterMap cacheCall, t ≤ e.1 → ∀ pair, e.2.pair = some pair →
      pair ≠ (kind, key) → pair ∈ others := by
    intro e he hsince pair hpair
    obtain ⟨entry, hentry, heq⟩ := hcall e he
    rw [(time_of_cacheCall heq).1] at hsince
    exact hothers pair ⟨entry, hperformed entry hentry, hsince, hbefore entry hentry,
      op_of_cacheCall heq hpair⟩
  obtain ⟨storedAt, stored, hsince, hmem, hget⟩ := History.get_of_set
    (chronological_filterMap hclock) hnow hclear httl (List.mem_filterMap.mpr ⟨_, hset, rfl⟩)
    (by linarith) hused hroom
  obtain ⟨entry, hentry, heq⟩ := hcall _ hmem
  obtain rfl := eq_of_cacheCall_set heq
  have hstoredAt : StoredAt l storedAt kind key stored := hperformed _ hentry
  cases stored with
  | none => exact absurd hstoredAt (hnull storedAt hsince (hbefore _ hentry))
  | some payload =>
    obtain ⟨hlog, hrest⟩ := hhit payload (hanswer.trans hget)
    exact .hit storedAt payload hsince (hbefore _ hentry) hstoredAt hlog hrest

/-- Block 7 is asked for at the time 0 and answered at the time 3, and asked for again at the time
    10; an asset is asked for in between. -/
def readAgain : List (ℚ × LoopEvent StackOp.Answer ApiRequest) :=
  let answer : (op : StackOp) → op.Answer
    | .http (.send _ _) =>
      Attempt.responded ⟨200, none, .ok "", .decoded (.obj [("round", .int 7)])⟩
    | .http .jitter => noJitter
    | .http (.sleep _) => ()
    | .cacheGet _ _ => (none : Option Json)
    | .cacheSet _ _ _ => ()
  [(10, .start 1 (.block 7 false)), (5, .start 2 (.token 9)), (3, .resume 0 answer),
    (0, .start 0 (.block 7 false))]

theorem answered_without_request_readAgain : ∃ l task response,
    NetworkRun (fun _ => ⟨List.replicate 32 0, rfl⟩) (fun _ => none) mainnetConfig 2048
      readAgain l ∧ l.tasks 1 = some task ∧
      task.rest = .done (response (.obj [("round", .int 7)])) ∧
      Spared l task 3 "block" (toString (7 : Int)) response := by
  let payload : Json := .obj [("round", .int 7)]
  let response : Json → Except ServiceError ApiResponse := fun payload =>
    (mapping (mapBlock payload false)).map .block
  obtain ⟨l, hl⟩ : ∃ l, NetworkRun (fun _ => ⟨List.replicate 32 0, rfl⟩) (fun _ => none)
      mainnetConfig 2048 readAgain l := ⟨_, rfl⟩
  obtain ⟨task, htask, hrequest, hstart, hdone⟩ : ∃ task, l.tasks 1 = some task ∧
      task.request = .block 7 false ∧ task.startedAt = 10 ∧
      task.rest = .done (response payload) := by
    obtain rfl := Option.some.inj hl
    refine ⟨_, rfl, rfl, rfl, ?_⟩
    with_unfolding_all rfl
  have hstored : StoredAt l 3 "block" (toString (7 : Int)) (some payload) := by
    obtain rfl := Option.some.inj hl
    refine ⟨0, _, rfl, List.mem_of_getLast? ?_⟩
    with_unfolding_all rfl
  -- What the three tasks performed on the cache.
  have htasks : ∀ j found, l.tasks j = some found → found.log.filterMap cacheCall ∈
      ([[(0, .get "block" "7"), (3, .set "block" "7" (some payload))], [(10, .get "block" "7")],
        [(5, .get "asset" "9")]] : List (List (ℚ × CacheCall Json))) := by
    intro j found hfound
    obtain rfl := Option.some.inj hl
    match j, hfound with
    | 0, hfound =>
      obtain rfl := Option.some.inj hfound
      exact List.mem_of_getElem? (i := 0) (by with_unfolding_all rfl)
    | 1, hfound =>
      obtain rfl := Option.some.inj hfound
      exact List.mem_of_getElem? (i := 1) (by with_unfolding_all rfl)
    | 2, hfound =>
      obtain rfl := Option.some.inj hfound
      exact List.mem_of_getElem? (i := 2) (by with_unfolding_all rfl)
    | _ + 3, hfound => cases hfound
  have hcalls : ∀ entry ∈ System.performed l, ∀ e, cacheCall entry = some e →
      e = (0, .get "block" "7") ∨ e = (3, .set "block" "7" (some payload)) ∨
        e = (10, .get "block" "7") ∨ e = (5, .get "asset" "9") := by
    rintro entry ⟨j, found, hfound, hentry⟩ e he
    have hmem := List.mem_filterMap.mpr ⟨entry, hentry, he⟩
    have hlog := htasks j found hfound
    simp only [List.mem_cons, List.not_mem_nil, or_false] at hlog
    rcases hlog with hlog | hlog | hlog
    all_goals
      rw [hlog] at hmem
      simp only [List.mem_cons, List.not_mem_nil, or_false] at hmem
      tauto
  have hcached : Cached (fun _ => none) task.request "block" (toString (7 : Int))
      (.block (.int 7)) response := by
    rw [hrequest]
    exact .block 7 false
  have hkey : toString (7 : Int) = "7" := rfl
  have hnull : ∀ t', 3 ≤ t' → t' ≤ task.startedAt →
      ¬ StoredAt l t' "block" (toString (7 : Int)) none := by
    intro t' _ _ hmem
    have hcall := hcalls _ hmem _ rfl
    simp [payload] at hcall
  have hothers : ∀ pair, UsedBetween l 3 task.startedAt pair →
      pair ≠ ("block", toString (7 : Int)) → pair ∈ ({("asset", "9")} : Finset CacheKey) := by
    rintro ⟨kind, key⟩ ⟨⟨t, op, answer⟩, hmem, hsince, -, hop⟩ hne
    rcases hop with hop | ⟨value, hop⟩
    · obtain rfl : op = _ := hop
      have hcall := hcalls _ hmem _ rfl
      simp only [Prod.mk.injEq, CacheCall.get.injEq, reduceCtorEq] at hcall
      rw [hkey] at hne
      simp only [ne_eq, Prod.mk.injEq] at hne
      simp only [Finset.mem_singleton, Prod.mk.injEq]
      tauto
    · obtain rfl : op = _ := hop
      have hcall := hcalls _ hmem _ rfl
      simp only [Prod.mk.injEq, CacheCall.set.injEq, reduceCtorEq] at hcall
      rw [hkey] at hne
      simp only [ne_eq, Prod.mk.injEq] at hne
      tauto
  have hroom : ({("asset", "9")} : Finset CacheKey).card < 2048 := by decide
  have httl : ttlSeconds "block" = some 3600 := rfl
  have hafter : 3 < task.startedAt := by
    rw [hstart]
    norm_num
  have hfresh : task.startedAt ≤ 3 + 3600 := by
    rw [hstart]
    norm_num
  exact ⟨l, task, response, hl, htask, hdone,
    answered_without_request hl htask hcached httl hstored hafter hfresh hnull hothers hroom⟩

end Algorandscout
