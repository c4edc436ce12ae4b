import Mathlib
import Algorandscout.Library.EventLoop
import Algorandscout.Routes

namespace Algorandscout

open Library Library.Program

/-!
# How old a response may be

All requests run on one event loop and share the cache: a route awaits its upstream calls and does
everything else at once.

* `service` — the explorer routes on the loop, over the cache;
* `Call.entry`, `callOfEntry` — the entry of the cache that a call fills, and back;
* `Provenance` — every entry, and every hit, is a payload that this call was answered with;
* `respond_follows` — what a route stores is what it was just answered;
* `Cached` — the requests that are answered through the cache;
* `response_within_ttl` — whatever else is going on, such a response is made from a payload that
  its own call was answered with no longer than the TTL before the request.
-/

/-! ### The service -/

/-- Upstream calls are awaited; the cache answers at once. -/
def Op.awaited : Op → Bool
  | .upstream _ => true
  | .cacheGet _ _ => false
  | .cacheSet _ _ _ => false

/-- The explorer routes on the event loop. -/
def service (sha512_256 : List UInt8 → Digest) (keyText : KeyText) (config : AlgorandConfig) :
    System Op.Answer ServiceError ApiResponse (TTLCache Json) ℚ ApiRequest where
  program := respond sha512_256 keyText config
  awaited := Op.awaited
  -- Upstream calls are awaited, so that nothing asks for this answer.
  env now := atOnce now fun _ => .error ⟨false, "", none, ""⟩

/-- The states that the service can be in after some events, from an empty cache. -/
def ServiceRun (sha512_256 : List UInt8 → Digest) (keyText : KeyText) (config : AlgorandConfig)
    (maxEntries : ℕ) (events : List (ℚ × LoopEvent Op.Answer ApiRequest))
    (l : EventLoop Op.Answer ServiceError ApiResponse (TTLCache Json) ℚ ApiRequest) : Prop :=
  runFrom (service sha512_256 keyText config).step (System.init (TTLCache.new maxEntries) 0)
    events = some l

variable {sha512_256 : List UInt8 → Digest} {keyText : KeyText} {config : AlgorandConfig}

/-! ### What fills the cache -/

/-- The entry of the cache that the answer to a call is stored in. -/
def Call.entry : Call → Option CacheKey
  | .transaction txid => some ("transaction", txid)
  | .block (.int roundNumber) => some ("block", toString roundNumber)
  | .asset (.int assetId) => some ("asset", toString assetId)
  | .application appId => some ("application", toString appId)
  | _ => none

/-- The call whose answer an entry holds. -/
def callOfEntry : CacheKey → Option Call
  | ("transaction", key) => some (.transaction key)
  | ("block", key) => key.toInt?.map fun roundNumber => .block (.int roundNumber)
  | ("asset", key) => key.toInt?.map fun assetId => .asset (.int assetId)
  | ("application", key) => key.toInt?.map .application
  | _ => none

/-- **No two calls share an entry**: kind and key tell which call filled it. -/
theorem callOfEntry_entry {call : Call} {pair : CacheKey} (h : call.entry = some pair) :
    callOfEntry pair = some call := by
  unfold Call.entry at h
  split at h
  · obtain rfl := Option.some.inj h
    rfl
  · obtain rfl := Option.some.inj h
    simp [callOfEntry]
  · obtain rfl := Option.some.inj h
    simp [callOfEntry]
  · obtain rfl := Option.some.inj h
    simp [callOfEntry]
  · cases h

/-- What is performed at once: a value goes into an entry right after the call that fills the entry
    was answered with it. -/
def StoresAnswer (last : Option (Entry Op.Answer)) : Entry Op.Answer → Prop
  | ⟨.cacheSet kind key value, _⟩ => ∃ call payload, call.entry = some (kind, key) ∧
      last = some ⟨.upstream call, (.ok payload : Outcome)⟩ ∧ value = payload.asValue
  | _ => True

/-- `L` has the call of an entry answered with `payload` at time `t`. -/
def Answered (L : Set (ℚ × Entry Op.Answer)) (pair : CacheKey) (t : ℚ) (payload : Json) : Prop :=
  ∃ call : Call, call.entry = some pair ∧ (t, ⟨.upstream call, (.ok payload : Outcome)⟩) ∈ L

/-- Where the entries of the cache come from, and what was read of them, given all that has been
    performed. -/
structure Provenance (L : Set (ℚ × Entry Op.Answer)) (cache : TTLCache Json) : Prop where
  /-- An entry holds what its call was answered with at the time it was stored. -/
  entries : ∀ pair storedAt value, cache.data.lookup pair = some (storedAt, value) →
    ∃ payload : Json, value = payload.asValue ∧ Answered L pair storedAt payload
  /-- A hit is such a payload, within the TTL of its kind. -/
  hits : ∀ t kind key (hit : Json),
    (t, (⟨.cacheGet kind key, (some hit : Option Json)⟩ : Entry Op.Answer)) ∈ L →
    ∃ ttl storedAt, ttlSeconds kind = some ttl ∧ t - ttl ≤ storedAt ∧ storedAt ≤ t ∧
      Answered L (kind, key) storedAt hit

variable {L L' : Set (ℚ × Entry Op.Answer)} {cache : TTLCache Json}

theorem Answered.mono {pair : CacheKey} {t : ℚ} {payload : Json} (h : Answered L pair t payload)
    (hsub : L ⊆ L') : Answered L' pair t payload := by
  obtain ⟨call, hentry, hmem⟩ := h
  exact ⟨call, hentry, hsub hmem⟩

/-- What else is performed leaves the provenance as it is. -/
theorem Provenance.insert_other (h : Provenance L cache) {now : ℚ} {entry : Entry Op.Answer}
    (hother : ∀ kind key (hit : Json), entry ≠ ⟨.cacheGet kind key, (some hit : Option Json)⟩) :
    Provenance (insert (now, entry) L) cache where
  entries pair storedAt value hlookup := by
    obtain ⟨payload, hvalue, hanswered⟩ := h.entries pair storedAt value hlookup
    exact ⟨payload, hvalue, hanswered.mono (Set.subset_insert _ L)⟩
  hits t kind key hit hmem := by
    rcases Set.mem_insert_iff.mp hmem with heq | hmem
    · exact absurd (Prod.mk.inj heq).2.symm (hother kind key hit)
    · obtain ⟨ttl, storedAt, httl, hage, hle, hanswered⟩ := h.hits t kind key hit hmem
      exact ⟨ttl, storedAt, httl, hage, hle, hanswered.mono (Set.subset_insert _ L)⟩

/-- A payload that was stored is one that is not null. -/
theorem eq_of_asValue {payload hit : Json} (h : some hit = payload.asValue) : hit = payload := by
  cases payload <;> first
    | cases h
      rfl
    | cases h

/-- **A `get`** answers with what an entry holds. -/
theorem Provenance.get (h : Provenance L cache) (now : ℚ) (hnow : ∀ entry ∈ L, entry.1 ≤ now)
    (kind key : String) :
    Provenance (insert (now, ⟨.cacheGet kind key, (cache.get now kind key).1⟩) L)
      (cache.get now kind key).2 where
  entries pair storedAt value hlookup := by
    obtain ⟨payload, hvalue, hanswered⟩ :=
      h.entries pair storedAt value (TTLCache.lookup_of_lookup_get hlookup)
    exact ⟨payload, hvalue, hanswered.mono (Set.subset_insert _ L)⟩
  hits t kind' key' hit hmem := by
    rcases Set.mem_insert_iff.mp hmem with heq | hmem
    · obtain ⟨rfl, hentry⟩ := Prod.mk.inj heq
      obtain ⟨hop, hanswer⟩ := Sigma.mk.inj hentry
      obtain ⟨rfl, rfl⟩ := Op.cacheGet.inj hop
      have hlive := TTLCache.get_fst cache t kind' key'
      rw [← eq_of_heq hanswer] at hlive
      obtain ⟨⟨storedAt, value⟩, hfound, hvalue⟩ := Option.bind_eq_some_iff.mp hlive.symm
      obtain ⟨hlookup, ttl, httl, hage⟩ := TTLCache.live_eq_some_iff.mp hfound
      obtain ⟨payload, hpayload, hanswered⟩ := h.entries _ storedAt value hlookup
      obtain rfl : hit = payload := eq_of_asValue (hvalue.symm.trans hpayload)
      have hbefore : storedAt ≤ t := by
        obtain ⟨call, -, hcall⟩ := hanswered
        exact hnow _ hcall
      exact ⟨ttl, storedAt, httl, by linarith, hbefore,
        hanswered.mono (Set.subset_insert _ L)⟩
    · obtain ⟨ttl, storedAt, httl, hage, hle, hanswered⟩ := h.hits t kind' key' hit hmem
      exact ⟨ttl, storedAt, httl, hage, hle, hanswered.mono (Set.subset_insert _ L)⟩

/-- **A `set`** stores what its call was just answered with. -/
theorem Provenance.set (h : Provenance L cache) {now : ℚ} {kind key : String}
    {value : Option Json} {payload : Json} (hvalue : value = payload.asValue)
    (hanswered : Answered L (kind, key) now payload) :
    Provenance L (cache.set now kind key value) where
  entries pair storedAt stored hlookup := by
    by_cases hkind : ttlSeconds kind = none
    · rw [TTLCache.set_of_uncacheable hkind] at hlookup
      exact h.entries pair storedAt stored hlookup
    · rcases TTLCache.lookup_of_lookup_set hlookup hkind with ⟨rfl, hentry⟩ | ⟨-, hold⟩
      · obtain ⟨rfl, rfl⟩ := Prod.mk.inj hentry
        exact ⟨payload, hvalue, hanswered⟩
      · exact h.entries pair storedAt stored hold
  hits := h.hits

/-! ### What the routes store -/

variable {α β : Type} {last : Option (Entry Op.Answer)}

/-- Each value that a route stores is what it was just answered. -/
abbrev StoresAnswers (p : Route α) (last : Option (Entry Op.Answer)) : Prop :=
  Follows Op.awaited StoresAnswer p last

theorem storesAnswers_upstream_bind {call : Call} {f : Json → Route α}
    (hf : ∀ payload : Json,
      StoresAnswers (f payload) (some ⟨.upstream call, (.ok payload : Outcome)⟩)) :
    StoresAnswers (upstream call >>= f) last := by
  refine Follows.perform rfl fun outcome => ?_
  cases outcome with
  | ok payload => exact hf payload
  | error exc => exact Follows.raise _

theorem storesAnswers_upstream (call : Call) : StoresAnswers (upstream call) last := by
  refine Follows.perform rfl fun outcome => ?_
  cases outcome with
  | ok payload => exact Follows.pure _
  | error exc => exact Follows.raise _

theorem storesAnswers_askUpstream_bind {call : Call} {f : Outcome → Route α}
    (hf : ∀ outcome last, StoresAnswers (f outcome) last) :
    StoresAnswers (askUpstream call >>= f) last :=
  Follows.ask_bind rfl fun outcome => hf outcome _

/-- **`get_or_fetch`** stores what it fetched under the entry that this fills. -/
theorem storesAnswers_getOrFetch {kind key : String} {call : Call}
    (h : call.entry = some (kind, key)) :
    StoresAnswers (getOrFetch kind key (upstream call)) last := by
  refine Follows.ask_at_once_bind rfl (fun _ => trivial) fun hit => ?_
  cases hit with
  | some hit => exact Follows.pure hit
  | none =>
    refine storesAnswers_upstream_bind fun payload => ?_
    refine Follows.ask_at_once_bind rfl (fun _ => ?_) fun _ => Follows.pure payload
    exact ⟨call, payload, h, rfl, rfl⟩

theorem storesAnswers_validated_bind {x : Except Raised α} {f : α → Route β}
    (hf : ∀ a, StoresAnswers (f a) last) : StoresAnswers (validated x >>= f) last :=
  Follows.ofExcept_bind hf

theorem storesAnswers_mapped {x : Except PyError α} : StoresAnswers (mapped x) last :=
  Follows.ofExcept _

theorem storesAnswers_probe (call : Call) (mapper : Json → Except PyError (List SearchItem)) :
    StoresAnswers (probe call mapper) last := by
  refine storesAnswers_askUpstream_bind fun outcome last => ?_
  cases outcome with
  | ok payload => exact Follows.ofExcept _
  | error exc => exact Follows.pure _

theorem storesAnswers_searchedAssets (call : Call) : StoresAnswers (searchedAssets call) last :=
  Follows.bind (storesAnswers_upstream call) fun _ _ => Follows.ofExcept _

theorem storesAnswers_search (q : String) (limit : Int) :
    StoresAnswers (search keyText q limit) last := by
  unfold search
  dsimp only
  cases classifyQuery (Text.strip q) with
  | none =>
    refine Follows.bind (storesAnswers_searchedAssets _) fun units _ => ?_
    split_ifs
    · exact Follows.bind (storesAnswers_searchedAssets _) fun _ _ => Follows.pure _
    · exact Follows.pure _
  | some kind =>
    cases kind with
    | address => exact Follows.bind (storesAnswers_probe _ _) fun _ _ => Follows.pure _
    | transaction => exact Follows.bind (storesAnswers_probe _ _) fun _ _ => Follows.pure _
    | numeric =>
      apply Follows.ofExcept_bind
      intro numeric
      cases validateUint64 (.int numeric) "id" with
      | error e => exact Follows.pure _
      | ok n =>
        refine Follows.bind (storesAnswers_probe _ _) fun tokens _ => ?_
        exact Follows.bind (storesAnswers_probe _ _) fun contracts _ => Follows.pure _

theorem storesAnswers_askAssets (ids : List (Key × Json)) : StoresAnswers (askAssets ids) last := by
  induction ids generalizing last with
  | nil => exact Follows.pure _
  | cons entry ids ih =>
    refine storesAnswers_askUpstream_bind fun outcome last => ?_
    exact Follows.bind ih fun _ _ => Follows.pure _

theorem storesAnswers_resolveHoldings (payload : Json) :
    StoresAnswers (resolveHoldings payload) last := by
  refine Follows.bind storesAnswers_mapped fun ids _ => ?_
  exact Follows.bind (storesAnswers_askAssets _) fun _ _ => storesAnswers_mapped

theorem storesAnswers_resolveDecimals (assetId : Int) :
    StoresAnswers (resolveDecimals assetId) last := by
  refine storesAnswers_askUpstream_bind fun outcome last => ?_
  cases outcome with
  | ok payload => exact storesAnswers_mapped
  | error exc => exact Follows.pure _

theorem storesAnswers_stats : StoresAnswers (stats config) last := by
  refine Follows.bind (storesAnswers_upstream _) fun status _ => ?_
  refine Follows.bind ?_ fun _ _ => Follows.ofExcept _
  refine storesAnswers_askUpstream_bind fun nodeRead _ => ?_
  exact storesAnswers_askUpstream_bind fun idxRead _ => Follows.ofExcept _

/-- **Every route** stores only what it was just answered. -/
theorem storesAnswers_respond (request : ApiRequest) :
    StoresAnswers (respond sha512_256 keyText config request) last := by
  cases request with
  | stats => exact Follows.map storesAnswers_stats
  | address address live =>
    refine Follows.map (storesAnswers_validated_bind fun _ => ?_)
    exact Follows.bind (storesAnswers_upstream _) fun _ _ => storesAnswers_mapped
  | addressTransactions address limit nextToken afterTime beforeTime txType assetId =>
    refine Follows.map (storesAnswers_validated_bind fun _ => ?_)
    have hrest : ∀ last, StoresAnswers (do
        let payload ← upstream (.accountTransactions address limit nextToken afterTime beforeTime
          txType assetId)
        let members ← mapped payload.asDict
        mapped (mapTransactionList payload (members.get "current-round"))) last := fun last =>
      Follows.bind (storesAnswers_upstream _) fun _ _ =>
        Follows.bind storesAnswers_mapped fun _ _ => storesAnswers_mapped
    cases assetId with
    | none => exact hrest last
    | some id => exact storesAnswers_validated_bind fun _ => hrest last
  | addressTokenBalances address limit nextToken resolve =>
    refine Follows.map (storesAnswers_validated_bind fun _ => ?_)
    refine Follows.bind (storesAnswers_upstream _) fun payload _ => ?_
    refine Follows.bind ?_ fun _ _ => storesAnswers_mapped
    cases resolve with
    | false => exact Follows.pure _
    | true => exact storesAnswers_resolveHoldings payload
  | transaction txid =>
    refine Follows.map (Follows.ofExcept_bind fun _ => ?_)
    exact Follows.bind (storesAnswers_getOrFetch rfl) fun _ _ => Follows.ofExcept _
  | block roundNumber includeTransactions =>
    refine Follows.map (storesAnswers_validated_bind fun _ => ?_)
    exact Follows.bind (storesAnswers_getOrFetch rfl) fun _ _ => storesAnswers_mapped
  | latestBlock =>
    refine Follows.map (Follows.bind (storesAnswers_upstream _) fun status _ => ?_)
    refine Follows.bind storesAnswers_mapped fun members _ => ?_
    dsimp only
    split_ifs
    · exact Follows.raise _
    · refine Follows.bind (storesAnswers_upstream _) fun payload _ => ?_
      exact Follows.bind storesAnswers_mapped fun _ _ => Follows.pure _
  | token assetId =>
    refine Follows.map (storesAnswers_validated_bind fun _ => ?_)
    exact Follows.bind (storesAnswers_getOrFetch rfl) fun _ _ => storesAnswers_mapped
  | tokenHolders assetId limit nextToken resolve =>
    refine Follows.map (storesAnswers_validated_bind fun _ => ?_)
    refine Follows.bind (storesAnswers_upstream _) fun payload _ => ?_
    refine Follows.bind ?_ fun _ _ => storesAnswers_mapped
    cases resolve with
    | false => exact Follows.pure _
    | true => exact storesAnswers_resolveDecimals assetId
  | smartContract appId =>
    refine Follows.map (storesAnswers_validated_bind fun _ => ?_)
    exact Follows.bind (storesAnswers_getOrFetch rfl) fun _ _ => storesAnswers_mapped
  | search q limit =>
    show StoresAnswers (ApiResponse.search <$> search keyText q limit) last
    exact Follows.map (storesAnswers_search q limit)

/-- **Every operation keeps the provenance.** -/
theorem service_keeps : System.Keeps (service sha512_256 keyText config) StoresAnswer
    Provenance where
  follows request := storesAnswers_respond request
  answered {L cache now op} hop _ hinv answer := by
    refine hinv.insert_other fun kind key hit heq => ?_
    obtain ⟨rfl, -⟩ := Sigma.mk.inj heq
    cases hop
  at_once {L cache now op last} hop hnow hinv hR hlast := by
    cases op with
    | upstream call => cases hop
    | cacheGet kind key => exact hinv.get now hnow kind key
    | cacheSet kind key value =>
      obtain ⟨call, payload, hentry, heq, hvalue⟩ := hR
      have hother : Provenance (insert (now, ⟨.cacheSet kind key value, ()⟩) L) cache :=
        hinv.insert_other fun kind key hit heq => nomatch heq
      refine hother.set hvalue ⟨call, hentry, ?_⟩
      exact Set.mem_insert_of_mem _ (hlast _ heq)

/-! ### Responses -/

/-- The requests that are answered through the cache: the kind and the key, the call, and what is
    made of its payload. -/
inductive Cached (keyText : KeyText) : ApiRequest → String → String → Call →
    (Json → Except ServiceError ApiResponse) → Prop
  | transaction (txid : String) : Cached keyText (.transaction txid) "transaction" txid
      (.transaction txid) fun payload => (transactionResponse payload).map .transaction
  | block (roundNumber : Int) (includeTransactions : Bool) :
      Cached keyText (.block roundNumber includeTransactions) "block" (toString roundNumber)
        (.block (.int roundNumber)) fun payload =>
          (mapping (mapBlock payload includeTransactions)).map .block
  | token (assetId : Int) : Cached keyText (.token assetId) "asset" (toString assetId)
      (.asset (.int assetId)) fun payload => (mapping (mapAsset payload)).map .token
  | smartContract (appId : Int) :
      Cached keyText (.smartContract appId) "application" (toString appId) (.application appId)
        fun payload => (mapping (mapApplication keyText payload)).map .smartContract

variable {kind key : String} {call : Call} {response : Json → Except ServiceError ApiResponse}
  {request : ApiRequest} {log : RouteLog} {result : Except ServiceError ApiResponse}

theorem Cached.entry (h : Cached keyText request kind key call response) :
    call.entry = some (kind, key) := by
  cases h <;> rfl

theorem Cached.ttl (h : Cached keyText request kind key call response) :
    ∃ ttl, ttlSeconds kind = some ttl := by
  cases h <;> exact ⟨_, rfl⟩

/-- The courses of a route that checks its identifier, fetches through the cache, and maps what it
    got. -/
theorem fetched_of_course_route {α ρ : Type} {x : Except Raised ρ}
    {mapper : Json → Except ServiceError α} {f : α → ApiResponse}
    (h : Course (f <$> (Program.ofExcept (x.mapError ServiceError.validation) >>= fun _ =>
      getOrFetch kind key (upstream call) >>= fun payload => Program.ofExcept (mapper payload)))
      log result) :
    (∃ e, log = [] ∧ result = .error (.validation e)) ∨
      ∃ fetched, Fetched kind key call log fetched ∧
        result = fetched.bind fun payload => (mapper payload).map f := by
  obtain ⟨mapped, hcourse, rfl⟩ := course_map_iff.mp h
  rcases course_ofExcept_bind_iff.mp hcourse with ⟨e, he, rfl, rfl⟩ | ⟨_, -, hroute⟩
  · cases x with
    | ok _ => cases he
    | error raised =>
      obtain rfl := Except.error.inj he
      exact .inl ⟨raised, rfl, rfl⟩
  · rcases course_bind_iff.mp hroute with
      ⟨e, hfetch, rfl⟩ | ⟨first, rest, payload, rfl, hfetch, hend⟩
    · exact .inr ⟨_, fetched_of_course hfetch, rfl⟩
    · obtain ⟨rfl, rfl⟩ := course_ofExcept_iff.mp hend
      rw [List.append_nil]
      exact .inr ⟨_, fetched_of_course hfetch, rfl⟩

theorem Cached.fetched (h : Cached keyText request kind key call response)
    (hcourse : Course (respond sha512_256 keyText config request) log result) :
    (∃ e, log = [] ∧ result = .error (.validation e)) ∨
      ∃ fetched, Fetched kind key call log fetched ∧ result = fetched.bind response := by
  cases h with
  | transaction txid => exact fetched_of_course_route hcourse
  | block roundNumber includeTransactions => exact fetched_of_course_route hcourse
  | token assetId => exact fetched_of_course_route hcourse
  | smartContract appId => exact fetched_of_course_route hcourse

/-- What the response to a request through the cache is made from. -/
inductive Accounted (l : EventLoop Op.Answer ServiceError ApiResponse (TTLCache Json) ℚ ApiRequest)
    (task : LoopTask Op.Answer ServiceError ApiResponse ℚ ApiRequest) (kind : String) (call : Call)
    (response : Json → Except ServiceError ApiResponse) :
    Except ServiceError ApiResponse → Prop
  /-- The identifier is malformed, and nothing was asked. -/
  | refused (e : Raised) (nothing : task.log = []) :
    Accounted l task kind call response (.error (.validation e))
  /-- The request made the call itself, which failed: failures are not cached. -/
  | failed (t : ℚ) (exc : AlgorandError) (since : task.startedAt ≤ t)
      (asked : (t, (⟨.upstream call, (.error exc : Outcome)⟩ : Entry Op.Answer)) ∈ task.log) :
    Accounted l task kind call response (.error (.algorand exc))
  /-- The call was answered with the payload, to this request or to one before it. -/
  | answered (ttl t : ℚ) (payload : Json) (ttl_eq : ttlSeconds kind = some ttl)
      (since : task.startedAt - ttl ≤ t) (until_now : t ≤ l.clock)
      (asked : (t, (⟨.upstream call, (.ok payload : Outcome)⟩ : Entry Op.Answer)) ∈
        System.performed l) :
    Accounted l task kind call response (response payload)

/-- The service along a run. -/
theorem loopInv_of_run {maxEntries : ℕ} {events : List (ℚ × LoopEvent Op.Answer ApiRequest)}
    {l : EventLoop Op.Answer ServiceError ApiResponse (TTLCache Json) ℚ ApiRequest}
    (hrun : ServiceRun sha512_256 keyText config maxEntries events l) :
    System.LoopInv (service sha512_256 keyText config) StoresAnswer Provenance l := by
  have hnone : Provenance ∅ (TTLCache.new maxEntries) := by
    refine ⟨fun pair storedAt value hlookup => ?_, fun t kind key hit hmem => hmem.elim⟩
    simp [TTLCache.new] at hlookup
  exact service_keeps.run hnone hrun

/-- A response is accounted for by what was performed before it. -/
theorem accounted_of_inv
    {l : EventLoop Op.Answer ServiceError ApiResponse (TTLCache Json) ℚ ApiRequest}
    (hinv : System.LoopInv (service sha512_256 keyText config) StoresAnswer Provenance l) {i : ℕ}
    {task : LoopTask Op.Answer ServiceError ApiResponse ℚ ApiRequest}
    (htask : l.tasks i = some task) (hcached : Cached keyText task.request kind key call response)
    (hdone : task.rest = .done result) : Accounted l task kind call response result := by
  have htaskInv := hinv.tasks i task htask
  have hreaches := htaskInv.reaches
  rw [hdone] at hreaches
  -- Every entry of the log carries its time.
  have htimed : ∀ entry ∈ task.log.map Prod.snd, ∃ t, (t, entry) ∈ task.log := by
    intro entry hentry
    obtain ⟨timed, hmem, rfl⟩ := List.mem_map.mp hentry
    exact ⟨timed.1, hmem⟩
  rcases hcached.fetched hreaches.course_of_done with ⟨e, hlog, rfl⟩ | ⟨fetched, hfetched, rfl⟩
  · exact .refused e (List.map_eq_nil_iff.mp hlog)
  · generalize hentries : task.log.map Prod.snd = log at hfetched htimed
    cases hfetched with
    | hit value =>
      obtain ⟨t, hmem⟩ := htimed _ List.mem_cons_self
      obtain ⟨ttl, storedAt, httl, hage, hle, call', hentry, hasked⟩ :=
        hinv.shared.hits t kind key value ⟨i, task, htask, hmem⟩
      obtain rfl : call' = call := by
        have hcall := callOfEntry_entry hentry
        rw [callOfEntry_entry hcached.entry] at hcall
        exact (Option.some.inj hcall).symm
      have hstarted := (htaskInv.times _ hmem).1
      exact .answered ttl storedAt value httl (by linarith) (hinv.times _ hasked) hasked
    | failed exc =>
      obtain ⟨t, hmem⟩ := htimed _ (List.mem_cons_of_mem _ List.mem_cons_self)
      exact .failed t exc (htaskInv.times _ hmem).1 hmem
    | stored payload =>
      obtain ⟨t, hmem⟩ := htimed _ (List.mem_cons_of_mem _ List.mem_cons_self)
      obtain ⟨ttl, httl⟩ := hcached.ttl
      have hpos := TTLCache.ttlSeconds_pos httl
      have hstarted := (htaskInv.times _ hmem).1
      exact .answered ttl t payload httl (by linarith) (htaskInv.times _ hmem).2
        ⟨i, task, htask, hmem⟩

/-- **No response is older than the TTL.**  Whatever requests run at the same time and however the
    loop takes turns between them, a response through the cache is made from a payload that the
    request's own call was answered with, no longer than the TTL of its kind before the request; a
    failure is one of a call that the request made itself. -/
theorem response_within_ttl {maxEntries : ℕ} {events : List (ℚ × LoopEvent Op.Answer ApiRequest)}
    {l : EventLoop Op.Answer ServiceError ApiResponse (TTLCache Json) ℚ ApiRequest}
    (hrun : ServiceRun sha512_256 keyText config maxEntries events l) {i : ℕ}
    {task : LoopTask Op.Answer ServiceError ApiResponse ℚ ApiRequest}
    (htask : l.tasks i = some task) (hcached : Cached keyText task.request kind key call response)
    (hdone : task.rest = .done result) : Accounted l task kind call response result :=
  accounted_of_inv (loopInv_of_run hrun) htask hcached hdone

/-- Block 7 is asked for at the time 0 and answered at the time 1; it is asked for once more at the
    time 10. -/
def twoReads : List (ℚ × LoopEvent Op.Answer ApiRequest) :=
  let answer : (op : Op) → op.Answer
    | .upstream _ => (.ok (.obj [("round", .int 7)]) : Outcome)
    | .cacheGet _ _ => (none : Option Json)
    | .cacheSet _ _ _ => ()
  [(10, .start 1 (.block 7 false)), (1, .resume 0 answer), (0, .start 0 (.block 7 false))]

theorem response_within_ttl_twoReads :
    ∃ l task response, ServiceRun (fun _ => ⟨List.replicate 32 0, rfl⟩) (fun _ => none)
      mainnetConfig 2048 twoReads l ∧ l.tasks 1 = some task ∧
      task.rest = .done (response (.obj [("round", .int 7)])) ∧
      Accounted l task "block" (.block (.int 7)) response
        (response (.obj [("round", .int 7)])) := by
  let sha512_256 : List UInt8 → Digest := fun _ => ⟨List.replicate 32 0, rfl⟩
  let response : Json → Except ServiceError ApiResponse := fun payload =>
    (mapping (mapBlock payload false)).map .block
  obtain ⟨l, hl⟩ : ∃ l, ServiceRun sha512_256 (fun _ => none) mainnetConfig 2048 twoReads l :=
    ⟨_, rfl⟩
  have hrest : ∃ task, l.tasks 1 = some task ∧ task.request = .block 7 false ∧
      task.rest = .done (response (.obj [("round", .int 7)])) := by
    obtain rfl := Option.some.inj hl
    refine ⟨_, rfl, rfl, ?_⟩
    -- The second read finds the block in the cache.
    with_unfolding_all rfl
  obtain ⟨task, htask, hrequest, hdone⟩ := hrest
  have hcached : Cached (fun _ => none) task.request "block" (toString (7 : Int))
      (.block (.int 7)) response := by
    rw [hrequest]
    exact .block 7 false
  exact ⟨l, task, response, hl, htask, hdone, response_within_ttl hl htask hcached hdone⟩

end Algorandscout
