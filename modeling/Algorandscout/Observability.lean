import Algorandscout.Causes
import Algorandscout.Exposition
import Algorandscout.Histograms

namespace Algorandscout

open Library Library.Program

/-!
# What a scrape says of the service

The middleware `observability` counts every request once it has been answered, and
`algorand_error_handler` every failure of an upstream while it is being answered; requests overlap
in any way.

* `Declared`, `routeFor` — the declared routes, and the label of a request;
* `Passage` — a request with what came of it: its route's course, or the framework's own answer;
* `Traffic`, `Turn`, `Traffic.step` — the service: requests arrive, have their failure handled and
  are observed, one turn at a time;
* `Recorded` — the tables are those of the observations made so far;
* `scrape_truthful` — a scrape at any moment counts exactly the requests and failures so far;
* `responseStatuses`, `Passage.status_mem` — the statuses there are;
* `scrape_bounded` — no requests make a scrape longer than a fixed length.
-/

/-! ### Labels -/

/-- The routes the service declares. -/
inductive Declared where
  | health
  | livez
  | readyz
  | metrics
  | capabilities
  | stats
  | address
  | addressTransactions
  | addressTokenBalances
  | transaction
  | block
  | latestBlock
  | token
  | tokenHolders
  | smartContract
  | search
  | passthrough
  deriving DecidableEq

/-- The path a route is declared with. -/
def Declared.path : Declared → String
  | .health => "/health"
  | .livez => "/livez"
  | .readyz => "/readyz"
  | .metrics => "/metrics"
  | .capabilities => "/api/v2/capabilities"
  | .stats => "/api/v2/stats"
  | .address => "/api/v2/addresses/\x7baddress\x7d"
  | .addressTransactions => "/api/v2/addresses/\x7baddress\x7d/transactions"
  | .addressTokenBalances => "/api/v2/addresses/\x7baddress\x7d/token-balances"
  | .transaction => "/api/v2/transactions/\x7btxid\x7d"
  | .block => "/api/v2/blocks/\x7bround_number\x7d"
  | .latestBlock => "/api/v2/blocks"
  | .token => "/api/v2/tokens/\x7basset_id\x7d"
  | .tokenHolders => "/api/v2/tokens/\x7basset_id\x7d/holders"
  | .smartContract => "/api/v2/smart-contracts/\x7bapp_id\x7d"
  | .search => "/api/v2/search"
  | .passthrough => "/algorand/v2/\x7bpath:path\x7d"

/-- All of them. -/
def declaredRoutes : List Declared :=
  [.health, .livez, .readyz, .metrics, .capabilities, .stats, .address, .addressTransactions,
    .addressTokenBalances, .transaction, .block, .latestBlock, .token, .tokenHolders,
    .smartContract, .search, .passthrough]

theorem Declared.mem_all (route : Declared) : route ∈ declaredRoutes := by
  cases route <;> decide

/-- `_route_for`: the path of the route that the router matched, if it matched one. -/
def routeFor (route : Option Declared) : String :=
  match route.map Declared.path with
  | some template => if template.isEmpty then "<unmatched>" else template
  | none => "<unmatched>"

/-- The labels there are. -/
def routeLabels : List String := "<unmatched>" :: declaredRoutes.map Declared.path

theorem routeFor_mem (route : Option Declared) : routeFor route ∈ routeLabels := by
  unfold routeFor routeLabels
  cases route with
  | none => exact List.mem_cons_self
  | some route =>
    dsimp only [Option.map_some]
    split_ifs
    · exact List.mem_cons_self
    · exact List.mem_cons_of_mem _ (List.mem_map_of_mem route.mem_all)

/-- No label breaks a line. -/
theorem newline_notMem_routeFor (route : Option Declared) : '\n' ∉ (routeFor route).toList := by
  cases route with
  | none => decide
  | some route => cases route <;> decide

/-- The route of an explorer request. -/
def ApiRequest.declared : ApiRequest → Declared
  | .stats => .stats
  | .address _ _ => .address
  | .addressTransactions _ _ _ _ _ _ _ => .addressTransactions
  | .addressTokenBalances _ _ _ _ => .addressTokenBalances
  | .transaction _ => .transaction
  | .block _ _ => .block
  | .latestBlock => .latestBlock
  | .token _ => .token
  | .tokenHolders _ _ _ _ => .tokenHolders
  | .smartContract _ => .smartContract
  | .search _ _ => .search

/-- The route of a request that may fail by an upstream. -/
def ServiceRequest.declared : ServiceRequest → Declared
  | .api request => request.declared
  | .passthrough _ _ => .passthrough

/-! ### Requests -/

variable (sha512_256 : List UInt8 → Digest) (keyText : KeyText) (config : AlgorandConfig)

/-- The `health` route, and the part of `readyz` before its response. -/
def healthRoute : Route HealthReport := health config askUpstream .unhandled

/-- The routes that answer from what the process holds. -/
inductive LocalPage where
  | livez
  | metrics
  | capabilities

def LocalPage.declared : LocalPage → Declared
  | .livez => .livez
  | .metrics => .metrics
  | .capabilities => .capabilities

/-- The statuses the framework answers with by itself: for its documentation pages, a redirect to
    a path with or without the last slash, an unknown path, a method that no route has, and path
    or query values that fail their declared types. -/
inductive FrameworkStatus where
  | documentation
  | redirected
  | notFound
  | methodNotAllowed
  | unprocessable

def FrameworkStatus.code : FrameworkStatus → ℕ
  | .documentation => 200
  | .redirected => 307
  | .notFound => 404
  | .methodNotAllowed => 405
  | .unprocessable => 422

/-- A request and what came of it below the middleware. -/
inductive Passage where
  | served (served : Served sha512_256 keyText config)
  | health (log : RouteLog) (result : Except ServiceError HealthReport)
      (course : Course (healthRoute config) log result)
  | readyz (log : RouteLog) (result : Except ServiceError HealthReport)
      (course : Course (healthRoute config) log result)
  | page (page : LocalPage)
  | framework (route : Option Declared) (status : FrameworkStatus)

variable {sha512_256 keyText config}

/-- The status of a response; an exception that no handler takes goes on to the middleware. -/
def respondedStatus {α : Type} (okStatus : α → ℕ) : Except ServiceError α → Option ℕ
  | .ok body => some (okStatus body)
  | .error (.unhandled _) => none
  | .error e => some e.status

/-- The failure that `algorand_error_handler` is called with, if it is. -/
def failureOf {α : Type} : Except ServiceError α → Option AlgorandError
  | .error (.algorand exc) => some exc
  | _ => none

namespace Passage

/-- `request.scope.get("route")`. -/
def route : Passage sha512_256 keyText config → Option Declared
  | .served answered => some answered.request.declared
  | .health _ _ _ => some .health
  | .readyz _ _ _ => some .readyz
  | .page shown => some shown.declared
  | .framework route _ => route

/-- `call_next(request)`: the status of its response, none when it raises. -/
def callNext : Passage sha512_256 keyText config → Option ℕ
  | .served answered => respondedStatus (fun _ => 200) answered.result
  | .health _ result _ => respondedStatus (fun _ => 200) result
  | .readyz _ result _ => respondedStatus (fun report => if report.healthy then 200 else 503) result
  | .page _ => some 200
  | .framework _ status => some status.code

/-- The failure handled on the way. -/
def failure : Passage sha512_256 keyText config → Option AlgorandError
  | .served answered => failureOf answered.result
  | .health _ result _ => failureOf result
  | .readyz _ result _ => failureOf result
  | .page _ => none
  | .framework _ _ => none

/-- What the request is counted under. -/
def label (passage : Passage sha512_256 keyText config) : String := routeFor passage.route

/-- The status it is counted under: 500 when nothing was responded. -/
def status (passage : Passage sha512_256 keyText config) : ℕ := passage.callNext.getD 500

end Passage

/-- `observability`, after `call_next`. -/
def observability (tables : MetricsTables) (passage : Passage sha512_256 keyText config)
    (duration : ℚ) : MetricsTables :=
  match passage.callNext with
  | some status => tables.observeRequest (routeFor passage.route) status duration
  | none => tables.observeRequest (routeFor passage.route) 500 duration

theorem observability_eq (tables : MetricsTables) (passage : Passage sha512_256 keyText config)
    (duration : ℚ) : observability tables passage duration =
      tables.observeRequest passage.label passage.status duration := by
  unfold observability Passage.label Passage.status
  cases passage.callNext with
  | some status => rfl
  | none => rfl

/-! ### The service -/

/-- A request that has arrived and is not observed yet; `handled` once its failure was counted. -/
structure Progress (sha512_256 : List UInt8 → Digest) (keyText : KeyText)
    (config : AlgorandConfig) where
  passage : Passage sha512_256 keyText config
  handled : Bool

/-- The failure that was counted for a request under way. -/
def Progress.failure (progress : Progress sha512_256 keyText config) : Option AlgorandError :=
  if progress.handled then progress.passage.failure else none

/-- The service: the tables of `METRICS`, the requests under way, and those observed with their
    durations, latest first. -/
structure Traffic (sha512_256 : List UInt8 → Digest) (keyText : KeyText)
    (config : AlgorandConfig) where
  tables : MetricsTables
  underWay : List (Progress sha512_256 keyText config)
  finished : List (Passage sha512_256 keyText config × ℚ)

/-- What happens next: a request arrives, the failure of one under way is handled, or one is
    observed. -/
inductive Turn (sha512_256 : List UInt8 → Digest) (keyText : KeyText)
    (config : AlgorandConfig) where
  | arrive (passage : Passage sha512_256 keyText config)
  | handle (i : ℕ)
  | finish (i : ℕ) (duration : ℚ)

namespace Traffic

/-- The service as it comes up. -/
def start : Traffic sha512_256 keyText config := ⟨.new, [], []⟩

/-- One turn. A failure is handled once, and before its request is observed. -/
def step (s : Traffic sha512_256 keyText config) :
    Turn sha512_256 keyText config → Option (Traffic sha512_256 keyText config)
  | .arrive passage => some { s with underWay := s.underWay ++ [⟨passage, false⟩] }
  | .handle i =>
    match s.underWay[i]? with
    | some ⟨passage, false⟩ => passage.failure.map fun exc =>
      { s with
        tables := { s.tables with toMetrics := (algorandErrorHandler s.tables.toMetrics exc).1 }
        underWay := s.underWay.set i ⟨passage, true⟩ }
    | _ => none
  | .finish i duration =>
    match s.underWay[i]? with
    | some ⟨passage, handled⟩ =>
      if handled = passage.failure.isSome then
        some {
          tables := observability s.tables passage duration
          underWay := s.underWay.eraseIdx i
          finished := (passage, duration) :: s.finished }
      else none
    | none => none

/-- The failures handled so far. -/
def failures (s : Traffic sha512_256 keyText config) : List AlgorandError :=
  s.finished.filterMap (·.1.failure) ++ s.underWay.filterMap Progress.failure

/-- The durations of the requests observed under a label. -/
def durations (s : Traffic sha512_256 keyText config) (label : String) : List ℚ :=
  (s.finished.filter fun entry => entry.1.label = label).map (·.2)

/-- What a turn does. -/
theorem step_cases {s s' : Traffic sha512_256 keyText config}
    {turn : Turn sha512_256 keyText config} (h : s.step turn = some s') :
    (∃ passage, s' = { s with underWay := s.underWay ++ [⟨passage, false⟩] }) ∨
    (∃ i passage exc, s.underWay[i]? = some ⟨passage, false⟩ ∧ passage.failure = some exc ∧
      s' = { s with
        tables := { s.tables with toMetrics := (algorandErrorHandler s.tables.toMetrics exc).1 }
        underWay := s.underWay.set i ⟨passage, true⟩ }) ∨
    (∃ i passage duration, s.underWay[i]? = some ⟨passage, passage.failure.isSome⟩ ∧
      s' = {
        tables := s.tables.observeRequest passage.label passage.status duration
        underWay := s.underWay.eraseIdx i
        finished := (passage, duration) :: s.finished }) := by
  cases turn with
  | arrive passage => exact .inl ⟨passage, (Option.some.inj h).symm⟩
  | handle i =>
    dsimp only [step] at h
    split at h
    · next passage hi =>
      obtain ⟨exc, hexc, rfl⟩ := Option.map_eq_some_iff.mp h
      exact .inr (.inl ⟨i, passage, exc, hi, hexc, rfl⟩)
    · cases h
  | finish i duration =>
    dsimp only [step] at h
    split at h
    · next passage handled hi =>
      by_cases hhandled : handled = passage.failure.isSome
      · rw [if_pos hhandled] at h
        subst hhandled
        refine .inr (.inr ⟨i, passage, duration, hi, ?_⟩)
        rw [← observability_eq]
        exact (Option.some.inj h).symm
      · rw [if_neg hhandled] at h
        cases h
    · cases h

end Traffic

/-! ### Observations -/

/-- What a request observation counts. -/
def Observation.request? : Observation → Option (String × Int × ℚ)
  | .request route status duration => some (route, status, duration)
  | .upstream _ _ => none

/-- What an upstream observation counts. -/
def Observation.upstream? : Observation → Option (String × String)
  | .request _ _ _ => none
  | .upstream target outcome => some (target, outcome)

theorem recorded_requests (obs : List Observation) : (recorded obs).requests =
    Counter.tally ((obs.filterMap Observation.request?).map fun o => (o.1, o.2.1)) := by
  induction obs with
  | nil => rfl
  | cons o obs ih =>
    cases o with
    | request route status duration => exact congrArg (Counter.bump · (route, status)) ih
    | upstream target outcome => exact ih

theorem recorded_upstream (obs : List Observation) :
    (recorded obs).upstream = Counter.tally (obs.filterMap Observation.upstream?) := by
  induction obs with
  | nil => rfl
  | cons o obs ih =>
    cases o with
    | request route status duration => exact ih
    | upstream target outcome => exact congrArg (Counter.bump · (target, outcome)) ih

theorem durationsOf_eq (label : String) (obs : List Observation) : durationsOf label obs =
    ((obs.filterMap Observation.request?).filter fun o => o.1 = label).map (·.2.2) := by
  induction obs with
  | nil => rfl
  | cons o obs ih =>
    cases o with
    | request route status duration =>
      have hread : Observation.request? (.request route status duration) =
          some (route, status, duration) := rfl
      unfold durationsOf at ih ⊢
      rw [List.filterMap_cons_some hread, List.filter_cons]
      by_cases hroute : route = label
      · rw [if_pos (decide_eq_true hroute), List.map_cons, ← ih]
        exact List.filterMap_cons_some (if_pos hroute)
      · rw [if_neg (by simpa using hroute), ← ih]
        exact List.filterMap_cons_none (if_neg hroute)
    | upstream target outcome => exact ih

/-- The key a failure is counted under. -/
def failureKey (exc : AlgorandError) : String × String :=
  ("indexer", if exc.responseStatus < 500 then "caller_error" else "upstream_error")

theorem newline_notMem_failureKey (exc : AlgorandError) :
    '\n' ∉ (failureKey exc).1.toList ∧ '\n' ∉ (failureKey exc).2.toList := by
  unfold failureKey
  split_ifs <;> exact ⟨by decide, by decide⟩

/-- The tables of the service are those of the observations: the requests observed, in order, and
    the failures handled, in some order. -/
structure Traffic.Recorded (s : Traffic sha512_256 keyText config) (obs : List Observation) :
    Prop where
  tables : s.tables = recorded obs
  requests : obs.filterMap Observation.request? =
    s.finished.map fun entry => (entry.1.label, (entry.1.status : Int), entry.2)
  upstream : (obs.filterMap Observation.upstream?).Perm (s.failures.map failureKey)

/-- An element taken to the front. -/
theorem filterMap_perm_cons_eraseIdx {α β : Type} (f : α → Option β) {l : List α} {i : ℕ} {a : α}
    (h : l[i]? = some a) : (l.filterMap f).Perm ((a :: l.eraseIdx i).filterMap f) := by
  obtain ⟨hi, rfl⟩ := List.getElem?_eq_some_iff.mp h
  exact (List.getElem_cons_eraseIdx_perm hi).symm.filterMap f

namespace Traffic

variable {s s' : Traffic sha512_256 keyText config}

/-- A failure that is handled joins the failures. -/
theorem failures_handle {i : ℕ} {passage : Passage sha512_256 keyText config}
    {exc : AlgorandError} (hi : s.underWay[i]? = some ⟨passage, false⟩)
    (hexc : passage.failure = some exc) (tables : MetricsTables) :
    (failures { s with tables, underWay := s.underWay.set i ⟨passage, true⟩ }).Perm
      (exc :: s.failures) := by
  obtain ⟨hlt, -⟩ := List.getElem?_eq_some_iff.mp hi
  have hset := (List.set_perm_cons_eraseIdx hlt ⟨passage, true⟩).filterMap Progress.failure
  have hold := filterMap_perm_cons_eraseIdx Progress.failure hi
  have hnew : Progress.failure ⟨passage, true⟩ = some exc := hexc
  have hbefore : Progress.failure ⟨passage, false⟩ = none := rfl
  rw [List.filterMap_cons_some hnew] at hset
  rw [List.filterMap_cons_none hbefore] at hold
  unfold failures
  exact ((hset.trans (hold.symm.cons exc)).append_left _).trans List.perm_middle

/-- A request that is observed keeps its failure. -/
theorem failures_finish {i : ℕ} {passage : Passage sha512_256 keyText config}
    (hi : s.underWay[i]? = some ⟨passage, passage.failure.isSome⟩) (tables : MetricsTables)
    (duration : ℚ) :
    (failures {
      tables
      underWay := s.underWay.eraseIdx i
      finished := (passage, duration) :: s.finished }).Perm s.failures := by
  have hold := filterMap_perm_cons_eraseIdx Progress.failure hi
  unfold failures
  have hkept : Progress.failure ⟨passage, passage.failure.isSome⟩ = passage.failure := by
    unfold Progress.failure
    cases passage.failure with
    | none => rfl
    | some exc => rfl
  cases hfailure : passage.failure with
  | none =>
    rw [List.filterMap_cons_none (hkept.trans hfailure)] at hold
    simp only [List.filterMap_cons, hfailure]
    exact hold.symm.append_left _
  | some exc =>
    rw [List.filterMap_cons_some (hkept.trans hfailure)] at hold
    simp only [List.filterMap_cons, hfailure]
    exact List.perm_middle.symm.trans (hold.symm.append_left _)

/-- One turn makes one observation, or none. -/
theorem Recorded.step {obs : List Observation} (h : s.Recorded obs)
    {turn : Turn sha512_256 keyText config} (hstep : s.step turn = some s') :
    ∃ obs', s'.Recorded obs' := by
  rcases step_cases hstep with ⟨passage, rfl⟩ | ⟨i, passage, exc, hi, hexc, rfl⟩ |
    ⟨i, passage, duration, hi, rfl⟩
  · refine ⟨obs, h.tables, h.requests, ?_⟩
    have hsame : failures { s with underWay := s.underWay ++ [⟨passage, false⟩] } =
        s.failures := by
      unfold failures
      rw [List.filterMap_append]
      exact congrArg (_ ++ ·) (List.append_nil _)
    rw [hsame]
    exact h.upstream
  · refine ⟨.upstream (failureKey exc).1 (failureKey exc).2 :: obs, ?_, h.requests, ?_⟩
    · rw [h.tables]
      rfl
    · simp only [List.filterMap_cons, Observation.upstream?]
      exact (h.upstream.cons _).trans ((failures_handle hi hexc _).map failureKey).symm
  · refine ⟨.request passage.label passage.status duration :: obs, ?_, ?_, ?_⟩
    · rw [h.tables]
      rfl
    · simp only [List.filterMap_cons, Observation.request?, h.requests, List.map_cons]
    · simp only [List.filterMap_cons, Observation.upstream?]
      exact h.upstream.trans ((failures_finish hi _ duration).map failureKey).symm

/-- **Along every run** the tables are those of some observations. -/
theorem recorded_of_run {turns : List (Turn sha512_256 keyText config)}
    (h : runFrom step start turns = some s) : ∃ obs, s.Recorded obs := by
  refine runFrom_invariant (P := fun _ s => ∃ obs, s.Recorded obs) ?_ ?_ h
  · exact ⟨[], rfl, rfl, List.Perm.refl _⟩
  · rintro - s turn s' - ⟨obs, hobs⟩ hstep
    exact hobs.step hstep

/-! ### What a scrape says -/

/-- The request counter after any run. -/
theorem Recorded.mem_requests_iff {obs : List Observation} (h : s.Recorded obs) {label : String}
    {status : Int} {n : ℕ} : ((label, status), n) ∈ s.tables.requests ↔
      0 < n ∧ n = s.finished.countP fun entry =>
        entry.1.label = label ∧ (entry.1.status : Int) = status := by
  rw [h.tables, recorded_requests, Counter.mem_tally_iff, h.requests, List.map_map,
    List.countP_map]
  simp only [Function.comp_def, Prod.mk.injEq]

/-- The upstream counter after any run. -/
theorem Recorded.mem_upstream_iff {obs : List Observation} (h : s.Recorded obs)
    {key : String × String} {n : ℕ} : (key, n) ∈ s.tables.upstream ↔
      0 < n ∧ n = s.failures.countP fun exc => failureKey exc = key := by
  rw [h.tables, recorded_upstream, Counter.mem_tally_iff, h.upstream.countP_eq, List.countP_map]
  rfl

/-- The durations under a label are those observed under it. -/
theorem Recorded.durationsOf_eq {obs : List Observation} (h : s.Recorded obs) (label : String) :
    durationsOf label obs = s.durations label := by
  rw [Algorandscout.durationsOf_eq, h.requests, List.filter_map, List.map_map]
  rfl

/-- No label recorded breaks a line. -/
theorem Recorded.newline_notMem {obs : List Observation} (h : s.Recorded obs) :
    (∀ key ∈ s.tables.requests.map (·.1), '\n' ∉ key.1.toList) ∧
      ∀ key ∈ s.tables.upstream.map (·.1), '\n' ∉ key.1.toList ∧ '\n' ∉ key.2.toList := by
  constructor
  · intro key hkey
    obtain ⟨⟨⟨label, status⟩, n⟩, hentry, rfl⟩ := List.mem_map.mp hkey
    obtain ⟨hpos, rfl⟩ := h.mem_requests_iff.mp hentry
    obtain ⟨entry, -, hlabel⟩ := List.countP_pos_iff.mp hpos
    obtain ⟨rfl, -⟩ := of_decide_eq_true hlabel
    exact newline_notMem_routeFor _
  · intro key hkey
    obtain ⟨⟨target, n⟩, hentry, rfl⟩ := List.mem_map.mp hkey
    obtain ⟨hpos, rfl⟩ := h.mem_upstream_iff.mp hentry
    obtain ⟨exc, -, htarget⟩ := List.countP_pos_iff.mp hpos
    obtain rfl := of_decide_eq_true htarget
    exact newline_notMem_failureKey exc

end Traffic

/-- Without observations on a route there is no histogram of it. -/
theorem filter_samples_unobserved {m : MetricsTables} {label : String}
    (h : RouteTables m label []) (cacheStats : Option CacheStats) (extra : List Gauge) :
    (m.samples cacheStats extra).filter (·.isDurationOf label) = [] := by
  rw [filter_samples, List.filter_eq_nil_iff]
  intro sample hsample
  obtain ⟨⟨r, counts⟩, hentry, hsample⟩ := List.mem_flatMap.mp hsample
  rw [(of_mem_durationSamples hsample label).1, decide_eq_true_eq]
  rintro rfl
  -- The route would be in the table.
  obtain ⟨entry, hmem, heq⟩ := List.mem_map.mp ((List.mergeSort_perm _ _).mem_iff.mp hentry)
  have hentered : r ∈ m.latencyBuckets := by
    obtain rfl : entry.1 = r := congrArg Prod.fst heq
    exact AList.mem_keys.mpr (List.mem_map_of_mem hmem)
  exact h.entered.mp hentered rfl

/-- **What a scrape should say**: for each label and status the number of requests observed under
    them, for each label the histogram of their durations, and for each outcome the number of
    failures handled; each once, and nothing else. -/
structure ScrapeTruthful (s : Traffic sha512_256 keyText config) (cacheStats : Option CacheStats)
    (extra : List Gauge) : Prop where
  requests (label : String) (status : Int) (n : ℕ) :
    ((label, status), n) ∈
        (TextFormat.samples (s.tables.render cacheStats extra).toList).filterMap readRequest ↔
      0 < n ∧ n = s.finished.countP fun entry =>
        entry.1.label = label ∧ (entry.1.status : Int) = status
  failures (key : String × String) (n : ℕ) :
    (key, n) ∈
        (TextFormat.samples (s.tables.render cacheStats extra).toList).filterMap readUpstream ↔
      0 < n ∧ n = s.failures.countP fun exc => failureKey exc = key
  distinct : ((s.tables.requestSamples ++ s.tables.upstreamSamples).map Sample.series).Nodup
  latency (label : String) :
    (s.tables.samples cacheStats extra).filter (·.isDurationOf label) =
      if s.durations label = [] then [] else durationBlock label (s.durations label)

variable {s : Traffic sha512_256 keyText config} {turns : List (Turn sha512_256 keyText config)}

/-- **A scrape is truthful** at every moment of every run, however the requests overlap. -/
theorem scrape_truthful (h : runFrom Traffic.step Traffic.start turns = some s)
    (cacheStats : Option CacheStats) (extra : List Gauge) :
    ScrapeTruthful s cacheStats extra := by
  obtain ⟨obs, hobs⟩ := Traffic.recorded_of_run h
  obtain ⟨hroutes, htargets⟩ := hobs.newline_notMem
  constructor
  · intro label status n
    rw [(requests_read s.tables cacheStats extra).mem_iff,
      ((map_requests_eq_iff _).mpr hroutes).mem_iff, hobs.mem_requests_iff]
  · intro key n
    rw [(upstream_read s.tables cacheStats extra).mem_iff,
      ((map_upstream_eq_iff _).mpr htargets).mem_iff, hobs.mem_upstream_iff]
  · have hnodup := nodup_recorded obs
    rw [← hobs.tables] at hnodup
    exact nodup_series_of_no_break hnodup.1 hnodup.2 hroutes htargets
  · intro label
    have htables := routeTables_recorded obs label
    rw [← hobs.tables, hobs.durationsOf_eq] at htables
    split_ifs with hnone
    · rw [hnone] at htables
      exact filter_samples_unobserved htables cacheStats extra
    · rw [filter_samples, filter_histogramSamples htables hnone]

/-- The latest block is asked for while algod is down; before that is observed, a path that no
    route has is answered. -/
def overlappingRequests : List (Turn (fun _ => zeroKeyDigest) (fun _ => none) mainnetConfig) :=
  [.finish 0 2, .finish 1 (1 / 100), .handle 0, .arrive (.framework none .notFound),
    .arrive (.served algodDown)]

/-- The service after them. -/
def overlappedTraffic : Traffic (fun _ => zeroKeyDigest) (fun _ => none) mainnetConfig where
  tables := recorded [.request "/api/v2/blocks" 502 2, .request "<unmatched>" 404 (1 / 100),
    .upstream "indexer" "upstream_error"]
  underWay := []
  finished := [(.served algodDown, 2), (.framework none .notFound, 1 / 100)]

theorem overlappingRequests_run :
    runFrom Traffic.step Traffic.start overlappingRequests = some overlappedTraffic := rfl

theorem overlappingRequests_scrape : ScrapeTruthful overlappedTraffic none [] :=
  scrape_truthful overlappingRequests_run none []

/-! ### How long a scrape can be -/

/-- The statuses of the service and of the framework. -/
def responseStatuses : List ℕ := [200, 307, 400, 403, 404, 405, 422, 429, 500, 502, 503]

theorem AlgorandError.responseStatus_mem (exc : AlgorandError) :
    exc.responseStatus ∈ responseStatuses := by
  unfold AlgorandError.responseStatus
  split_ifs <;> decide

theorem FrameworkStatus.code_mem (status : FrameworkStatus) : status.code ∈ responseStatuses := by
  cases status <;> decide

/-- What is no response is observed as 500. -/
theorem getD_respondedStatus {α : Type} (result : Except ServiceError α) :
    (respondedStatus (fun _ => 200) result).getD 500 = statusOf result := by
  cases result with
  | ok body => rfl
  | error e => cases e <;> rfl

theorem Caused.status_mem {α : Type} {request : ApiRequest} {rejection : Option Raised}
    {log : RouteLog} {result : Except ServiceError α}
    (h : Caused rejection (Refused request) log result) : statusOf result ∈ responseStatuses := by
  cases h with
  | responded log body valid => exact (by decide : 200 ∈ responseStatuses)
  | rejected raised invalid => exact (by decide : 400 ∈ responseStatuses)
  | refused valid refusal =>
    cases refusal with
    | transaction payload missing => exact (by decide : 404 ∈ responseStatuses)
    | latestBlock missing => exact (by decide : 502 ∈ responseStatuses)
  | @failed _ call exc valid last => exact exc.responseStatus_mem
  | crashed log e valid => exact (by decide : 500 ∈ responseStatuses)

theorem passthrough_status_mem {path : String} {queryParams : Dict} {log : RouteLog}
    {result : Except ServiceError Json} (h : Course (passthrough path queryParams) log result) :
    statusOf result ∈ responseStatuses := by
  unfold passthrough passthroughTarget at h
  dsimp only at h
  rcases course_ofExcept_bind_iff.mp h with ⟨e, he, -, rfl⟩ | ⟨call, -, hcall⟩
  · split_ifs at he
    · obtain rfl := Except.error.inj he
      exact (by decide : 403 ∈ responseStatuses)
    · cases he
  · obtain ⟨outcome, -, rfl⟩ := course_upstream_iff.mp hcall
    cases outcome with
    | ok payload => exact (by decide : 200 ∈ responseStatuses)
    | error exc => exact exc.responseStatus_mem

theorem Served.status_mem (served : Served sha512_256 keyText config) :
    statusOf served.result ∈ responseStatuses := by
  obtain ⟨request, log, result, course⟩ := served
  have hmap : ∀ {α : Type} (result : Except ServiceError α),
      statusOf (result.map fun _ => ()) = statusOf result := by
    intro α result
    cases result <;> rfl
  cases request with
  | api request =>
    obtain ⟨result, hcourse, rfl⟩ := course_map_iff.mp course
    rw [hmap]
    exact (caused_of_course request log result hcourse).status_mem
  | passthrough path queryParams =>
    obtain ⟨result, hcourse, rfl⟩ := course_map_iff.mp course
    rw [hmap]
    exact passthrough_status_mem hcourse

/-- The two routes that report health end well, or with a status of these. -/
theorem healthRoute_status_mem {okStatus : HealthReport → ℕ}
    (hok : ∀ report, okStatus report ∈ responseStatuses) {log : RouteLog}
    {result : Except ServiceError HealthReport} (h : Course (healthRoute config) log result) :
    (respondedStatus okStatus result).getD 500 ∈ responseStatuses := by
  cases result with
  | ok report => exact hok report
  | error e =>
    rcases crashesOrFails_health log e h with ⟨py, rfl⟩ | ⟨entry, -, call, exc, -, rfl⟩
    · exact (by decide : 500 ∈ responseStatuses)
    · exact exc.responseStatus_mem

/-- **Every request is counted under one of these statuses.** -/
theorem Passage.status_mem (passage : Passage sha512_256 keyText config) :
    passage.status ∈ responseStatuses := by
  cases passage with
  | served served =>
    show (respondedStatus (fun _ => 200) served.result).getD 500 ∈ responseStatuses
    rw [getD_respondedStatus]
    exact served.status_mem
  | health log result course => exact healthRoute_status_mem (fun _ => by decide) course
  | readyz log result course =>
    refine healthRoute_status_mem (fun report => ?_) course
    split_ifs <;> decide
  | page page => exact (by decide : 200 ∈ responseStatuses)
  | framework route status => exact status.code_mem

/-- The keys of the request counter. -/
theorem Traffic.Recorded.length_requests_le {obs : List Observation} (h : s.Recorded obs) :
    s.tables.requests.length ≤ routeLabels.length * responseStatuses.length := by
  have hnodup : (s.tables.requests.map (·.1)).Nodup := by
    rw [h.tables]
    exact (nodup_recorded obs).1
  have hsub : s.tables.requests.map (·.1) ⊆
      List.product routeLabels (responseStatuses.map Int.ofNat) := by
    intro key hkey
    obtain ⟨⟨⟨label, status⟩, n⟩, hentry, rfl⟩ := List.mem_map.mp hkey
    obtain ⟨hpos, rfl⟩ := h.mem_requests_iff.mp hentry
    obtain ⟨entry, -, hentry⟩ := List.countP_pos_iff.mp hpos
    obtain ⟨rfl, rfl⟩ := of_decide_eq_true hentry
    exact List.mem_product.mpr ⟨routeFor_mem _, List.mem_map_of_mem entry.1.status_mem⟩
  have hle := hnodup.length_le_of_subset hsub
  have hlength : (List.product routeLabels (responseStatuses.map Int.ofNat)).length =
      routeLabels.length * responseStatuses.length := by
    rw [← @List.length_map _ _ responseStatuses Int.ofNat]
    exact List.length_product _ _
  rwa [List.length_map, hlength] at hle

/-- The keys of the upstream counter. -/
theorem Traffic.Recorded.length_upstream_le {obs : List Observation} (h : s.Recorded obs) :
    s.tables.upstream.length ≤ 2 := by
  have hnodup : (s.tables.upstream.map (·.1)).Nodup := by
    rw [h.tables]
    exact (nodup_recorded obs).2
  have hsub : s.tables.upstream.map (·.1) ⊆
      [("indexer", "caller_error"), ("indexer", "upstream_error")] := by
    intro key hkey
    obtain ⟨⟨target, n⟩, hentry, rfl⟩ := List.mem_map.mp hkey
    obtain ⟨hpos, rfl⟩ := h.mem_upstream_iff.mp hentry
    obtain ⟨exc, -, hexc⟩ := List.countP_pos_iff.mp hpos
    obtain rfl := of_decide_eq_true hexc
    unfold failureKey
    split_ifs
    · exact List.mem_cons_self
    · exact List.mem_cons_of_mem _ List.mem_cons_self
  have hle := hnodup.length_le_of_subset hsub
  rwa [List.length_map] at hle

/-- The routes with a histogram. -/
theorem Traffic.Recorded.length_latencyBuckets_le {obs : List Observation} (h : s.Recorded obs) :
    s.tables.latencyBuckets.entries.length ≤ routeLabels.length := by
  have hsub : s.tables.latencyBuckets.keys ⊆ routeLabels := by
    intro label hlabel
    have htables := routeTables_recorded obs label
    rw [← h.tables, h.durationsOf_eq] at htables
    obtain ⟨duration, hduration⟩ := List.exists_mem_of_ne_nil _ (htables.entered.mp hlabel)
    obtain ⟨entry, hentry, -⟩ := List.mem_map.mp hduration
    obtain rfl := of_decide_eq_true (List.mem_filter.mp hentry).2
    exact routeFor_mem _
  have hle := s.tables.latencyBuckets.nodupKeys.length_le_of_subset hsub
  exact (List.length_map _).symm.trans_le hle

theorem length_bucketSamples_le (route : String) (cumulative : ℕ) (es : List Edge)
    (counts : List ℕ) : (bucketSamples route cumulative es counts).length ≤ es.length + 1 := by
  induction es generalizing cumulative counts with
  | nil => exact le_rfl
  | cons edge es ih =>
    cases counts with
    | nil => exact Nat.succ_le_succ (Nat.zero_le _)
    | cons count counts => exact Nat.succ_le_succ (ih (cumulative + count) counts)

/-- The histograms of the tables: eight edges, `+Inf`, the sum and the count for each route. -/
theorem length_histogramSamples_le (m : MetricsTables) :
    m.histogramSamples.length ≤ m.latencyBuckets.entries.length * 11 := by
  unfold MetricsTables.histogramSamples
  rw [List.length_flatMap]
  refine (List.sum_le_card_nsmul _ 11 ?_).trans (le_of_eq ?_)
  · intro n hn
    obtain ⟨⟨route, counts⟩, -, rfl⟩ := List.mem_map.mp hn
    have hle := length_bucketSamples_le route 0 latencyBuckets counts
    show (bucketSamples route 0 latencyBuckets counts ++ [_, _]).length ≤ 11
    rw [List.length_append]
    exact Nat.add_le_add_right hle 2
  · rw [List.length_map, (List.mergeSort_perm _ _).length_eq, List.length_map, smul_eq_mul]

theorem length_samples (m : MetricsTables) (cacheStats : Option CacheStats) (extra : List Gauge) :
    (m.samples cacheStats extra).length ≤ m.requests.length + m.upstream.length +
      m.histogramSamples.length + 4 + extra.length := by
  have hcache : ((MetricsTables.cacheLines cacheStats).filterMap Line.sample?).length ≤ 4 := by
    cases cacheStats with
    | none => exact Nat.zero_le 4
    | some stats => exact le_rfl
  rw [MetricsTables.samples_eq]
  unfold MetricsTables.requestSamples MetricsTables.upstreamSamples sortedItems
  simp only [List.length_append, List.length_map, (List.mergeSort_perm _ _).length_eq]
  omega

/-- **A scrape stays short**: the eighteen labels and eleven statuses bound it, whatever has been
    requested and however often. -/
theorem scrape_bounded (h : runFrom Traffic.step Traffic.start turns = some s)
    (cacheStats : Option CacheStats) (extra : List Gauge) :
    (s.tables.samples cacheStats extra).length ≤ 402 + extra.length := by
  obtain ⟨obs, hobs⟩ := Traffic.recorded_of_run h
  have hrequests : s.tables.requests.length ≤ 18 * 11 := hobs.length_requests_le
  have hroutes : s.tables.latencyBuckets.entries.length ≤ 18 := hobs.length_latencyBuckets_le
  have hupstream := hobs.length_upstream_le
  have hhistograms := length_histogramSamples_le s.tables
  have hsamples := length_samples s.tables cacheStats extra
  omega

theorem overlappingRequests_short :
    (overlappedTraffic.tables.samples none []).length ≤ 402 :=
  scrape_bounded overlappingRequests_run none []

end Algorandscout
