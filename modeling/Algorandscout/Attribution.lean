import Algorandscout.Identifiers
import Algorandscout.Routes
import Algorandscout.Library.Counter
import Algorandscout.Library.Runs

namespace Algorandscout

open Library Library.Program

/-!
# Attribution of upstream failures

An `AlgorandError` that leaves a route reaches `algorand_error_handler`, which chooses a status
and counts the failure.

* `Metrics`, `algorandErrorHandler` — the counter and the handler;
* `Served`, `FailedCall` — a request with a course of its route, and the call it failed by;
* `Attributed` — the failure is counted once, for the upstream that failed and under the right
  outcome, and the status is the right one;
* `attributed_run_iff` — along a run of requests, exactly when each failure is the indexer's, no
  429, and blamed on the caller if it is a `NotFound`;
* `total_of_run` — every failure is counted once in any case;
* `failures_misattributed` — runs whose failures are not attributed.
-/

/-! ### The handler -/

/-- The upstream counter of `METRICS`, by upstream and outcome. -/
structure Metrics where
  upstream : Counter (String × String)

/-- `observe_upstream`. -/
def Metrics.observeUpstream (metrics : Metrics) (upstream outcome : String) : Metrics where
  upstream := metrics.upstream.bump (upstream, outcome)

/-- The response that reports an `AlgorandError`. -/
structure ErrorResponse where
  statusCode : ℕ
  error : String
  upstreamStatus : Option Int

/-- `algorand_error_handler`. -/
def algorandErrorHandler (metrics : Metrics) (exc : AlgorandError) : Metrics × ErrorResponse :=
  let status := exc.responseStatus
  (metrics.observeUpstream "indexer" (if status < 500 then "caller_error" else "upstream_error"),
    { statusCode := status, error := exc.message, upstreamStatus := exc.status })

/-! ### Runs of requests -/

variable (sha512_256 : List UInt8 → Digest) (keyText : KeyText) (config : AlgorandConfig)

/-- `passthrough`. -/
def passthrough (path : String) (queryParams : Dict) : Route Json := do
  let call ← Program.ofExcept ((passthroughTarget path queryParams).mapError ServiceError.http)
  upstream call

/-- A request to a route that an `AlgorandError` can leave. -/
inductive ServiceRequest where
  | api (request : ApiRequest)
  | passthrough (path : String) (queryParams : Dict)

/-- The route of a request; what it responds with is of no interest here. -/
def serve : ServiceRequest → Route Unit
  | .api request => (fun _ => ()) <$> respond sha512_256 keyText config request
  | .passthrough path queryParams => (fun _ => ()) <$> passthrough path queryParams

/-- A request that was served: a course of its route. -/
structure Served where
  request : ServiceRequest
  log : RouteLog
  result : Except ServiceError Unit
  course : Course (serve sha512_256 keyText config request) log result

variable {sha512_256 keyText config}

/-- The request ended in the `AlgorandError` that its last call, this one, failed with. -/
structure Served.FailedCall (served : Served sha512_256 keyText config) (call : Call)
    (exc : AlgorandError) : Prop where
  result : served.result = .error (.algorand exc)
  last : served.log.getLast? = some ⟨.upstream call, (.error exc : Outcome)⟩

/-- The metrics after a request. -/
def afterRequest (metrics : Metrics) (served : Served sha512_256 keyText config) : Metrics :=
  match served.result with
  | .error (.algorand exc) => (algorandErrorHandler metrics exc).1
  | _ => metrics

/-- A request as a step of the service. -/
def serviceStep (metrics : Metrics) (served : Served sha512_256 keyText config) :
    Option Metrics := some (afterRequest metrics served)

/-! ### Attribution -/

/-- The name of an upstream, as a metric label. -/
def Upstream.name : Upstream → String
  | .algod => "algod"
  | .indexer => "indexer"

/-- The outcome under which a failure is to be counted. -/
def AlgorandError.outcome (exc : AlgorandError) : String :=
  if exc.callerError then "caller_error" else "upstream_error"

/-- A failure is attributed: exactly one counter goes up by one, that of the upstream that failed
    and of the outcome the exception asks for; and the status is that of the exception. -/
structure Attributed (target : Upstream) (exc : AlgorandError) (before after : Metrics)
    (response : ErrorResponse) : Prop where
  counter : ∀ key, after.upstream.count key =
    if key = (target.name, exc.outcome) then before.upstream.count key + 1
    else before.upstream.count key
  notFound : exc.isNotFound = true → response.statusCode = 404
  tooMany : exc.isNotFound = false → exc.status = some 429 → response.statusCode = 429
  caller : exc.isNotFound = false → exc.callerError = true → response.statusCode = 400
  other : exc.isNotFound = false → exc.status ≠ some 429 → exc.callerError = false →
    response.statusCode = 502

/-- What a step of the service does to a failure. -/
def StepAttributed (metrics : Metrics) (served : Served sha512_256 keyText config) : Prop :=
  ∀ exc, served.result = .error (.algorand exc) → ∃ call, served.FailedCall call exc ∧
    Attributed call.request.upstream exc metrics (afterRequest metrics served)
      (algorandErrorHandler metrics exc).2

/-- **The failures that are attributed**: the indexer failed, not with 429, and the caller is to
    blame if nothing was found. -/
structure AttributedFailure (call : Call) (exc : AlgorandError) : Prop where
  target : call.request.upstream = .indexer
  notTooMany : exc.status ≠ some 429
  notFound : exc.isNotFound = true → exc.callerError = true

/-! ### The call that failed -/

/-- Errors other than an `AlgorandError`. -/
def OwnError (e : ServiceError) : Prop := ∀ exc, e ≠ .algorand exc

/-- The operation is a call that failed with the error. -/
def FailedWith (entry : (op : Op) × op.Answer) (e : ServiceError) : Prop :=
  ∃ call exc, entry = ⟨.upstream call, (.error exc : Outcome)⟩ ∧ e = .algorand exc

variable {α β : Type}

/-- An `AlgorandError` that leaves the route is that of its last call. -/
abbrev FailsByCall (p : Route α) : Prop := FailsBy OwnError FailedWith p

theorem failsByCall_validated {x : Except Raised α} : FailsByCall (validated x) := by
  apply FailsBy.ofExcept
  rintro e he exc rfl
  cases x with
  | ok a => cases he
  | error raised => cases he

/-- A mapper raises no `AlgorandError`. -/
theorem ownError_of_mapping {x : Except PyError α} {e : ServiceError}
    (h : mapping x = .error e) : OwnError e := by
  rintro exc rfl
  cases x with
  | ok a => cases h
  | error raised => cases h

theorem failsByCall_mapped {x : Except PyError α} : FailsByCall (mapped x) :=
  FailsBy.ofExcept fun _ => ownError_of_mapping

/-- Nor does what `get_transaction` makes of its payload. -/
theorem ownError_of_transactionResponse {payload : Json} {e : ServiceError}
    (h : transactionResponse payload = .error e) : OwnError e := by
  unfold transactionResponse at h
  rcases bind_eq_error.mp h with he | ⟨members, -, h⟩
  · exact ownError_of_mapping he
  dsimp only at h
  split_ifs at h
  · obtain rfl := Except.error.inj h
    rintro exc ⟨⟩
  · rcases bind_eq_error.mp h with he | ⟨mapped, -, h⟩
    · exact ownError_of_mapping he
    · rcases bind_eq_error.mp h with he | ⟨confirmations, -, h⟩
      · exact ownError_of_mapping he
      · cases h

theorem failsByCall_upstream (call : Call) : FailsByCall (upstream call) := by
  intro log e hcourse
  obtain ⟨outcome, rfl, heq⟩ := course_upstream_iff.mp hcourse
  cases outcome with
  | ok payload => cases heq
  | error exc =>
    obtain rfl := Except.error.inj heq
    exact .inr ⟨_, rfl, call, exc, rfl, rfl⟩

theorem failsByCall_askUpstream_bind {call : Call} {f : Outcome → Route α}
    (hf : ∀ outcome, FailsByCall (f outcome)) : FailsByCall (askUpstream call >>= f) := by
  refine FailsBy.bind ?_ hf
  intro log e hcourse
  obtain ⟨outcome, rest, rfl, hend⟩ := course_perform_iff.mp hcourse
  obtain ⟨-, heq⟩ := course_done_iff.mp hend
  cases heq

theorem failsByCall_getOrFetch (kind key : String) (call : Call) :
    FailsByCall (getOrFetch kind key (upstream call)) := by
  intro log e hcourse
  cases fetched_of_course hcourse with
  | failed exc => exact .inr ⟨_, rfl, call, exc, rfl, rfl⟩

/-! ### The routes -/

theorem failsByCall_probe (call : Call) (mapper : Json → Except PyError (List SearchItem)) :
    FailsByCall (probe call mapper) := by
  apply failsByCall_askUpstream_bind
  intro outcome
  cases outcome with
  | ok payload => exact failsByCall_mapped
  | error exc => exact FailsBy.pure

theorem failsByCall_search (keyText : KeyText) (q : String) (limit : Int) :
    FailsByCall (search keyText q limit) := by
  have hassets : ∀ call, FailsByCall (searchedAssets call) := by
    intro call
    exact FailsBy.bind (failsByCall_upstream call) fun _ => failsByCall_mapped
  unfold search
  dsimp only
  cases classifyQuery (Text.strip q) with
  | none =>
    refine FailsBy.bind (hassets _) fun units => ?_
    split_ifs
    · exact FailsBy.bind (hassets _) fun _ => FailsBy.pure
    · exact FailsBy.pure
  | some kind =>
    cases kind with
    | address => exact FailsBy.bind (failsByCall_probe _ _) fun _ => FailsBy.pure
    | transaction => exact FailsBy.bind (failsByCall_probe _ _) fun _ => FailsBy.pure
    | numeric =>
      refine FailsBy.bind failsByCall_mapped fun n => ?_
      cases validateUint64 (.int n) "id" with
      | error e => exact FailsBy.pure
      | ok _ =>
        refine FailsBy.bind (failsByCall_probe _ _) fun tokens => ?_
        exact FailsBy.bind (failsByCall_probe _ _) fun contracts => FailsBy.pure

theorem failsByCall_askAssets (ids : List (Key × Json)) : FailsByCall (askAssets ids) := by
  induction ids with
  | nil => exact FailsBy.pure
  | cons entry ids ih =>
    apply failsByCall_askUpstream_bind
    intro outcome
    exact FailsBy.bind ih fun _ => FailsBy.pure

theorem failsByCall_tokenBalances (address : String) (limit : Int) (nextToken : Option String)
    (resolve : Bool) :
    FailsByCall (getAddressTokenBalances sha512_256 address limit nextToken resolve) := by
  refine FailsBy.bind failsByCall_validated fun _ => ?_
  refine FailsBy.bind (failsByCall_upstream _) fun payload => ?_
  refine FailsBy.bind ?_ fun _ => failsByCall_mapped
  cases resolve with
  | false => exact FailsBy.pure
  | true =>
    refine FailsBy.bind failsByCall_mapped fun ids => ?_
    exact FailsBy.bind (failsByCall_askAssets _) fun _ => failsByCall_mapped

theorem failsByCall_tokenHolders (assetId limit : Int) (nextToken : Option String)
    (resolve : Bool) : FailsByCall (getTokenHolders assetId limit nextToken resolve) := by
  refine FailsBy.bind failsByCall_validated fun _ => ?_
  refine FailsBy.bind (failsByCall_upstream _) fun payload => ?_
  refine FailsBy.bind ?_ fun _ => failsByCall_mapped
  cases resolve with
  | false => exact FailsBy.pure
  | true =>
    apply failsByCall_askUpstream_bind
    intro outcome
    cases outcome with
    | ok assetPayload => exact failsByCall_mapped
    | error exc => exact FailsBy.pure

theorem failsByCall_latestBlock : FailsByCall getLatestBlock := by
  refine FailsBy.bind (failsByCall_upstream _) fun status => ?_
  refine FailsBy.bind failsByCall_mapped fun members => ?_
  dsimp only
  split_ifs
  · apply FailsBy.raise
    rintro exc ⟨⟩
  · refine FailsBy.bind (failsByCall_upstream _) fun payload => ?_
    exact FailsBy.bind failsByCall_mapped fun _ => FailsBy.pure

theorem failsByCall_addressTransactions (address : String) (limit : Int)
    (nextToken afterTime beforeTime txType : Option String) (assetId : Option Int) :
    FailsByCall (getAddressTransactions sha512_256 address limit nextToken afterTime beforeTime
      txType assetId) := by
  refine FailsBy.bind failsByCall_validated fun _ => ?_
  have hrest : FailsByCall (do
      let payload ← upstream (.accountTransactions address limit nextToken afterTime beforeTime
        txType assetId)
      let members ← mapped payload.asDict
      mapped (mapTransactionList payload (members.get "current-round"))) := by
    refine FailsBy.bind (failsByCall_upstream _) fun payload => ?_
    exact FailsBy.bind failsByCall_mapped fun _ => failsByCall_mapped
  cases assetId with
  | none => exact hrest
  | some id => exact FailsBy.bind failsByCall_validated fun _ => hrest

/-- **Every explorer route fails by its last call**, or with an error of its own. -/
theorem failsByCall_respond (request : ApiRequest) :
    FailsByCall (respond sha512_256 keyText config request) := by
  cases request with
  | stats =>
    apply FailsBy.map
    refine FailsBy.bind (failsByCall_upstream _) fun status => ?_
    refine FailsBy.bind ?_ fun _ => failsByCall_mapped
    refine failsByCall_askUpstream_bind fun nodeRead => ?_
    exact failsByCall_askUpstream_bind fun idxRead => failsByCall_mapped
  | address address live =>
    apply FailsBy.map
    refine FailsBy.bind failsByCall_validated fun _ => ?_
    exact FailsBy.bind (failsByCall_upstream _) fun _ => failsByCall_mapped
  | addressTransactions address limit nextToken afterTime beforeTime txType assetId =>
    exact (failsByCall_addressTransactions address limit nextToken afterTime beforeTime txType
      assetId).map
  | addressTokenBalances address limit nextToken resolve =>
    exact (failsByCall_tokenBalances address limit nextToken resolve).map
  | transaction txid =>
    apply FailsBy.map
    refine FailsBy.bind failsByCall_validated fun _ => ?_
    refine FailsBy.bind (failsByCall_getOrFetch _ _ _) fun payload => ?_
    exact FailsBy.ofExcept fun _ => ownError_of_transactionResponse
  | block roundNumber includeTransactions =>
    apply FailsBy.map
    refine FailsBy.bind failsByCall_validated fun _ => ?_
    exact FailsBy.bind (failsByCall_getOrFetch _ _ _) fun _ => failsByCall_mapped
  | latestBlock => exact failsByCall_latestBlock.map
  | token assetId =>
    apply FailsBy.map
    refine FailsBy.bind failsByCall_validated fun _ => ?_
    exact FailsBy.bind (failsByCall_getOrFetch _ _ _) fun _ => failsByCall_mapped
  | tokenHolders assetId limit nextToken resolve =>
    exact (failsByCall_tokenHolders assetId limit nextToken resolve).map
  | smartContract appId =>
    apply FailsBy.map
    refine FailsBy.bind failsByCall_validated fun _ => ?_
    exact FailsBy.bind (failsByCall_getOrFetch _ _ _) fun _ => failsByCall_mapped
  | search q limit => exact (failsByCall_search keyText q limit).map

theorem failsByCall_serve (request : ServiceRequest) :
    FailsByCall (serve sha512_256 keyText config request) := by
  cases request with
  | api request => exact (failsByCall_respond request).map
  | passthrough path queryParams =>
    apply FailsBy.map
    refine FailsBy.bind (FailsBy.ofExcept ?_) fun call => failsByCall_upstream call
    rintro e he exc rfl
    cases htarget : passthroughTarget path queryParams with
    | ok call =>
      rw [htarget] at he
      cases he
    | error exc =>
      rw [htarget] at he
      cases he

/-! ### Runs -/

variable {served : Served sha512_256 keyText config}

/-- An `AlgorandError` that reaches the handler is that of the last call of its request. -/
theorem Served.exists_failedCall {exc : AlgorandError}
    (h : served.result = .error (.algorand exc)) : ∃ call, served.FailedCall call exc := by
  have hcourse := served.course
  rw [h] at hcourse
  rcases failsByCall_serve served.request served.log _ hcourse with hown | ⟨entry, hlast, hfailed⟩
  · exact absurd rfl (hown exc)
  · obtain ⟨call, exc', rfl, heq⟩ := hfailed
    obtain rfl := ServiceError.algorand.inj heq
    exact ⟨call, h, hlast⟩

/-- The handler answers with less than 500 to exactly these. -/
theorem responseStatus_lt_iff (exc : AlgorandError) :
    exc.responseStatus < 500 ↔
      exc.isNotFound = true ∨ exc.status = some 429 ∨ exc.callerError = true := by
  unfold AlgorandError.responseStatus
  split_ifs with hnotFound htooMany hcaller
  · simp [hnotFound]
  · simp [htooMany]
  · simp [hcaller]
  · simp [hnotFound, htooMany, hcaller]

theorem not_callerError_of_tooMany {exc : AlgorandError} (h : exc.status = some 429) :
    exc.callerError = false := by
  unfold AlgorandError.callerError
  rw [h]
  rfl

/-- The label the handler counts under is the one the exception asks for. -/
theorem label_eq_outcome_iff (exc : AlgorandError) :
    (if exc.responseStatus < 500 then "caller_error" else "upstream_error") = exc.outcome ↔
      exc.status ≠ some 429 ∧ (exc.isNotFound = true → exc.callerError = true) := by
  unfold AlgorandError.outcome
  by_cases hcaller : exc.callerError = true
  · have hstatus : exc.status ≠ some 429 := by
      intro htooMany
      rw [not_callerError_of_tooMany htooMany] at hcaller
      cases hcaller
    rw [if_pos ((responseStatus_lt_iff exc).mpr (.inr (.inr hcaller))), if_pos hcaller]
    exact iff_of_true rfl ⟨hstatus, fun _ => hcaller⟩
  · by_cases hlt : exc.responseStatus < 500
    · rw [if_pos hlt, if_neg hcaller]
      refine iff_of_false (by decide) ?_
      rintro ⟨hstatus, hnotFound⟩
      rcases (responseStatus_lt_iff exc).mp hlt with h | h | h
      · exact hcaller (hnotFound h)
      · exact hstatus h
      · exact hcaller h
    · rw [if_neg hlt, if_neg hcaller]
      rw [responseStatus_lt_iff] at hlt
      exact iff_of_true rfl ⟨fun h => hlt (.inr (.inl h)), fun h => absurd (.inl h) hlt⟩

/-- **One failure is attributed exactly when** it is the indexer's and the label is right. -/
theorem attributed_iff (metrics : Metrics) (call : Call) (exc : AlgorandError) :
    Attributed call.request.upstream exc metrics (algorandErrorHandler metrics exc).1
      (algorandErrorHandler metrics exc).2 ↔ AttributedFailure call exc := by
  have htarget : "indexer" = call.request.upstream.name ↔ call.request.upstream = .indexer := by
    cases call.request.upstream <;> decide
  -- Counting under one key is counting under the other only if the keys are equal.
  have hcounter : (∀ key, (algorandErrorHandler metrics exc).1.upstream.count key =
      if key = (call.request.upstream.name, exc.outcome) then metrics.upstream.count key + 1
      else metrics.upstream.count key) ↔
      call.request.upstream = .indexer ∧ exc.status ≠ some 429 ∧
        (exc.isNotFound = true → exc.callerError = true) := by
    rw [← htarget, ← label_eq_outcome_iff, ← Prod.mk.injEq,
      ← Counter.bump_eq_iff metrics.upstream]
    apply forall_congr'
    intro key
    have hspec : (metrics.upstream.bump (call.request.upstream.name, exc.outcome)).count key =
        if key = (call.request.upstream.name, exc.outcome) then metrics.upstream.count key + 1
        else metrics.upstream.count key := by
      rw [Counter.count_bump]
      split_ifs with hkey
      · rw [hkey]
      · rfl
    rw [← hspec]
    exact Iff.rfl
  constructor
  · intro h
    obtain ⟨hup, hstatus, hnotFound⟩ := hcounter.mp h.counter
    exact ⟨hup, hstatus, hnotFound⟩
  · rintro ⟨hup, hstatus, hnotFound⟩
    refine ⟨hcounter.mpr ⟨hup, hstatus, hnotFound⟩, ?_, ?_, ?_, ?_⟩
    · intro h
      simp [algorandErrorHandler, AlgorandError.responseStatus, h]
    · intro h htooMany
      simp [algorandErrorHandler, AlgorandError.responseStatus, h, htooMany]
    · intro h hcaller
      simp [algorandErrorHandler, AlgorandError.responseStatus, h, hcaller, hstatus]
    · intro h hother hcaller
      simp [algorandErrorHandler, AlgorandError.responseStatus, h, hcaller, hother]

/-- A step is attributed exactly when the failure of its request, if any, is one of these. -/
theorem stepAttributed_iff (metrics : Metrics) (served : Served sha512_256 keyText config) :
    StepAttributed metrics served ↔
      ∀ call exc, served.FailedCall call exc → AttributedFailure call exc := by
  have hafter : ∀ {exc}, served.result = .error (.algorand exc) →
      afterRequest metrics served = (algorandErrorHandler metrics exc).1 := by
    intro exc h
    unfold afterRequest
    rw [h]
  constructor
  · intro h call exc hfailed
    obtain ⟨call', hfailed', hattributed⟩ := h exc hfailed.result
    rw [hafter hfailed.result, attributed_iff] at hattributed
    -- The last call of a log is one call.
    obtain rfl : call' = call := by
      have hlast := Option.some.inj (hfailed'.last.symm.trans hfailed.last)
      exact Op.upstream.inj (congrArg Sigma.fst hlast)
    exact hattributed
  · intro h exc hresult
    obtain ⟨call, hfailed⟩ := served.exists_failedCall hresult
    refine ⟨call, hfailed, ?_⟩
    rw [hafter hresult, attributed_iff]
    exact h call exc hfailed

/-- **The failures of a run are attributed exactly when each of them is the indexer's, no 429, and
    blamed on the caller if it is a `NotFound`**, for every run of requests. -/
theorem attributed_run_iff (metrics : Metrics) (run : List (Served sha512_256 keyText config)) :
    AllSteps serviceStep metrics StepAttributed run ↔
      ∀ served ∈ run, ∀ call exc, served.FailedCall call exc → AttributedFailure call exc := by
  apply allSteps_iff_forall_mem
  · intro metrics served
    exact ⟨_, rfl⟩
  · exact stepAttributed_iff

/-- The request ended in an `AlgorandError`. -/
def Served.failed (served : Served sha512_256 keyText config) : Bool :=
  match served.result with
  | .error (.algorand _) => true
  | _ => false

theorem total_afterRequest (metrics : Metrics) (served : Served sha512_256 keyText config) :
    (afterRequest metrics served).upstream.total =
      metrics.upstream.total + if served.failed then 1 else 0 := by
  unfold afterRequest Served.failed
  cases served.result with
  | ok body => rfl
  | error e =>
    cases e with
    | algorand exc => exact Counter.total_bump _ _
    | _ => rfl

/-- Whatever it is counted under, every failure of a run is counted once. -/
theorem total_of_run {metrics metrics' : Metrics} {run : List (Served sha512_256 keyText config)}
    (h : runFrom serviceStep metrics run = some metrics') :
    metrics'.upstream.total = metrics.upstream.total + (run.filter Served.failed).length := by
  induction run generalizing metrics' with
  | nil =>
    obtain rfl := Option.some.inj h
    rfl
  | cons served run ih =>
    obtain ⟨middle, hrun, hstep⟩ := runFrom_cons_eq_some.mp h
    obtain rfl := Option.some.inj hstep
    rw [total_afterRequest, ih hrun, List.filter_cons]
    split_ifs
    · rw [List.length_cons]
      omega
    · rfl

/-! ### Failures that are not attributed -/

/-- The latest block is asked for while algod is down. -/
def algodDown : Served (fun _ => zeroKeyDigest) (fun _ => none) mainnetConfig where
  request := .api .latestBlock
  log := [⟨.upstream .status, (.error ⟨false, "transport failure: ", none, ""⟩ : Outcome)⟩]
  result := .error (.algorand ⟨false, "transport failure: ", none, ""⟩)
  course := by
    refine course_map_iff.mpr ⟨.error _, course_map_iff.mpr ⟨.error _, ?_, rfl⟩, rfl⟩
    exact course_upstream_bind_iff.mpr (.inl ⟨_, rfl, rfl⟩)

/-- An asset is searched for while the indexer limits the rate. -/
def indexerBusy : Served (fun _ => zeroKeyDigest) (fun _ => none) mainnetConfig where
  request := .api (.search "USDC" 10)
  log := [⟨.upstream (.searchAssets (some "USDC") none 10),
    (.error ⟨false, "HTTP 429: ", some 429, ""⟩ : Outcome)⟩]
  result := .error (.algorand ⟨false, "HTTP 429: ", some 429, ""⟩)
  course := by
    refine course_map_iff.mpr ⟨.error _, course_map_iff.mpr ⟨.error _, ?_, rfl⟩, rfl⟩
    have hkind : classifyQuery (Text.strip "USDC") = none := by decide
    exact course_of_failed_name_search (fun _ => none) hkind 10 _

/-- **Failures that are not attributed**: algod's is counted as the indexer's, and a 429 of the
    indexer is counted as the caller's. -/
theorem failures_misattributed :
    (afterRequest ⟨[]⟩ algodDown).upstream = [(("indexer", "upstream_error"), 1)] ∧
    ¬AllSteps serviceStep ⟨[]⟩ StepAttributed [algodDown] ∧
    (afterRequest ⟨[]⟩ indexerBusy).upstream = [(("indexer", "caller_error"), 1)] ∧
    ¬AllSteps serviceStep ⟨[]⟩ StepAttributed [indexerBusy] := by
  refine ⟨rfl, ?_, rfl, ?_⟩
  · intro h
    have hstep := h.1 ⟨[]⟩ rfl
    have hattributed := (stepAttributed_iff _ _).mp hstep .status _ ⟨rfl, rfl⟩
    exact absurd hattributed.target (by decide)
  · intro h
    have hstep := h.1 ⟨[]⟩ rfl
    have hattributed := (stepAttributed_iff _ _).mp hstep
      (.searchAssets (some "USDC") none 10) _ ⟨rfl, rfl⟩
    exact absurd rfl hattributed.notTooMany

end Algorandscout
