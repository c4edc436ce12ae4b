import Algorandscout.Stack
import Algorandscout.Attribution

namespace Algorandscout

open Library Library.Program

/-!
# What a response comes from

Every response of an explorer route that is no success has one of four causes.

* `raisedBy`, `ApiRequest.rejection` — what the validators at the start of a route raise;
* `Refused` — the two refusals that the routes raise themselves;
* `Caused` — how a request can end: a response, a rejection before anything is asked, a refusal,
  the failure of its last call, or an exception that no handler takes;
* `CrashesOrFails` — what is left when a route has validated its arguments;
* `caused_of_course` — every course of every route ends in one of these ways;
* `caused_over_transport` — and so does every request down to its attempts: a rejection sends
  nothing, and a failure is that of the last exchange.
-/

/-- What a validator raises. -/
def raisedBy {α : Type} : Except Raised α → Option Raised
  | .ok _ => none
  | .error raised => some raised

variable (sha512_256 : List UInt8 → Digest) (keyText : KeyText) (config : AlgorandConfig)

/-- What the first validator of the route that rejects its argument raises. -/
def ApiRequest.rejection : ApiRequest → Option Raised
  | .stats => none
  | .address holder _ => raisedBy (validateAddress sha512_256 holder)
  | .addressTransactions holder _ _ _ _ _ assetId =>
    raisedBy (validateAddress sha512_256 holder) <|>
      assetId.bind fun id => raisedBy (validateUint64 (.int id) "asset_id")
  | .addressTokenBalances holder _ _ _ => raisedBy (validateAddress sha512_256 holder)
  | .transaction txid => raisedBy (validateTxid txid)
  | .block roundNumber _ => raisedBy (validateUint64 (.int roundNumber) "round")
  | .latestBlock => none
  | .token assetId => raisedBy (validateUint64 (.int assetId) "asset_id")
  | .tokenHolders assetId _ _ _ => raisedBy (validateUint64 (.int assetId) "asset_id")
  | .smartContract appId => raisedBy (validateUint64 (.int appId) "app_id")
  -- A search validates nothing that it lets out of the route.
  | .search _ _ => none

/-- What a route refuses by itself. -/
inductive Refused : ApiRequest → RouteLog → HttpException → Prop
  /-- The payload of the transaction, cached or fetched, holds none. -/
  | transaction {txid : String} {log : RouteLog} {members : Dict}
      (payload : Fetched "transaction" txid (.transaction txid) log (.ok (.obj members)))
      (missing : (members.get "transaction").truthy = false) :
      Refused (.transaction txid) log ⟨404, "transaction not found"⟩
  /-- The node's status has no round. -/
  | latestBlock {members : Dict} (missing : (members.get "last-round").isNull = true) :
      Refused .latestBlock [⟨.upstream .status, (.ok (.obj members) : Outcome)⟩]
        ⟨502, "node did not report a round"⟩

/-- How a request can end, when the validators raise `rejection` and the refusals are
    `Refusal`s. -/
inductive Caused {α : Type} (rejection : Option Raised)
    (Refusal : RouteLog → HttpException → Prop) : RouteLog → Except ServiceError α → Prop
  | responded (log : RouteLog) (body : α) (valid : rejection = none) :
      Caused rejection Refusal log (.ok body)
  /-- Nothing has been asked of the upstream or the cache. -/
  | rejected (raised : Raised) (invalid : rejection = some raised) :
      Caused rejection Refusal [] (.error (.validation raised))
  | refused {log : RouteLog} {exc : HttpException} (valid : rejection = none)
      (refusal : Refusal log exc) : Caused rejection Refusal log (.error (.http exc))
  | failed {log : RouteLog} {call : Call} {exc : AlgorandError} (valid : rejection = none)
      (last : log.getLast? = some ⟨.upstream call, (.error exc : Outcome)⟩) :
      Caused rejection Refusal log (.error (.algorand exc))
  | crashed (log : RouteLog) (e : PyError) (valid : rejection = none) :
      Caused rejection Refusal log (.error (.unhandled e))

variable {sha512_256 keyText config} {α β : Type}

/-- Every course of the route ends so. -/
def AllCaused (rejection : Option Raised) (Refusal : RouteLog → HttpException → Prop)
    (p : Route α) : Prop :=
  ∀ log result, Course p log result → Caused rejection Refusal log result

/-! ### After the validators -/

/-- An exception that no handler takes. -/
def Crash (e : ServiceError) : Prop := ∃ py, e = .unhandled py

/-- A failure is a crash, or that of the last call. -/
abbrev CrashesOrFails (p : Route α) : Prop := FailsBy Crash FailedWith p

theorem crash_of_mapping {x : Except PyError α} {e : ServiceError} (h : mapping x = .error e) :
    Crash e := by
  cases x with
  | ok a => cases h
  | error py => exact ⟨py, (Except.error.inj h).symm⟩

theorem crashesOrFails_mapped {x : Except PyError α} : CrashesOrFails (mapped x) :=
  FailsBy.ofExcept fun _ => crash_of_mapping

theorem crashesOrFails_upstream (call : Call) : CrashesOrFails (upstream call) := by
  intro log e hcourse
  obtain ⟨outcome, rfl, heq⟩ := course_upstream_iff.mp hcourse
  cases outcome with
  | ok payload => cases heq
  | error exc =>
    obtain rfl := Except.error.inj heq
    exact .inr ⟨_, rfl, call, exc, rfl, rfl⟩

theorem crashesOrFails_askUpstream (call : Call) : CrashesOrFails (askUpstream call) := by
  intro log e hcourse
  obtain ⟨outcome, rest, rfl, hend⟩ := course_perform_iff.mp hcourse
  obtain ⟨-, heq⟩ := course_done_iff.mp hend
  cases heq

theorem crashesOrFails_getOrFetch (kind key : String) (call : Call) :
    CrashesOrFails (getOrFetch kind key (upstream call)) := by
  intro log e hcourse
  cases fetched_of_course hcourse with
  | failed exc => exact .inr ⟨_, rfl, call, exc, rfl, rfl⟩

theorem crashesOrFails_probe (call : Call) (mapper : Json → Except PyError (List SearchItem)) :
    CrashesOrFails (probe call mapper) := by
  refine FailsBy.bind (crashesOrFails_askUpstream call) fun outcome => ?_
  cases outcome with
  | ok payload => exact crashesOrFails_mapped
  | error exc => exact FailsBy.pure

theorem crashesOrFails_searchedAssets (call : Call) : CrashesOrFails (searchedAssets call) :=
  FailsBy.bind (crashesOrFails_upstream call) fun _ => crashesOrFails_mapped

theorem crashesOrFails_search (q : String) (limit : Int) :
    CrashesOrFails (search keyText q limit) := by
  unfold search
  dsimp only
  cases classifyQuery (Text.strip q) with
  | none =>
    refine FailsBy.bind (crashesOrFails_searchedAssets _) fun units => ?_
    split_ifs
    · exact FailsBy.bind (crashesOrFails_searchedAssets _) fun _ => FailsBy.pure
    · exact FailsBy.pure
  | some kind =>
    cases kind with
    | address => exact FailsBy.bind (crashesOrFails_probe _ _) fun _ => FailsBy.pure
    | transaction => exact FailsBy.bind (crashesOrFails_probe _ _) fun _ => FailsBy.pure
    | numeric =>
      refine FailsBy.bind crashesOrFails_mapped fun n => ?_
      cases validateUint64 (.int n) "id" with
      | error raised => exact FailsBy.pure
      | ok id =>
        refine FailsBy.bind (crashesOrFails_probe _ _) fun tokens => ?_
        exact FailsBy.bind (crashesOrFails_probe _ _) fun contracts => FailsBy.pure

theorem crashesOrFails_health : CrashesOrFails (health config askUpstream .unhandled) := by
  refine FailsBy.bind (crashesOrFails_askUpstream _) fun nodeRead => ?_
  exact FailsBy.bind (crashesOrFails_askUpstream _) fun idxRead => crashesOrFails_mapped

theorem crashesOrFails_stats : CrashesOrFails (stats config) := by
  refine FailsBy.bind (crashesOrFails_upstream _) fun status => ?_
  exact FailsBy.bind crashesOrFails_health fun _ => crashesOrFails_mapped

theorem crashesOrFails_askAssets (ids : List (Key × Json)) : CrashesOrFails (askAssets ids) := by
  induction ids with
  | nil => exact FailsBy.pure
  | cons entry ids ih =>
    refine FailsBy.bind (crashesOrFails_askUpstream _) fun outcome => ?_
    exact FailsBy.bind ih fun _ => FailsBy.pure

theorem crashesOrFails_resolveHoldings (payload : Json) :
    CrashesOrFails (resolveHoldings payload) := by
  refine FailsBy.bind crashesOrFails_mapped fun ids => ?_
  exact FailsBy.bind (crashesOrFails_askAssets _) fun _ => crashesOrFails_mapped

theorem crashesOrFails_resolveDecimals (assetId : Int) :
    CrashesOrFails (resolveDecimals assetId) := by
  refine FailsBy.bind (crashesOrFails_askUpstream _) fun outcome => ?_
  cases outcome with
  | ok assetPayload => exact crashesOrFails_mapped
  | error exc => exact FailsBy.pure

/-! ### Ends -/

variable {rejection : Option Raised} {Refusal : RouteLog → HttpException → Prop}

/-- An error of such a route. -/
theorem caused_of_error {p : Route β} (h : CrashesOrFails p) {log : RouteLog}
    {e : ServiceError} (hcourse : Course p log (.error e)) :
    Caused none Refusal log (.error e : Except ServiceError α) := by
  rcases h log e hcourse with ⟨py, rfl⟩ | ⟨entry, hlast, call, exc, rfl, rfl⟩
  · exact .crashed log py rfl
  · exact .failed rfl hlast

/-- A route without validators and refusals of its own. -/
theorem AllCaused.of_crashesOrFails {p : Route α} (h : CrashesOrFails p) :
    AllCaused none Refusal p := by
  intro log result hcourse
  cases result with
  | ok body => exact .responded log body rfl
  | error e => exact caused_of_error h hcourse

/-- One operation before such a route. -/
theorem Caused.after {rest : RouteLog} {result : Except ServiceError α}
    (h : Caused none (fun _ _ => False) rest result) (entry : (op : Op) × op.Answer) :
    Caused none Refusal (entry :: rest) result := by
  cases h with
  | responded log body valid => exact .responded _ body rfl
  | rejected raised invalid => cases invalid
  | refused valid refusal => exact refusal.elim
  | @failed _ call exc valid last =>
    have hlast : (entry :: rest).getLast? = some ⟨.upstream call, (.error exc : Outcome)⟩ := by
      rw [List.getLast?_cons, last]
      rfl
    exact .failed rfl hlast
  | crashed log e valid => exact .crashed _ e rfl

/-- A validator, then a route that ends so. -/
theorem AllCaused.check {x : Except Raised β} {f : β → Route α}
    (hf : ∀ b, AllCaused rejection Refusal (f b)) :
    AllCaused (raisedBy x <|> rejection) Refusal (validated x >>= f) := by
  intro log result hcourse
  cases x with
  | error raised =>
    rcases course_ofExcept_bind_iff.mp hcourse with ⟨e, he, rfl, rfl⟩ | ⟨b, hb, -⟩
    · obtain rfl := Except.error.inj he
      exact .rejected raised rfl
    · cases hb
  | ok b =>
    rcases course_ofExcept_bind_iff.mp hcourse with ⟨e, he, -, -⟩ | ⟨b', hb, hrest⟩
    · cases he
    · exact hf b' log result hrest

/-- The last validator of a route. -/
theorem AllCaused.lastCheck {x : Except Raised β} {f : β → Route α}
    (hf : ∀ b, AllCaused none Refusal (f b)) :
    AllCaused (raisedBy x) Refusal (validated x >>= f) := by
  have h := AllCaused.check (x := x) hf
  cases x with
  | error raised => exact h
  | ok b => exact h

theorem AllCaused.map {p : Route β} {f : β → α} (hp : AllCaused rejection Refusal p) :
    AllCaused rejection Refusal (f <$> p) := by
  intro log result hcourse
  obtain ⟨result', hp', rfl⟩ := course_map_iff.mp hcourse
  cases hp log result' hp' with
  | responded log body valid => exact .responded log (f body) valid
  | rejected raised invalid => exact .rejected raised invalid
  | refused valid refusal => exact .refused valid refusal
  | failed valid last => exact .failed valid last
  | crashed log e valid => exact .crashed log e valid

/-! ### Routes that refuse -/

/-- What the transaction route makes of its payload. -/
theorem transactionResponse_cases (payload : Json) {result : Except ServiceError MappedTransaction}
    (h : transactionResponse payload = result) :
    (∃ body, result = .ok body) ∨ (∃ e, result = .error e ∧ Crash e) ∨
      ∃ members : Dict, payload = .obj members ∧ (members.get "transaction").truthy = false ∧
        result = .error (.http ⟨404, "transaction not found"⟩) := by
  cases result with
  | ok body => exact .inl ⟨body, rfl⟩
  | error e =>
    unfold transactionResponse at h
    rcases bind_eq_error.mp h with he | ⟨members, hmembers, h⟩
    · exact .inr (.inl ⟨e, rfl, crash_of_mapping he⟩)
    · dsimp only at h
      by_cases htx : (members.get "transaction").truthy = true
      · rw [if_neg (by simp [htx])] at h
        refine .inr (.inl ⟨e, rfl, ?_⟩)
        rcases bind_eq_error.mp h with he | ⟨mapped, -, h⟩
        · exact crash_of_mapping he
        · rcases bind_eq_error.mp h with he | ⟨confirmations, -, h⟩
          · exact crash_of_mapping he
          · cases h
      · rw [Bool.not_eq_true] at htx
        rw [htx] at h
        obtain rfl := Except.error.inj h
        refine .inr (.inr ⟨members, ?_, htx, rfl⟩)
        cases payload with
        | obj entries =>
          obtain rfl := Except.ok.inj hmembers
          rfl
        | _ => cases hmembers

theorem allCaused_transaction (txid : String) :
    AllCaused (raisedBy (validateTxid txid)) (Refused (.transaction txid))
      (getTransaction txid) := by
  refine AllCaused.lastCheck fun _ => ?_
  intro log result hcourse
  rcases course_bind_iff.mp hcourse with
    ⟨e, hfetch, rfl⟩ | ⟨first, rest, payload, rfl, hfetch, hrest⟩
  · exact caused_of_error (crashesOrFails_getOrFetch _ _ _) hfetch
  · obtain ⟨rfl, rfl⟩ := course_ofExcept_iff.mp hrest
    rw [List.append_nil]
    rcases transactionResponse_cases payload rfl with
      ⟨body, hbody⟩ | ⟨e, he, py, rfl⟩ | ⟨members, rfl, hmissing, hmembers⟩
    · rw [hbody]
      exact .responded first body rfl
    · rw [he]
      exact .crashed first py rfl
    · rw [hmembers]
      exact .refused rfl (.transaction (fetched_of_course hfetch) hmissing)

theorem allCaused_latestBlock : AllCaused none (Refused .latestBlock) getLatestBlock := by
  intro log result hcourse
  rcases course_upstream_bind_iff.mp hcourse with
    ⟨exc, rfl, rfl⟩ | ⟨status, rest, rfl, hstatus⟩
  · exact .failed rfl rfl
  · rcases course_mapping_bind_iff.mp hstatus with
      ⟨py, -, rfl, rfl⟩ | ⟨members, hmembers, htip⟩
    · exact .crashed _ py rfl
    dsimp only at htip
    by_cases hnull : (members.get "last-round").isNull = true
    · rw [if_pos hnull] at htip
      obtain ⟨rfl, rfl⟩ := course_raise_iff.mp htip
      cases status with
      | obj entries =>
        obtain rfl := Except.ok.inj hmembers
        exact .refused rfl (.latestBlock hnull)
      | _ => cases hmembers
    · rw [if_neg hnull] at htip
      -- The rest asks for the block.
      refine Caused.after (AllCaused.of_crashesOrFails ?_ rest result htip) _
      refine FailsBy.bind (crashesOrFails_upstream _) fun payload => ?_
      exact FailsBy.bind crashesOrFails_mapped fun _ => FailsBy.pure

/-! ### Every route -/

theorem allCaused_addressTransactions (address : String) (limit : Int)
    (nextToken afterTime beforeTime txType : Option String) (assetId : Option Int) :
    AllCaused (raisedBy (validateAddress sha512_256 address) <|>
        assetId.bind fun id => raisedBy (validateUint64 (.int id) "asset_id")) Refusal
      (getAddressTransactions sha512_256 address limit nextToken afterTime beforeTime txType
        assetId) := by
  refine AllCaused.check fun _ => ?_
  have hrest : CrashesOrFails (do
      let payload ← upstream (.accountTransactions address limit nextToken afterTime beforeTime
        txType assetId)
      let members ← mapped payload.asDict
      mapped (mapTransactionList payload (members.get "current-round"))) := by
    refine FailsBy.bind (crashesOrFails_upstream _) fun payload => ?_
    exact FailsBy.bind crashesOrFails_mapped fun _ => crashesOrFails_mapped
  cases assetId with
  | none => exact AllCaused.of_crashesOrFails hrest
  | some id => exact AllCaused.lastCheck fun _ => AllCaused.of_crashesOrFails hrest

/-- What every response comes from, over every behaviour of the upstreams and every content of the
    cache. -/
theorem caused_of_course (request : ApiRequest) :
    AllCaused (request.rejection sha512_256) (Refused request)
      (respond sha512_256 keyText config request) := by
  cases request with
  | stats => exact (AllCaused.of_crashesOrFails crashesOrFails_stats).map
  | address address live =>
    refine (AllCaused.lastCheck fun _ => AllCaused.of_crashesOrFails ?_).map
    exact FailsBy.bind (crashesOrFails_upstream _) fun _ => crashesOrFails_mapped
  | addressTransactions address limit nextToken afterTime beforeTime txType assetId =>
    exact (allCaused_addressTransactions address limit nextToken afterTime beforeTime txType
      assetId).map
  | addressTokenBalances address limit nextToken resolve =>
    refine (AllCaused.lastCheck fun _ => AllCaused.of_crashesOrFails ?_).map
    refine FailsBy.bind (crashesOrFails_upstream _) fun payload => ?_
    refine FailsBy.bind ?_ fun _ => crashesOrFails_mapped
    cases resolve with
    | true => exact crashesOrFails_resolveHoldings payload
    | false => exact FailsBy.pure
  | transaction txid => exact (allCaused_transaction txid).map
  | block roundNumber includeTransactions =>
    refine (AllCaused.lastCheck fun _ => AllCaused.of_crashesOrFails ?_).map
    exact FailsBy.bind (crashesOrFails_getOrFetch _ _ _) fun _ => crashesOrFails_mapped
  | latestBlock => exact allCaused_latestBlock.map
  | token assetId =>
    refine (AllCaused.lastCheck fun _ => AllCaused.of_crashesOrFails ?_).map
    exact FailsBy.bind (crashesOrFails_getOrFetch _ _ _) fun _ => crashesOrFails_mapped
  | tokenHolders assetId limit nextToken resolve =>
    refine (AllCaused.lastCheck fun _ => AllCaused.of_crashesOrFails ?_).map
    refine FailsBy.bind (crashesOrFails_upstream _) fun payload => ?_
    refine FailsBy.bind ?_ fun _ => crashesOrFails_mapped
    cases resolve with
    | true => exact crashesOrFails_resolveDecimals assetId
    | false => exact FailsBy.pure
  | smartContract appId =>
    refine (AllCaused.lastCheck fun _ => AllCaused.of_crashesOrFails ?_).map
    exact FailsBy.bind (crashesOrFails_getOrFetch _ _ _) fun _ => crashesOrFails_mapped
  | search q limit =>
    exact (AllCaused.of_crashesOrFails (crashesOrFails_search q limit)).map

/-! ### Over the transport -/

/-- How a request can end, given the exchanges of its calls. -/
inductive CausedOver {α : Type} (config : AlgorandConfig) (rejection : Option Raised)
    (Refusal : RouteLog → HttpException → Prop) (exchanges : List Exchange) :
    Except ServiceError α → Prop
  | responded (body : α) (valid : rejection = none) :
      CausedOver config rejection Refusal exchanges (.ok body)
  /-- Nothing was sent. -/
  | rejected (raised : Raised) (invalid : rejection = some raised) (nothing : exchanges = []) :
      CausedOver config rejection Refusal exchanges (.error (.validation raised))
  /-- The payloads that the exchanges ended in, or the cache, are refused. -/
  | refused {log : RouteLog} {exc : HttpException} (valid : rejection = none)
      (refusal : Refusal log exc) (are : AreExchanges config log exchanges) :
      CausedOver config rejection Refusal exchanges (.error (.http exc))
  /-- The last exchange failed. -/
  | failed (x : Exchange) (exc : AlgorandError) (valid : rejection = none)
      (last : exchanges.getLast? = some x) (ending : x.ending config = .ok (.error exc)) :
      CausedOver config rejection Refusal exchanges (.error (.algorand exc))
  | crashed (e : PyError) (valid : rejection = none) :
      CausedOver config rejection Refusal exchanges (.error (.unhandled e))

/-- What the last call of a log was answered with is what the last exchange ended in. -/
theorem AreExchanges.last {log : RouteLog} {exchanges : List Exchange}
    (h : AreExchanges config log exchanges) {call : Call} {outcome : Outcome}
    (hlast : log.getLast? = some ⟨.upstream call, outcome⟩) :
    ∃ x, exchanges.getLast? = some x ∧ x.ending config = .ok outcome := by
  obtain ⟨earlier, rfl⟩ := List.getLast?_eq_some_iff.mp hlast
  have hends := congrArg List.getLast? h
  rw [List.getLast?_map, List.getLast?_map, callsOf_append, callsOf_upstream, callsOf_nil,
    List.getLast?_concat] at hends
  obtain ⟨x, hx, heq⟩ := Option.map_eq_some_iff.mp hends
  exact ⟨x, hx, (Prod.mk.inj heq).2⟩

/-- **What every response comes from, down to HTTP.**  However the transport behaves, and whatever
    the cache holds: a request whose arguments a validator rejects is answered with that rejection
    and sends nothing; of the others, an `AlgorandError` is that of the last exchange, and what is
    refused is what the payloads say. -/
theorem caused_over_transport {request : ApiRequest} {log : Log StackOp.Answer}
    {result : Except ServiceError ApiResponse}
    (h : Course (stack config (respond sha512_256 keyText config request)) log result) :
    ∃ exchanges, sentOf log = exchanges.flatMap (Exchange.sent config) ∧
      CausedOver config (request.rejection sha512_256) (Refused request) exchanges result := by
  obtain ⟨exchanges, hsent, hrefined⟩ := stack_refines h
  refine ⟨exchanges, hsent, ?_⟩
  cases hrefined with
  | ended routeLog course are =>
    cases caused_of_course request routeLog result course with
    | responded _ body valid => exact .responded body valid
    | rejected raised invalid => exact .rejected raised invalid (List.map_eq_nil_iff.mp are)
    | refused valid refusal => exact .refused valid refusal are
    | @failed _ call exc valid last =>
      obtain ⟨x, hx, hending⟩ := are.last last
      exact .failed x exc valid hx hending
    | crashed _ e valid => exact .crashed e valid
  | escaped routeLog earlier x next e reached are exchanges_eq ending result_eq =>
    subst result_eq
    -- With another answer it would have gone on, so its arguments are valid.
    obtain ⟨rest, result', course⟩ := exists_course_of_cut reached ⟨false, "", none, ""⟩
    have hcaused := caused_of_course request _ _ course
    generalize hlog : (routeLog ++ ⟨.upstream x.call, (.error ⟨false, "", none, ""⟩ : Outcome)⟩ ::
      rest : RouteLog) = whole at hcaused
    cases hcaused with
    | responded _ _ valid => exact .crashed e valid
    | rejected raised invalid => simp at hlog
    | refused valid _ => exact .crashed e valid
    | failed valid _ => exact .crashed e valid
    | crashed _ _ valid => exact .crashed e valid

/-- A token that is not there. -/
theorem caused_over_transport_nothingThere : ∃ log result exchanges,
    Course (stack mainnetConfig (respond (fun _ => ⟨List.replicate 32 0, rfl⟩) (fun _ => none)
      mainnetConfig (.token 5))) log result ∧ statusOf result = 404 ∧
    sentOf log = exchanges.flatMap (Exchange.sent mainnetConfig) ∧
    CausedOver mainnetConfig none (Refused (.token 5)) exchanges result := by
  obtain ⟨log, h⟩ := exists_course_run (stack mainnetConfig (respond
    (fun _ => ⟨List.replicate 32 0, rfl⟩) (fun _ => none) mainnetConfig (.token 5))) nothingThere ()
  obtain ⟨exchanges, hsent, hcaused⟩ := caused_over_transport h
  exact ⟨log, _, exchanges, h, rfl, hsent, hcaused⟩

end Algorandscout
