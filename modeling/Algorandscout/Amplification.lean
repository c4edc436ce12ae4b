import Mathlib.Algebra.Order.BigOperators.Group.List
import Algorandscout.Identifiers
import Algorandscout.Stack
import Algorandscout.WellNamed

namespace Algorandscout

open Library Library.Program

/-!
# How many upstream attempts a request causes

Every route makes a number of upstream calls that its request fixes, the metadata of a holdings
page aside, which is one call for each asset held; and every call is at most `MAX_RETRIES` attempts,
each of them one `session.get`.

* `ApiRequest.maxCalls` — the calls of a request, given how many assets its page holds;
* `MakesAtMost` — a bound on the calls of a route;
* `calls_le_maxCalls` — every course of every route keeps to it;
* `requests_bounded` — and so does the stack, with `MAX_RETRIES` attempts a call.
-/

variable {sha512_256 : List UInt8 → Digest} {keyText : KeyText} {config : AlgorandConfig}
  {α β : Type} {log : RouteLog}

/-- The upstream calls that a request makes at most, where `held` is the number of assets on the
    holdings page that it asks for, if it does. -/
def ApiRequest.maxCalls (held : ℕ) : ApiRequest → ℕ
  | .stats => 3
  | .addressTokenBalances _ _ _ resolve => if resolve then 1 + held else 1
  | .latestBlock => 2
  | .tokenHolders _ _ _ resolve => if resolve then 2 else 1
  | .search _ _ => 2
  | _ => 1

/-- The distinct assets that a page holds. -/
def heldOn (page : Json) : ℕ :=
  match heldIds page with
  | .ok ids => (distinctIds ids).length
  | .error _ => 0

/-- The distinct assets on the page that the first call of the log was answered with. -/
def heldIn : CallLog → ℕ
  | (_, .ok page) :: _ => heldOn page
  | _ => 0

/-! ### Calls of a route -/

/-- No course of the route makes more than `n` calls. -/
def MakesAtMost (n : ℕ) (p : Route α) : Prop :=
  ∀ log result, Course p log result → (callsOf log).length ≤ n

theorem MakesAtMost.mono {m n : ℕ} {p : Route α} (h : MakesAtMost m p) (hle : m ≤ n) :
    MakesAtMost n p := fun log result hcourse => (h log result hcourse).trans hle

theorem MakesAtMost.pure (n : ℕ) (a : α) : MakesAtMost n (Pure.pure a : Route α) := by
  intro log result h
  obtain ⟨rfl, -⟩ := course_pure_iff.mp h
  exact Nat.zero_le n

theorem MakesAtMost.ofExcept (n : ℕ) (x : Except ServiceError α) :
    MakesAtMost n (Program.ofExcept x : Route α) := by
  intro log result h
  obtain ⟨rfl, -⟩ := course_ofExcept_iff.mp h
  exact Nat.zero_le n

theorem MakesAtMost.bind {m n : ℕ} {p : Route β} {f : β → Route α} (hp : MakesAtMost m p)
    (hf : ∀ b, MakesAtMost n (f b)) : MakesAtMost (m + n) (p >>= f) := by
  intro log result h
  rcases course_bind_iff.mp h with ⟨e, hfirst, -⟩ | ⟨first, rest, b, rfl, hfirst, hrest⟩
  · exact (hp log _ hfirst).trans (Nat.le_add_right m n)
  · rw [callsOf_append, List.length_append]
    exact Nat.add_le_add (hp first _ hfirst) (hf b rest result hrest)

theorem MakesAtMost.ofExcept_bind {n : ℕ} {x : Except ServiceError β} {f : β → Route α}
    (hf : ∀ b, MakesAtMost n (f b)) : MakesAtMost n (Program.ofExcept x >>= f) := by
  have h := MakesAtMost.bind (MakesAtMost.ofExcept 0 x) hf
  rwa [Nat.zero_add] at h

theorem MakesAtMost.map {n : ℕ} {p : Route β} {f : β → α} (hp : MakesAtMost n p) :
    MakesAtMost n (f <$> p) := by
  intro log result h
  obtain ⟨result', hcourse, -⟩ := course_map_iff.mp h
  exact hp log result' hcourse

theorem makesAtMost_askUpstream_bind {n : ℕ} {call : Call} {f : Outcome → Route α}
    (hf : ∀ outcome, MakesAtMost n (f outcome)) :
    MakesAtMost (n + 1) (askUpstream call >>= f) := by
  intro log result h
  obtain ⟨outcome, rest, rfl, hrest⟩ := course_askUpstream_bind_iff.mp h
  rw [callsOf_upstream, List.length_cons]
  exact Nat.succ_le_succ (hf outcome rest result hrest)

theorem makesAtMost_upstream_bind {n : ℕ} {call : Call} {f : Json → Route α}
    (hf : ∀ payload, MakesAtMost n (f payload)) : MakesAtMost (n + 1) (upstream call >>= f) := by
  intro log result h
  rcases course_upstream_bind_iff.mp h with ⟨exc, rfl, -⟩ | ⟨payload, rest, rfl, hrest⟩
  · exact Nat.succ_le_succ (Nat.zero_le n)
  · rw [callsOf_upstream, List.length_cons]
    exact Nat.succ_le_succ (hf payload rest result hrest)

/-- **`get_or_fetch`** makes its call once, or not at all. -/
theorem makesAtMost_getOrFetch (kind key : String) (call : Call) :
    MakesAtMost 1 (getOrFetch kind key (upstream call)) := by
  intro log result h
  cases fetched_of_course h with
  | hit value => exact Nat.zero_le 1
  | failed exc => exact le_rfl
  | stored payload => exact le_rfl

theorem makesAtMost_getOrFetch_bind {kind key : String} {call : Call} {f : Json → Route α}
    (hf : ∀ payload, MakesAtMost 0 (f payload)) :
    MakesAtMost 1 (getOrFetch kind key (upstream call) >>= f) :=
  MakesAtMost.bind (makesAtMost_getOrFetch kind key call) hf

theorem makesAtMost_probe (call : Call) (mapper : Json → Except PyError (List SearchItem)) :
    MakesAtMost 1 (probe call mapper) := by
  apply makesAtMost_askUpstream_bind
  intro outcome
  cases outcome with
  | ok payload => exact MakesAtMost.ofExcept 0 _
  | error exc => exact MakesAtMost.pure 0 _

theorem makesAtMost_searchedAssets (call : Call) : MakesAtMost 1 (searchedAssets call) :=
  makesAtMost_upstream_bind fun _ => MakesAtMost.ofExcept 0 _

theorem makesAtMost_search (q : String) (limit : Int) : MakesAtMost 2 (search keyText q limit) := by
  unfold search
  dsimp only
  cases classifyQuery (Text.strip q) with
  | none =>
    show MakesAtMost (1 + 1) _
    refine MakesAtMost.bind (makesAtMost_searchedAssets _) fun units => ?_
    split_ifs
    · exact MakesAtMost.bind (makesAtMost_searchedAssets _) fun _ => MakesAtMost.pure 0 _
    · exact MakesAtMost.pure 1 _
  | some kind =>
    cases kind with
    | address =>
      show MakesAtMost (1 + 1) _
      exact MakesAtMost.bind (makesAtMost_probe _ _) fun _ => MakesAtMost.pure 1 _
    | transaction =>
      show MakesAtMost (1 + 1) _
      exact MakesAtMost.bind (makesAtMost_probe _ _) fun _ => MakesAtMost.pure 1 _
    | numeric =>
      apply MakesAtMost.ofExcept_bind
      intro numeric
      cases validateUint64 (.int numeric) "id" with
      | error e => exact MakesAtMost.pure 2 _
      | ok n =>
        show MakesAtMost (1 + 1) _
        refine MakesAtMost.bind (makesAtMost_probe _ _) fun tokens => ?_
        exact MakesAtMost.bind (makesAtMost_probe _ _) fun contracts => MakesAtMost.pure 0 _

theorem makesAtMost_stats : MakesAtMost 3 (stats config) := by
  refine makesAtMost_upstream_bind fun status => ?_
  refine MakesAtMost.bind ?_ fun _ => MakesAtMost.ofExcept 0 _
  refine makesAtMost_askUpstream_bind fun nodeRead => ?_
  exact makesAtMost_askUpstream_bind fun idxRead => MakesAtMost.ofExcept 0 _

theorem makesAtMost_addressTransactions (address : String) (limit : Int)
    (nextToken afterTime beforeTime txType : Option String) (assetId : Option Int) :
    MakesAtMost 1 (getAddressTransactions sha512_256 address limit nextToken afterTime beforeTime
      txType assetId) := by
  refine MakesAtMost.ofExcept_bind fun _ => ?_
  have hrest : MakesAtMost 1 (do
      let payload ← upstream (.accountTransactions address limit nextToken afterTime beforeTime
        txType assetId)
      let members ← mapped payload.asDict
      mapped (mapTransactionList payload (members.get "current-round"))) :=
    makesAtMost_upstream_bind fun _ =>
      MakesAtMost.ofExcept_bind fun _ => MakesAtMost.ofExcept 0 _
  cases assetId with
  | none => exact hrest
  | some id => exact MakesAtMost.ofExcept_bind fun _ => hrest

theorem makesAtMost_latestBlock : MakesAtMost 2 getLatestBlock := by
  refine makesAtMost_upstream_bind fun status => ?_
  refine MakesAtMost.ofExcept_bind fun members => ?_
  dsimp only
  split_ifs
  · intro log result h
    obtain ⟨rfl, -⟩ := course_raise_iff.mp h
    exact Nat.zero_le 1
  · exact makesAtMost_upstream_bind fun _ =>
      MakesAtMost.ofExcept_bind fun _ => MakesAtMost.pure 0 _

theorem makesAtMost_tokenHolders (assetId limit : Int) (nextToken : Option String)
    (resolve : Bool) : MakesAtMost (if resolve then 2 else 1)
      (getTokenHolders assetId limit nextToken resolve) := by
  refine MakesAtMost.ofExcept_bind fun _ => ?_
  cases resolve with
  | false =>
    refine makesAtMost_upstream_bind fun payload => ?_
    exact MakesAtMost.bind (MakesAtMost.pure 0 _) fun _ => MakesAtMost.ofExcept 0 _
  | true =>
    refine makesAtMost_upstream_bind fun payload => ?_
    refine MakesAtMost.bind ?_ fun _ => MakesAtMost.ofExcept 0 _
    refine makesAtMost_askUpstream_bind fun outcome => ?_
    cases outcome with
    | ok assetPayload => exact MakesAtMost.ofExcept 0 _
    | error exc => exact MakesAtMost.pure 0 _

/-- A holdings page with metadata: the page, and one call for each asset on it. -/
theorem length_calls_tokenBalances {address : String} {limit : Int} {nextToken : Option String}
    {result : Except ServiceError (Page MappedHolding)}
    (h : Course (getAddressTokenBalances sha512_256 address limit nextToken true) log result) :
    (callsOf log).length ≤ 1 + heldIn (callsOf log) := by
  cases resolvedHoldings_of_course h with
  | rejected => exact Nat.zero_le _
  | pageFailed haddress exc => exact le_rfl
  | lookedUp haddress payload rest final hlookups =>
    rw [callsOf_upstream, List.length_cons, heldIn, heldOn, Nat.add_comm 1]
    refine Nat.succ_le_succ ?_
    rcases calls_of_resolveHoldings hlookups with ⟨⟨e, he⟩, hnone⟩ | ⟨ids, hids, hcalls⟩
    · rw [hnone]
      exact Nat.zero_le _
    · have hlength := congrArg List.length hcalls
      rw [List.length_map, List.length_map] at hlength
      rw [hids, hlength]

/-- **Every route keeps to the calls of its request.** -/
theorem calls_le_maxCalls {request : ApiRequest} {result : Except ServiceError ApiResponse}
    (h : Course (respond sha512_256 keyText config request) log result) :
    (callsOf log).length ≤ request.maxCalls (heldIn (callsOf log)) := by
  cases request with
  | stats => exact makesAtMost_stats.map log result h
  | address address live =>
    refine (MakesAtMost.ofExcept_bind fun _ => ?_).map log result h
    exact makesAtMost_upstream_bind fun _ => MakesAtMost.ofExcept 0 _
  | addressTransactions address limit nextToken afterTime beforeTime txType assetId =>
    exact (makesAtMost_addressTransactions address limit nextToken afterTime beforeTime txType
      assetId).map log result h
  | addressTokenBalances address limit nextToken resolve =>
    cases resolve with
    | false =>
      refine (MakesAtMost.ofExcept_bind fun _ => ?_).map log result h
      refine makesAtMost_upstream_bind fun _ => ?_
      exact MakesAtMost.bind (MakesAtMost.pure 0 _) fun _ => MakesAtMost.ofExcept 0 _
    | true =>
      obtain ⟨result', hcourse, -⟩ := course_map_iff.mp h
      exact length_calls_tokenBalances hcourse
  | transaction txid =>
    refine (MakesAtMost.ofExcept_bind fun _ => ?_).map log result h
    exact makesAtMost_getOrFetch_bind fun _ => MakesAtMost.ofExcept 0 _
  | block roundNumber includeTransactions =>
    refine (MakesAtMost.ofExcept_bind fun _ => ?_).map log result h
    exact makesAtMost_getOrFetch_bind fun _ => MakesAtMost.ofExcept 0 _
  | latestBlock => exact makesAtMost_latestBlock.map log result h
  | token assetId =>
    refine (MakesAtMost.ofExcept_bind fun _ => ?_).map log result h
    exact makesAtMost_getOrFetch_bind fun _ => MakesAtMost.ofExcept 0 _
  | tokenHolders assetId limit nextToken resolve =>
    exact (makesAtMost_tokenHolders assetId limit nextToken resolve).map log result h
  | smartContract appId =>
    refine (MakesAtMost.ofExcept_bind fun _ => ?_).map log result h
    exact makesAtMost_getOrFetch_bind fun _ => MakesAtMost.ofExcept 0 _
  | search q limit => exact (makesAtMost_search q limit).map log result h

/-! ### Attempts -/

/-- Each exchange is at most `MAX_RETRIES` attempts. -/
theorem length_flatMap_sent_le (config : AlgorandConfig) (exchanges : List Exchange) :
    (exchanges.flatMap (Exchange.sent config)).length ≤ maxRetries * exchanges.length := by
  rw [List.length_flatMap, Nat.mul_comm]
  refine (List.sum_le_card_nsmul _ maxRetries ?_).trans ?_
  · rw [List.forall_mem_map]
    exact fun x _ => x.length_sent config
  · rw [List.length_map]
    exact le_rfl

/-- The distinct assets on the page that the first exchange ended with. -/
def heldAfter (config : AlgorandConfig) : List Exchange → ℕ
  | x :: _ =>
    match x.ending config with
    | .ok (.ok page) => heldOn page
    | _ => 0
  | [] => 0

theorem AreExchanges.length_eq {exchanges : List Exchange}
    (h : AreExchanges config log exchanges) : exchanges.length = (callsOf log).length := by
  have hlength := congrArg List.length h
  rwa [List.length_map, List.length_map] at hlength

theorem AreExchanges.heldAfter_eq {exchanges : List Exchange}
    (h : AreExchanges config log exchanges) :
    heldAfter config exchanges = heldIn (callsOf log) := by
  unfold AreExchanges at h
  cases exchanges with
  | nil =>
    rw [List.map_nil, eq_comm, List.map_eq_nil_iff] at h
    rw [h]
    rfl
  | cons x exchanges =>
    cases hcalls : callsOf log with
    | nil =>
      rw [hcalls] at h
      cases h
    | cons asked calls =>
      rw [hcalls, List.map_cons, List.map_cons, List.cons.injEq, Prod.mk.injEq] at h
      obtain ⟨call, outcome⟩ := asked
      show (match x.ending config with | .ok (.ok page) => heldOn page | _ => 0) = _
      rw [h.1.2]
      cases outcome <;> rfl

theorem heldIn_append (calls rest : CallLog) (call : Call) (exc : AlgorandError) :
    heldIn (calls ++ (call, .error exc) :: rest) = heldIn calls := by
  cases calls with
  | nil => rfl
  | cons asked calls =>
    obtain ⟨_, outcome⟩ := asked
    cases outcome <;> rfl

/-- A request that is cut short has not made more calls than one that is not. -/
theorem calls_lt_maxCalls {request : ApiRequest} {call : Call}
    {next : Outcome → Route ApiResponse}
    (h : Reaches (respond sha512_256 keyText config request) log (.perform (.upstream call) next)) :
    (callsOf log).length + 1 ≤ request.maxCalls (heldIn (callsOf log)) := by
  obtain ⟨rest, result, hcourse⟩ := exists_course_of_cut h ⟨false, "", none, ""⟩
  have hle := calls_le_maxCalls hcourse
  rw [callsOf_append, callsOf_upstream, heldIn_append, List.length_append, List.length_cons] at hle
  omega

/-- **No request causes more `session.get` attempts than its calls allow**: `MAX_RETRIES` for each
    of them, whatever the attempts come to and however the request ends. -/
theorem requests_bounded {request : ApiRequest} {log : Log StackOp.Answer}
    {result : Except ServiceError ApiResponse}
    (h : Course (stack config (respond sha512_256 keyText config request)) log result) :
    ∃ exchanges, sentOf log = exchanges.flatMap (Exchange.sent config) ∧
      exchanges.length ≤ request.maxCalls (heldAfter config exchanges) ∧
      (sentOf log).length ≤ maxRetries * request.maxCalls (heldAfter config exchanges) := by
  obtain ⟨exchanges, hsent, hend⟩ := stack_refines h
  have hcalls : exchanges.length ≤ request.maxCalls (heldAfter config exchanges) := by
    cases hend with
    | ended routeLog hcourse hare =>
      rw [hare.length_eq, hare.heldAfter_eq]
      exact calls_le_maxCalls hcourse
    | escaped routeLog earlier x next e hreaches hare heq hending =>
      subst heq
      have hheld : heldAfter config (earlier ++ [x]) = heldAfter config earlier := by
        cases earlier with
        | nil =>
          show (match x.ending config with | .ok (.ok page) => heldOn page | _ => 0) = 0
          rw [hending]
        | cons first earlier => rfl
      rw [List.length_append, List.length_singleton, hheld, hare.length_eq, hare.heldAfter_eq]
      exact calls_lt_maxCalls hreaches
  refine ⟨exchanges, hsent, hcalls, ?_⟩
  rw [hsent]
  exact (length_flatMap_sent_le config exchanges).trans (Nat.mul_le_mul_left maxRetries hcalls)

/-- The attempts of exchanges, in order. -/
theorem attempts_flatMap_sent (config : AlgorandConfig) (exchanges : List Exchange) :
    (exchanges.flatMap (Exchange.sent config)).map Sent.attempt =
      exchanges.flatMap fun x => x.retried ++ [x.final] := by
  induction exchanges with
  | nil => rfl
  | cons x exchanges ih =>
    rw [List.flatMap_cons, List.flatMap_cons, List.map_append, ih, Exchange.sent, List.map_map]
    exact congrArg (· ++ _) (List.map_id _)

/-- A holdings page with two assets. -/
def twoHoldings : Json := .obj [("assets", .arr [.obj [("asset-id", .int 7), ("amount", .int 1)],
  .obj [("asset-id", .int 8), ("amount", .int 2)]])]

/-- An indexer that is busy at first, serves the page and the metadata of one asset, and then
    resets every connection; and a cache that holds nothing. -/
def busyHoldings : (op : StackOp) → ℕ → op.Answer × ℕ
  | .http (.send _ _), 0 => (Attempt.responded ⟨503, none, .ok "busy", .undecodable⟩, 1)
  | .http (.send _ _), 1 => (Attempt.responded ⟨200, none, .ok "", .decoded twoHoldings⟩, 2)
  | .http (.send _ _), 2 => (Attempt.responded ⟨200, none, .ok "", .decoded (.obj [])⟩, 3)
  | .http (.send _ _), n => (Attempt.failed ⟨"connection reset"⟩, n + 1)
  | .http .jitter, n => (noJitter, n)
  | .http (.sleep _), n => ((), n)
  | .cacheGet _ _, n => ((none : Option Json), n)
  | .cacheSet _ _ _, n => ((), n)

set_option maxRecDepth 4000 in
/-- Two attempts for the page, one for the first asset, three for the second. -/
theorem requests_bounded_busyHoldings : ∃ log result exchanges,
    Course (stack mainnetConfig (respond (fun _ => zeroKeyDigest) (fun _ => none) mainnetConfig
      (.addressTokenBalances zeroAddress 50 none true))) log result ∧
    sentOf log = exchanges.flatMap (Exchange.sent mainnetConfig) ∧
    heldAfter mainnetConfig exchanges = 2 ∧ exchanges.length ≤ 1 + 2 ∧
    (sentOf log).length = 2 + 1 + 3 ∧ (sentOf log).length ≤ maxRetries * (1 + 2) := by
  have hcourse := course_run (stack mainnetConfig (respond (fun _ => zeroKeyDigest)
    (fun _ => none) mainnetConfig (.addressTokenBalances zeroAddress 50 none true)))
    busyHoldings 0
  obtain ⟨exchanges, hsent, hcalls, hsends⟩ := requests_bounded hcourse
  have hattempts := attempts_flatMap_sent mainnetConfig exchanges
  rw [← hsent] at hattempts
  have hheld : heldAfter mainnetConfig exchanges = 2 := by
    cases exchanges with
    | nil => cases hattempts
    | cons x exchanges =>
      obtain ⟨call, retried, final, hall, hwithin, hended⟩ := x
      -- The first exchange goes on to the page, which is not retried, and no further.
      match retried with
      | [] =>
        obtain ⟨rfl, -⟩ := List.cons.inj hattempts
        cases hended rfl
      | [busy] =>
        obtain ⟨-, hrest⟩ := List.cons.inj hattempts
        obtain ⟨rfl, -⟩ := List.cons.inj hrest
        rfl
      | busy :: page :: retried =>
        obtain ⟨-, hrest⟩ := List.cons.inj hattempts
        obtain ⟨rfl, -⟩ := List.cons.inj hrest
        cases hall _ (List.mem_cons_of_mem _ List.mem_cons_self)
  rw [hheld] at hcalls hsends
  exact ⟨_, _, exchanges, hcourse, hsent, hheld, hcalls, rfl, hsends⟩

end Algorandscout
