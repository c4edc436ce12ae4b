import Algorandscout.Amplification
import Algorandscout.Pagination

namespace Algorandscout

open Library Library.Program

/-!
# `paginate` over a transport that fails

`Pagination` takes the upstream for a function; here each page is one `_get`, which may fail, be
retried, or give something that is no page.

* `PagedMethod` — the read methods that take a `next_token`;
* `paginateOver` — the loop of `paginate` over them, with how it ends;
* `FetchedFrom`, `fetchedFrom_of_course` — what the loop asks and yields, whatever its `session.get`
  attempts come to;
* `paginate_over_transport` — the whole walk, and how many attempts it makes;
* `run_paginateOver` — on an upstream that always answers it is the loop of `Pagination`.
-/

/-! ### The loop -/

/-- The read methods that take a `next_token`, with their other arguments. -/
inductive PagedMethod where
  | accountAssets (address : String) (limit : Int)
  | accountTransactions (address : String) (limit : Int)
      (afterTime beforeTime txType : Option String) (assetId : Option Int)
  | assetBalances (assetId : Int) (limit : Int)
  | applicationBoxes (appId : Int) (limit : Int)

namespace PagedMethod

/-- The path a method asks for. -/
def path : PagedMethod → String
  | .accountAssets address _ => s!"/v2/accounts/{address}/assets"
  | .accountTransactions address _ _ _ _ _ => s!"/v2/accounts/{address}/transactions"
  | .assetBalances assetId _ => s!"/v2/assets/{assetId}/balances"
  | .applicationBoxes appId _ => s!"/v2/applications/{appId}/boxes"

/-- The parameters; the token is passed on as the page before had it. -/
def params (token : Json) : PagedMethod → Dict
  | .accountAssets _ limit => [("limit", .int limit), ("next", token)]
  | .accountTransactions _ limit afterTime beforeTime txType assetId =>
    [("limit", .int limit), ("next", token), ("after-time", optParam .str afterTime),
      ("before-time", optParam .str beforeTime), ("tx-type", optParam .str txType),
      ("asset-id", optParam .int assetId)]
  | .assetBalances _ limit => [("limit", .int limit), ("next", token)]
  | .applicationBoxes _ limit => [("limit", .int limit), ("next", token)]

/-- `fn(*args, next_token=token, **kwargs)`. -/
def call (method : PagedMethod) (token : Json) : Call := .indexer method.path (method.params token)

/-- The method of the client, for a token that is a string or absent. -/
def named (nextToken : Option String) : PagedMethod → Call
  | .accountAssets address limit => .accountAssets address limit nextToken
  | .accountTransactions address limit afterTime beforeTime txType assetId =>
    .accountTransactions address limit nextToken afterTime beforeTime txType assetId
  | .assetBalances assetId limit => .assetBalances assetId limit nextToken
  | .applicationBoxes appId limit => .applicationBoxes appId limit nextToken

/-- It is the request of that method. -/
theorem request_call (method : PagedMethod) (nextToken : Option String) :
    (method.call (optParam .str nextToken)).request = (method.named nextToken).request := by
  cases method <;> rfl

end PagedMethod

/-- How the loop ends. -/
inductive Ending where
  /-- The last page names no other. -/
  | returned
  /-- The bound is used up with the cursor still open. -/
  | warned
  | raised (exc : AlgorandError)
  /-- An exception that no clause of `_get` takes. -/
  | escaped (e : PyError)
  /-- The last page is no dict, which `payload.get` finds after it was yielded. -/
  | crashed (e : PyError)

/-- What a consumer that exhausts `paginate` sees: the pages yielded, and then the end. -/
structure Paginated where
  pages : List Json
  ending : Ending

/-- The loop of `paginate`, with the pages it may still ask for. -/
def paginateOver (config : AlgorandConfig) (method : PagedMethod) (token : Json) :
    ℕ → Coroutine Paginated
  | 0 => return ⟨[], .warned⟩
  | remaining + 1 => do
    -- An exception ends the loop; the pages yielded before it stay so.
    match ← (get config (method.call token).request).caught with
    | .error e => return ⟨[], .escaped e⟩
    | .ok (.error exc) => return ⟨[], .raised exc⟩
    | .ok (.ok payload) =>
      match payload.asDict with
      | .error e => return ⟨[payload], .crashed e⟩
      | .ok members =>
        let next := members.get "next-token"
        if next.truthy then do
          let rest ← paginateOver config method next remaining
          return ⟨payload :: rest.pages, rest.ending⟩
        else return ⟨[payload], .returned⟩

/-! ### What it asks and yields -/

/-- The page that an exchange gave, if it gave one. -/
def Exchange.page (config : AlgorandConfig) (x : Exchange) : Option Json :=
  match x.ending config with
  | .ok (.ok payload) => some payload
  | .ok (.error _) => none
  | .error _ => none

/-- The exchange gave a page after which the loop goes on, with this token. -/
def Exchange.Continues (config : AlgorandConfig) (x : Exchange) (token : Json) : Prop :=
  ∃ members : Dict, x.ending config = .ok (.ok (.obj members)) ∧
    members.get "next-token" = token ∧ token.truthy = true

/-- The loop ends so after these exchanges. -/
def EndsAs (config : AlgorandConfig) (maxPages : ℕ) (exchanges : List Exchange) : Ending → Prop
  | .returned => ∃ (x : Exchange) (members : Dict), exchanges.getLast? = some x ∧
      x.ending config = .ok (.ok (.obj members)) ∧ (members.get "next-token").truthy = false
  | .warned => exchanges.length = maxPages ∧
      ∀ x, exchanges.getLast? = some x → ∃ token, x.Continues config token
  | .raised exc => ∃ x, exchanges.getLast? = some x ∧ x.ending config = .ok (.error exc)
  | .escaped e => ∃ x, exchanges.getLast? = some x ∧ x.ending config = .error e
  | .crashed e => ∃ x payload, exchanges.getLast? = some x ∧
      x.ending config = .ok (.ok payload) ∧ payload.asDict = .error e

/-- The exchanges and pages of the loop from a token on. -/
structure FetchedFrom (config : AlgorandConfig) (method : PagedMethod) (token : Json)
    (maxPages : ℕ) (exchanges : List Exchange) (run : Paginated) : Prop where
  within : exchanges.length ≤ maxPages
  /-- What was fetched has been yielded, in order, however the loop ends. -/
  pages : run.pages = exchanges.filterMap (Exchange.page config)
  first : ∀ x, exchanges[0]? = some x → x.call = method.call token
  /-- An exchange asks for the page that the one before it names, and follows no failure. -/
  next : ∀ k x y, exchanges[k]? = some x → exchanges[k + 1]? = some y →
    ∃ token, x.Continues config token ∧ y.call = method.call token
  ends : EndsAs config maxPages exchanges run.ending

variable {config : AlgorandConfig} {method : PagedMethod} {token : Json} {maxPages : ℕ}

/-- An exchange that the loop ends with. -/
theorem FetchedFrom.last {x : Exchange} {run : Paginated} {remaining : ℕ}
    (hcall : x.call = method.call token) (hpages : run.pages = [x].filterMap (Exchange.page config))
    (hends : EndsAs config (remaining + 1) [x] run.ending) :
    FetchedFrom config method token (remaining + 1) [x] run where
  within := Nat.succ_le_succ (Nat.zero_le remaining)
  pages := hpages
  first := by
    rintro y h
    rw [← Option.some.inj h]
    exact hcall
  next := by
    intro k y z _ h
    cases h
  ends := hends

/-- The end of a loop that goes on after an exchange. -/
theorem EndsAs.cons {x : Exchange} {exchanges : List Exchange} {ending : Ending} {remaining : ℕ}
    (h : EndsAs config remaining exchanges ending) (hcontinues : ∃ token, x.Continues config token) :
    EndsAs config (remaining + 1) (x :: exchanges) ending := by
  cases exchanges with
  | nil =>
    -- The bound is used up: nothing else ends without an exchange.
    cases ending with
    | warned =>
      refine ⟨congrArg Nat.succ h.1, ?_⟩
      rintro y hlast
      rwa [← Option.some.inj hlast]
    | returned =>
      obtain ⟨y, members, hlast, -⟩ := h
      cases hlast
    | raised exc =>
      obtain ⟨y, hlast, -⟩ := h
      cases hlast
    | escaped e =>
      obtain ⟨y, hlast, -⟩ := h
      cases hlast
    | crashed e =>
      obtain ⟨y, payload, hlast, -⟩ := h
      cases hlast
  | cons y exchanges =>
    have hlast : (x :: y :: exchanges).getLast? = (y :: exchanges).getLast? :=
      List.getLast?_cons_cons
    unfold EndsAs at h ⊢
    rw [hlast]
    cases ending with
    | warned => exact ⟨congrArg Nat.succ h.1, h.2⟩
    | returned => exact h
    | raised exc => exact h
    | escaped e => exact h
    | crashed e => exact h

/-- An exchange after which the loop goes on. -/
theorem FetchedFrom.cons {x : Exchange} {payload next : Json} {exchanges : List Exchange}
    {run : Paginated} {remaining : ℕ} (h : FetchedFrom config method next remaining exchanges run)
    (hcall : x.call = method.call token) (hpage : x.page config = some payload)
    (hcontinues : x.Continues config next) :
    FetchedFrom config method token (remaining + 1) (x :: exchanges)
      ⟨payload :: run.pages, run.ending⟩ where
  within := Nat.succ_le_succ h.within
  pages := by rw [List.filterMap_cons_some hpage, h.pages]
  first := by
    rintro y hy
    rwa [← Option.some.inj hy]
  next := by
    intro k y z hy hz
    cases k with
    | zero =>
      rw [← Option.some.inj hy]
      exact ⟨next, hcontinues, h.first z hz⟩
    | succ k => exact h.next k y z hy hz
  ends := h.ends.cons ⟨next, hcontinues⟩

/-- **What the loop asks and yields**, over every behaviour of the transport. -/
theorem fetchedFrom_of_course {log : Log HttpOp.Answer} {result : Except PyError Paginated}
    (h : Course (paginateOver config method token maxPages) log result) :
    ∃ exchanges run, result = .ok run ∧ sentIn log = exchanges.flatMap (Exchange.sent config) ∧
      FetchedFrom config method token maxPages exchanges run := by
  induction maxPages generalizing token log result with
  | zero =>
    obtain ⟨rfl, rfl⟩ := course_pure_iff.mp h
    refine ⟨[], _, rfl, rfl, le_rfl, rfl, ?_, ?_, rfl, ?_⟩
    · rintro x ⟨⟩
    · rintro k x y ⟨⟩
    · rintro x ⟨⟩
  | succ remaining ih =>
    obtain ⟨first, rest, final, rfl, hget, hrest⟩ := course_caught_bind_iff.mp h
    obtain ⟨x, hcall, hfirst, -, rfl⟩ := course_get_spec hget
    rw [sentIn_append, hfirst]
    have hone : x.sent config ++ sentIn [] = [x].flatMap (Exchange.sent config) := by
      rw [List.flatMap_singleton]
      exact List.append_nil _
    cases hending : x.ending config with
    | error e =>
      rw [hending] at hrest
      obtain ⟨rfl, rfl⟩ := course_pure_iff.mp hrest
      refine ⟨[x], _, rfl, hone, FetchedFrom.last hcall ?_ ⟨x, rfl, hending⟩⟩
      simp [Exchange.page, hending]
    | ok outcome =>
      rw [hending] at hrest
      cases outcome with
      | error exc =>
        obtain ⟨rfl, rfl⟩ := course_pure_iff.mp hrest
        refine ⟨[x], _, rfl, hone, FetchedFrom.last hcall ?_ ⟨x, rfl, hending⟩⟩
        simp [Exchange.page, hending]
      | ok payload =>
        have hpage : x.page config = some payload := by simp [Exchange.page, hending]
        have hpages : [payload] = [x].filterMap (Exchange.page config) := by
          rw [List.filterMap_cons_some hpage, List.filterMap_nil]
        dsimp only at hrest
        cases hdict : payload.asDict with
        | error e =>
          rw [hdict] at hrest
          obtain ⟨rfl, rfl⟩ := course_pure_iff.mp hrest
          exact ⟨[x], _, rfl, hone, FetchedFrom.last hcall hpages ⟨x, payload, rfl, hending, hdict⟩⟩
        | ok members =>
          obtain rfl := Json.asDict_eq_ok_iff.mp hdict
          rw [hdict] at hrest
          dsimp only at hrest
          by_cases hnext : (members.get "next-token").truthy = true
          · rw [if_pos hnext] at hrest
            rcases course_bind_iff.mp hrest with
              ⟨e, hloop, -⟩ | ⟨later, last, run, rfl, hloop, hend⟩
            · -- The loop itself raises nothing.
              obtain ⟨-, run, heq, -⟩ := ih hloop
              cases heq
            · obtain ⟨exchanges, run', heq, hlater, hfetched⟩ := ih hloop
              obtain rfl := Except.ok.inj heq
              obtain ⟨rfl, rfl⟩ := course_pure_iff.mp hend
              refine ⟨x :: exchanges, _, rfl, ?_,
                hfetched.cons hcall hpage ⟨members, hending, rfl, hnext⟩⟩
              rw [List.append_nil, hlater, List.flatMap_cons]
          · rw [if_neg hnext] at hrest
            obtain ⟨rfl, rfl⟩ := course_pure_iff.mp hrest
            rw [Bool.not_eq_true] at hnext
            exact ⟨[x], _, rfl, hone,
              FetchedFrom.last hcall hpages ⟨x, members, rfl, hending, hnext⟩⟩

/-! ### On an upstream that answers -/

section

variable {State : Type} {env : (op : HttpOp) → State → op.Answer × State}

/-- The attempt is a success with this payload. -/
def Attempt.Gives (attempt : Attempt) (payload : Json) : Prop :=
  ∃ resp, attempt = .responded resp ∧ resp.status < 400 ∧ resp.json = .decoded payload

/-- A `_get` whose first attempt is a success. -/
theorem run_get_of_gives {request : Request} {s : State} {payload : Json}
    (h : Attempt.Gives (env (.send request.upstream (requestUrl config request)) s).1 payload) :
    (get config request).run env s =
      (.ok (.ok payload), (env (.send request.upstream (requestUrl config request)) s).2) := by
  obtain ⟨resp, hresp, hok, hjson⟩ := h
  have h404 : resp.status ≠ 404 := by omega
  have h400 : ¬resp.status ≥ 400 := by omega
  have htry : tryOnce request.path (requestUrl config request) ⟨none, none⟩ (.responded resp) =
      .ended (.ok (.ok payload)) := by
    simp only [tryOnce, tryBody, if_neg h404, if_neg h400, hjson]
    rfl
  have hsent : (send request.upstream (requestUrl config request)).run env s =
      (.ok (.responded resp),
        (env (.send request.upstream (requestUrl config request)) s).2) := by
    rw [← hresp]
    rfl
  unfold get getLoop maxRetries
  rw [Program.run_bind, hsent]
  dsimp only
  rw [htry]
  rfl

/-- **On an upstream that always answers with a page**, it is the loop of `Pagination`. -/
theorem run_paginateOver {fn : Json → Dict}
    (hanswer : ∀ token s, Attempt.Gives
      (env (.send .indexer (requestUrl config (method.call token).request)) s).1 (.obj (fn token)))
    (token : Json) (maxPages : ℕ) (s : State) :
    ((paginateOver config method token maxPages).run env s).1 = .ok {
      pages := (paginateFrom fn token maxPages).pages.map .obj
      ending := if (paginateFrom fn token maxPages).warned then .warned else .returned } := by
  induction maxPages generalizing token s with
  | zero => rfl
  | succ remaining ih =>
    unfold paginateOver paginateFrom
    rw [Program.run_bind, Program.run_caught, run_get_of_gives (hanswer token s)]
    dsimp only [Json.asDict_obj]
    by_cases hnext : ((fn token).get "next-token").truthy = true
    · rw [if_pos hnext, if_pos hnext, Program.run_bind_fst, ih]
      rfl
    · rw [if_neg hnext, if_neg hnext]
      rfl

end

/-! ### The whole walk -/

/-- **`paginate` over the transport**: it yields exactly the pages that the exchanges of its walk
    gave, also when it ends in an exception, and makes at most `MAX_RETRIES` attempts for each. -/
theorem paginate_over_transport {log : Log HttpOp.Answer} {result : Except PyError Paginated}
    (h : Course (paginateOver config method .null maxPages) log result) :
    ∃ exchanges run, result = .ok run ∧ sentIn log = exchanges.flatMap (Exchange.sent config) ∧
      (sentIn log).length ≤ maxRetries * maxPages ∧
      FetchedFrom config method .null maxPages exchanges run := by
  obtain ⟨exchanges, run, hrun, hsent, hfetched⟩ := fetchedFrom_of_course h
  refine ⟨exchanges, run, hrun, hsent, ?_, hfetched⟩
  rw [hsent]
  exact (length_flatMap_sent_le config exchanges).trans
    (Nat.mul_le_mul_left maxRetries hfetched.within)

/-- The first page of a listing, and the second. -/
def listingStart : Json := .obj [("assets", .arr [.obj [("asset-id", .int 7)]]),
  ("next-token", .str "p2")]

def listingEnd : Json := .obj [("assets", .arr [.obj [("asset-id", .int 8)]])]

/-- An indexer that is busy at first, and then serves the two pages. -/
def busyListing : Script where
  attempt
    | _, 0 => .responded ⟨503, none, .ok "busy", .undecodable⟩
    | _, 1 => .responded ⟨200, none, .ok "", .decoded listingStart⟩
    | _, _ => .responded ⟨200, none, .ok "", .decoded listingEnd⟩
  jitter _ := noJitter

/-- Three attempts, two pages. -/
theorem paginate_busyListing : ∃ log exchanges,
    Course (paginateOver mainnetConfig (.accountAssets zeroAddress 50) .null 20) log
      (.ok ⟨[listingStart, listingEnd], .returned⟩) ∧
    sentIn log = exchanges.flatMap (Exchange.sent mainnetConfig) ∧ (sentIn log).length = 3 ∧
    FetchedFrom mainnetConfig (.accountAssets zeroAddress 50) .null 20 exchanges
      ⟨[listingStart, listingEnd], .returned⟩ := by
  have hcourse := course_run
    (paginateOver mainnetConfig (.accountAssets zeroAddress 50) .null 20) (scripted busyListing) []
  obtain ⟨exchanges, run, hrun, hsent, -, hfetched⟩ := paginate_over_transport hcourse
  obtain rfl : run = ⟨[listingStart, listingEnd], .returned⟩ := (Except.ok.inj hrun).symm
  rw [hrun] at hcourse
  exact ⟨_, exchanges, hcourse, hsent, rfl, hfetched⟩

end Algorandscout
