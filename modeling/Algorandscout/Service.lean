import Algorandscout.Cache
import Algorandscout.Passthrough
import Algorandscout.Transaction
import Algorandscout.Validation
import Algorandscout.Library.Program

namespace Algorandscout

open Library

/-!
# Routes

A route is a program that calls the upstream and the cache.

* `ServiceError` — what leaves a route, with the status each handler gives it;
* `Op`, `Route` — the operations of a route, and `getOrFetch` over them;
* `getTransaction` — the transaction route, with `transactionResponse` as its last part;
* `atOnce` — the environment of a route that nothing interrupts: a cache, and an upstream that
  answers each call in one way;
* `run_getOrFetch`, `run_getTransaction` — the routes in that environment.
-/

/-- What leaves a route instead of a response. -/
inductive ServiceError where
  | algorand (exc : AlgorandError)
  | validation (exc : Raised)
  | http (exc : HttpException)
  /-- Anything else, which no handler takes. -/
  | unhandled (exc : PyError)
  deriving DecidableEq, Repr

/-- The status `algorand_error_handler` answers with. -/
def AlgorandError.responseStatus (e : AlgorandError) : ℕ :=
  if e.isNotFound then 404
  else if e.status = some 429 then 429
  else if e.callerError then 400
  else 502

/-- The status of the response that reports the error. -/
def ServiceError.status : ServiceError → ℕ
  | .algorand exc => exc.responseStatus
  | .validation _ => 400
  | .http exc => exc.statusCode
  | .unhandled _ => 500

/-- The status of the response to a request. -/
def statusOf {α : Type} : Except ServiceError α → ℕ
  | .ok _ => 200
  | .error e => e.status

theorem AlgorandError.notFound_responseStatus (path url : String) :
    (AlgorandError.notFound path url).responseStatus = 404 := rfl

/-- A failed upstream call is never answered with 200. -/
theorem AlgorandError.responseStatus_ne (e : AlgorandError) : e.responseStatus ≠ 200 := by
  unfold responseStatus
  split_ifs
  all_goals decide

/-! ### Programs over the upstream and the cache -/

/-- What a route asks its environment to do. -/
inductive Op where
  | upstream (call : Call)
  | cacheGet (kind key : String)
  | cacheSet (kind key : String) (value : Option Json)

/-- What each of these gives back. -/
def Op.Answer : Op → Type
  | .upstream _ => Except AlgorandError Json
  | .cacheGet _ _ => Option Json
  | .cacheSet _ _ _ => Unit

/-- A route that responds with an `α`. -/
abbrev Route (α : Type) := Program Op.Answer ServiceError α

/-- One upstream call, with its outcome. -/
def askUpstream (call : Call) : Route (Except AlgorandError Json) := Program.ask (Op.upstream call)

/-- `cache(request).get(kind, key)`. -/
def cacheGet (kind key : String) : Route (Option Json) := Program.ask (Op.cacheGet kind key)

/-- `cache(request).set(kind, key, value)`. -/
def cacheSet (kind key : String) (value : Option Json) : Route Unit :=
  Program.ask (Op.cacheSet kind key value)

/-- One upstream call whose failure leaves the route. -/
def upstream (call : Call) : Route Json := do
  match ← askUpstream call with
  | .ok payload => return payload
  | .error exc => Program.raise (.algorand exc)

/-- A payload as the cache holds it: `None` is no value. -/
def Json.asValue : Json → Option Json
  | .null => none
  | payload => some payload

/-- A value of the cache as the code sees it. -/
def Json.ofValue (value : Option Json) : Json := value.getD .null

@[simp] theorem Json.ofValue_asValue (payload : Json) : ofValue payload.asValue = payload := by
  cases payload <;> rfl

/-- `cache(request).get_or_fetch(kind, key, fetch)`. -/
def getOrFetch (kind key : String) (fetch : Route Json) : Route Json := do
  match ← cacheGet kind key with
  | some hit => return hit
  | none => do
    -- No lock is held here, and whatever the fetch gives is stored before it is looked at.
    let value ← fetch
    cacheSet kind key value.asValue
    return value

/-- A mapper inside a route. -/
def mapping {α : Type} (x : Except PyError α) : Except ServiceError α := x.mapError .unhandled

/-! ### The transaction route -/

/-- `max(0, tip - mapped["block_number"])`, when the tip is known and the transaction has a
    round. -/
def confirmationsOf (tip blockNumber : Json) : Except PyError (Option Int) :=
  if tip.truthy && blockNumber.truthy then do
    return some (max 0 ((← tip.asInt) - (← blockNumber.asInt)))
  else .ok none

/-- What `get_transaction` makes of the payload. -/
def transactionResponse (payload : Json) : Except ServiceError MappedTransaction := do
  let members ← mapping payload.asDict
  let tx := members.get "transaction"
  if !tx.truthy then throw (.http ⟨404, "transaction not found"⟩)
  let mapped ← mapping (mapTransaction tx)
  -- The tip comes from the payload, so it is as old as the payload is.
  let confirmations ← mapping (confirmationsOf (members.get "current-round") mapped.blockNumber)
  return { mapped with confirmations }

/-- `get_transaction`. -/
def getTransaction (txid : String) : Route MappedTransaction := do
  let _ ← Program.ofExcept ((validateTxid txid).mapError ServiceError.validation)
  let payload ← getOrFetch "transaction" txid (upstream (.transaction txid))
  Program.ofExcept (transactionResponse payload)

/-! ### Routes that nothing interrupts -/

/-- The environment of a route that runs at time `now` with nothing in between: a cache, and an
    upstream that answers each call in one way. -/
def atOnce (now : ℚ) (answer : Call → Except AlgorandError Json) :
    (op : Op) → TTLCache Json → op.Answer × TTLCache Json
  | .upstream call, cache => (answer call, cache)
  | .cacheGet kind key, cache => cache.get now kind key
  | .cacheSet kind key value, cache => ((), cache.set now kind key value)

variable {now : ℚ} {answer : Call → Except AlgorandError Json} {cache : TTLCache Json}

@[simp] theorem run_askUpstream_bind {α : Type} (call : Call)
    (f : Except AlgorandError Json → Route α) :
    (askUpstream call >>= f).run (atOnce now answer) cache =
      (f (answer call)).run (atOnce now answer) cache := rfl

@[simp] theorem run_cacheGet_bind {α : Type} (kind key : String) (f : Option Json → Route α) :
    (cacheGet kind key >>= f).run (atOnce now answer) cache =
      (f (cache.get now kind key).1).run (atOnce now answer) (cache.get now kind key).2 := rfl

@[simp] theorem run_cacheSet_bind {α : Type} (kind key : String) (value : Option Json)
    (f : Unit → Route α) :
    (cacheSet kind key value >>= f).run (atOnce now answer) cache =
      (f ()).run (atOnce now answer) (cache.set now kind key value) := rfl

theorem run_upstream (call : Call) :
    (upstream call).run (atOnce now answer) cache =
      ((answer call).mapError ServiceError.algorand, cache) := by
  unfold upstream
  rw [run_askUpstream_bind]
  cases answer call with
  | ok payload => rfl
  | error exc => rfl

theorem run_upstream_bind {α : Type} (call : Call) (f : Json → Route α) :
    (upstream call >>= f).run (atOnce now answer) cache =
      match answer call with
      | .ok payload => (f payload).run (atOnce now answer) cache
      | .error exc => (.error (.algorand exc), cache) := by
  rw [Program.run_bind, run_upstream]
  cases answer call with
  | ok payload => rfl
  | error exc => rfl

/-- **`get_or_fetch` in a route is `TTLCache.getOrFetch`.** -/
theorem run_getOrFetch (kind key : String) (call : Call) :
    (getOrFetch kind key (upstream call)).run (atOnce now answer) cache =
      let answered := cache.getOrFetch now now kind key ((answer call).map Json.asValue)
      ((answered.1.map Json.ofValue).mapError ServiceError.algorand, answered.2) := by
  unfold getOrFetch
  rw [run_cacheGet_bind]
  cases hget : (cache.get now kind key).1 with
  | some hit =>
    rw [TTLCache.getOrFetch_of_hit hget]
    rfl
  | none =>
    simp only
    rw [Program.run_bind, run_upstream]
    cases answer call with
    | error exc =>
      rw [Except.map, TTLCache.getOrFetch_of_raise hget]
      rfl
    | ok payload =>
      rw [Except.map, TTLCache.getOrFetch_of_miss hget]
      simp only [Except.mapError, Except.map, run_cacheSet_bind, Program.run_pure,
        Json.ofValue_asValue]

/-- **The transaction route.** A hit is answered from the cache, a miss from the upstream. -/
theorem run_getTransaction {txid : String} (hvalid : validateTxid txid = .ok txid) :
    (getTransaction txid).run (atOnce now answer) cache =
      let answered := cache.getOrFetch now now "transaction" txid
        ((answer (.transaction txid)).map Json.asValue)
      ((answered.1.mapError ServiceError.algorand).bind fun value =>
        transactionResponse (Json.ofValue value), answered.2) := by
  unfold getTransaction
  rw [hvalid]
  show Program.run _ (Program.ofExcept (.ok txid) >>= _) cache = _
  rw [Program.run_ofExcept_ok_bind, Program.run_bind, run_getOrFetch]
  simp only
  -- The rest of the route performs nothing.
  cases (cache.getOrFetch now now "transaction" txid
    ((answer (.transaction txid)).map Json.asValue)).1 with
  | ok value => rfl
  | error exc => rfl

end Algorandscout
