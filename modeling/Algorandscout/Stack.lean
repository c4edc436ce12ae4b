import Algorandscout.Library.Handlers
import Algorandscout.Routes
import Algorandscout.Transport

namespace Algorandscout

open Library Library.Program

/-!
# Routes over the transport

A route makes upstream calls, and every one of them is a `_get` with its retries.  The routes
elsewhere take a call for one operation; here it is the loop.

* `StackOp`, `stack` — a route with `_get` in the place of its upstream calls;
* `Exchange` — the attempts of one call: those that were retried, and the last;
* `course_get_spec` — what one `_get` sends, and how it ends;
* `exists_course_perform` — any exchange may be made;
* `stack_refines`, `stack_exact` — what the stack does is what the route does on the outcomes of its
  exchanges, and every such thing it may do;
* `exists_course_of_cut` — a route that is cut short at a call has a course on which it fails.
-/

/-! ### The stack -/

/-- What a route over the transport asks its environment to do. -/
inductive StackOp where
  | http (op : HttpOp)
  | cacheGet (kind key : String)
  | cacheSet (kind key : String) (value : Option Json)

/-- What each of these gives back. -/
def StackOp.Answer : StackOp → Type
  | .http op => op.Answer
  | .cacheGet _ _ => Option Json
  | .cacheSet _ _ _ => Unit

/-- A route down to its attempts. -/
abbrev Stack (α : Type) := Program StackOp.Answer ServiceError α

/-- One operation of the transport. -/
def overHttp (op : HttpOp) : Stack op.Answer := Program.ask (StackOp.http op)

/-- How an operation of a route is performed: an upstream call is a `_get`, and what its `except`
    clauses let through leaves the route as it is. -/
def perform (config : AlgorandConfig) : (op : Op) → Stack op.Answer
  | .upstream call => (get config call.request).handle overHttp .unhandled
  | .cacheGet kind key => Program.ask (StackOp.cacheGet kind key)
  | .cacheSet kind key value => Program.ask (StackOp.cacheSet kind key value)

/-- The route with `_get` in the place of its upstream calls. -/
def stack {α : Type} (config : AlgorandConfig) (route : Route α) : Stack α :=
  route.handle (perform config) id

/-! ### Attempts -/

/-- An attempt that was made, with the URL that `session.get` was called with, and what it came
    to. -/
structure Sent where
  upstream : Upstream
  url : String
  attempt : Attempt

/-- The attempt of an operation, if it is one. -/
def sentBy : Entry HttpOp.Answer → Option Sent
  | ⟨.send upstream url, attempt⟩ => some ⟨upstream, url, attempt⟩
  | ⟨.jitter, _⟩ => none
  | ⟨.sleep _, _⟩ => none

/-- The attempts of one `_get`, in order. -/
def sentIn (log : Log HttpOp.Answer) : List Sent := log.filterMap sentBy

/-- The operation of the transport that this is, if it is one. -/
def httpOf : Entry StackOp.Answer → Option (Entry HttpOp.Answer)
  | ⟨.http op, answer⟩ => some ⟨op, answer⟩
  | ⟨.cacheGet _ _, _⟩ => none
  | ⟨.cacheSet _ _ _, _⟩ => none

/-- The attempts of a route, in order. -/
def sentOf (log : Log StackOp.Answer) : List Sent := sentIn (log.filterMap httpOf)

/-- The attempts of one upstream call: they are retried up to the last one, and that would be
    too if the retries were not used up. -/
structure Exchange where
  call : Call
  retried : List Attempt
  final : Attempt
  retried_all : ∀ attempt ∈ retried, attempt.isRetried = true
  within : retried.length < maxRetries
  ended : final.isRetried = true → retried.length + 1 = maxRetries

/-- What the exchange sends. -/
def Exchange.sent (config : AlgorandConfig) (x : Exchange) : List Sent :=
  (x.retried ++ [x.final]).map fun attempt =>
    ⟨x.call.request.upstream, requestUrl config x.call.request, attempt⟩

/-- How the exchange ends: as its last attempt does. -/
def Exchange.ending (config : AlgorandConfig) (x : Exchange) :
    Except PyError (Except AlgorandError Json) :=
  x.final.ending x.call.request.path (requestUrl config x.call.request)

theorem Exchange.length_sent (config : AlgorandConfig) (x : Exchange) :
    (x.sent config).length ≤ maxRetries := by
  have hwithin := x.within
  unfold Exchange.sent
  rw [List.length_map, List.length_append, List.length_singleton]
  omega

@[simp] theorem sentIn_append (first rest : Log HttpOp.Answer) :
    sentIn (first ++ rest) = sentIn first ++ sentIn rest := List.filterMap_append

@[simp] theorem sentOf_append (first rest : Log StackOp.Answer) :
    sentOf (first ++ rest) = sentOf first ++ sentOf rest := by
  unfold sentOf
  rw [List.filterMap_append, sentIn_append]

/-! ### One `_get` -/

variable {upstream : Upstream} {path url : String} {log : Log HttpOp.Answer}

/-- A delay sends nothing, and is used up.  There is none after the last attempt. -/
theorem course_pause {attempt : ℕ} {carry : Carry} {result : Except PyError Carry}
    (h : Course (pause attempt carry) log result) :
    sentIn log = [] ∧ (¬attempt < maxRetries → log = []) ∧
      result = .ok (if attempt < maxRetries then { carry with retryAfter := none } else carry) := by
  unfold pause at h
  by_cases hroom : attempt < maxRetries
  · rw [if_pos hroom] at h ⊢
    unfold delayAfter at h
    cases hretry : carry.retryAfter with
    | some seconds =>
      rw [hretry] at h
      obtain ⟨_, rest, rfl, hrest⟩ := course_ask_bind_iff.mp h
      obtain ⟨rfl, rfl⟩ := course_pure_iff.mp hrest
      exact ⟨rfl, absurd hroom, rfl⟩
    | none =>
      rw [hretry] at h
      obtain ⟨_, rest, rfl, hsleep⟩ := course_ask_bind_iff.mp h
      obtain ⟨_, rest, rfl, hrest⟩ := course_ask_bind_iff.mp hsleep
      obtain ⟨rfl, rfl⟩ := course_pure_iff.mp hrest
      exact ⟨rfl, absurd hroom, rfl⟩
  · rw [if_neg hroom] at h ⊢
    obtain ⟨rfl, rfl⟩ := course_pure_iff.mp h
    exact ⟨rfl, fun _ => rfl, rfl⟩

/-- **One attempt of the loop.** It is the last, or the loop goes on after a delay. -/
theorem course_getLoop_cases {left k : ℕ} {last : Option AlgorandError}
    {result : Except PyError (Except AlgorandError Json)} (hleft : k + (left + 1) = maxRetries)
    (h : Course (getLoop upstream path url (k + 1) (left + 1) ⟨last, none⟩) log result) :
    ∃ attempt : Attempt, ((attempt.isRetried = true → left = 0) ∧
        log = [⟨.send upstream url, attempt⟩] ∧ result = attempt.ending path url) ∨
      ∃ delay rest exc, attempt.isRetried = true ∧ left ≠ 0 ∧
        log = ⟨.send upstream url, attempt⟩ :: (delay ++ rest) ∧ sentIn delay = [] ∧
        Course (getLoop upstream path url (k + 1 + 1) left ⟨some exc, none⟩) rest result := by
  unfold getLoop send at h
  obtain ⟨attempt, rest, rfl, hrest⟩ := course_ask_bind_iff.mp h
  refine ⟨attempt, ?_⟩
  rcases tryOnce_eq path url last attempt with ⟨hret, hend⟩ | ⟨hret, exc, hexc, hagain⟩
  · rw [hend] at hrest
    obtain ⟨rfl, rfl⟩ := course_ofExcept_iff.mp hrest
    exact .inl ⟨fun h => absurd h (by simp [hret]), rfl, rfl⟩
  · rw [hagain] at hrest
    rcases course_bind_iff.mp hrest with
      ⟨e, hpause, rfl⟩ | ⟨delay, later, carry, rfl, hpause, hloop⟩
    · -- A pause does not fail.
      obtain ⟨-, -, hok⟩ := course_pause hpause
      cases hok
    · obtain ⟨hnone, hlast, hok⟩ := course_pause hpause
      obtain rfl := Except.ok.inj hok
      cases left with
      | zero =>
        -- Nothing is slept after the last attempt, and its error is raised.
        rw [if_neg (by omega)] at hloop
        unfold getLoop at hloop
        obtain ⟨rfl, rfl⟩ := course_pure_iff.mp hloop
        obtain rfl := hlast (by omega)
        exact .inl ⟨fun _ => rfl, rfl, hexc.symm⟩
      | succ left =>
        rw [if_pos (by omega)] at hloop
        exact .inr ⟨delay, later, exc, hret, Nat.succ_ne_zero left, rfl, hnone, hloop⟩

/-- The loop from attempt `k` on, when no delay is left over from the attempts before. -/
theorem course_getLoop {left k : ℕ} {last : Option AlgorandError}
    {result : Except PyError (Except AlgorandError Json)} (hleft : k + (left + 1) = maxRetries)
    (h : Course (getLoop upstream path url (k + 1) (left + 1) ⟨last, none⟩) log result) :
    ∃ (retried : List Attempt) (final : Attempt),
      sentIn log = (retried ++ [final]).map (Sent.mk upstream url) ∧
      (∀ attempt ∈ retried, attempt.isRetried = true) ∧ retried.length ≤ left ∧
      (final.isRetried = true → retried.length = left) ∧
      log.getLast? = some ⟨.send upstream url, final⟩ ∧ result = final.ending path url := by
  induction left generalizing k last log with
  | zero =>
    obtain ⟨attempt, ⟨-, rfl, rfl⟩ | ⟨_, _, _, -, hroom, -⟩⟩ := course_getLoop_cases hleft h
    · exact ⟨[], attempt, rfl, by simp, le_rfl, fun _ => rfl, rfl, rfl⟩
    · exact absurd rfl hroom
  | succ left ih =>
    obtain ⟨attempt, ⟨hlast, rfl, rfl⟩ | ⟨delay, rest, exc, hret, -, rfl, hnone, hloop⟩⟩ :=
      course_getLoop_cases hleft h
    · exact ⟨[], attempt, rfl, by simp, Nat.zero_le _, fun hret => (hlast hret).symm, rfl, rfl⟩
    · obtain ⟨retried, final, hlater, hall, hlength, hended, hend, hresult⟩ := ih (by omega) hloop
      refine ⟨attempt :: retried, final, ?_, ?_, ?_, ?_, ?_, hresult⟩
      · show _ :: sentIn (delay ++ rest) = _
        rw [sentIn_append, hnone, List.nil_append, hlater]
        rfl
      · rw [List.forall_mem_cons]
        exact ⟨hret, hall⟩
      · rw [List.length_cons]
        omega
      · intro hretried
        rw [List.length_cons, hended hretried]
      · rw [List.getLast?_cons, List.getLast?_append, hend]
        rfl

/-- **One `_get`** is an exchange. -/
theorem course_get_spec {config : AlgorandConfig} {call : Call}
    {result : Except PyError (Except AlgorandError Json)}
    (h : Course (get config call.request) log result) :
    ∃ x : Exchange, x.call = call ∧ sentIn log = x.sent config ∧
      log.getLast? = some ⟨.send call.request.upstream (requestUrl config call.request), x.final⟩ ∧
      result = x.ending config := by
  have hleft : 0 + (2 + 1) = maxRetries := rfl
  obtain ⟨retried, final, hsent, hall, hlength, hended, hend, hresult⟩ := course_getLoop hleft h
  refine ⟨⟨call, retried, final, hall, Nat.lt_succ_of_le hlength, fun hretried => ?_⟩, rfl, hsent,
    hend, hresult⟩
  rw [hended hretried]
  rfl

/-- A delay there may be before the next attempt. -/
theorem exists_course_pause {attempt : ℕ} (hroom : attempt < maxRetries) (carry : Carry) :
    ∃ delay, Course (pause attempt carry) delay (.ok { carry with retryAfter := none }) ∧
      sentIn delay = [] := by
  obtain ⟨delay, h⟩ := exists_course_run (pause attempt carry)
    (scripted ⟨fun _ _ => .failed ⟨""⟩, fun _ => noJitter⟩) []
  obtain ⟨hnone, -, hresult⟩ := course_pause h
  rw [if_pos hroom] at hresult
  rw [hresult] at h
  exact ⟨delay, h, hnone⟩

/-- **The loop makes any exchange** that its attempts allow. -/
theorem exists_course_getLoop (upstream : Upstream) (path url : String)
    (last : Option AlgorandError) {left k : ℕ} (hleft : k + (left + 1) = maxRetries)
    {retried : List Attempt} {final : Attempt}
    (hall : ∀ attempt ∈ retried, attempt.isRetried = true) (hlength : retried.length ≤ left)
    (hended : final.isRetried = true → retried.length = left) :
    ∃ log, Course (getLoop upstream path url (k + 1) (left + 1) ⟨last, none⟩) log
      (final.ending path url) ∧
      sentIn log = (retried ++ [final]).map (Sent.mk upstream url) := by
  induction retried generalizing left k last with
  | nil =>
    refine ⟨[⟨.send upstream url, final⟩], ?_, rfl⟩
    unfold getLoop send
    refine course_ask_bind_iff.mpr ⟨final, [], rfl, ?_⟩
    rcases tryOnce_eq path url last final with ⟨-, hend⟩ | ⟨hret, exc, hexc, hagain⟩
    · rw [hend]
      exact course_ofExcept_iff.mpr ⟨rfl, rfl⟩
    · -- It was the last attempt there was room for.
      obtain rfl : 0 = left := hended hret
      rw [hagain, hexc]
      have hnone : ¬k + 1 < maxRetries := by omega
      refine course_bind_iff.mpr (.inr ⟨[], [], ⟨some exc, final.askedDelay⟩, rfl, ?_, ?_⟩)
      · unfold pause
        rw [if_neg hnone]
        exact course_pure_iff.mpr ⟨rfl, rfl⟩
      · unfold getLoop
        exact course_pure_iff.mpr ⟨rfl, rfl⟩
  | cons attempt retried ih =>
    rw [List.forall_mem_cons] at hall
    rw [List.length_cons] at hlength hended
    cases left with
    | zero => omega
    | succ left =>
      rcases tryOnce_eq path url last attempt with ⟨hret, -⟩ | ⟨-, exc, -, hagain⟩
      · rw [hall.1] at hret
        cases hret
      · have hleft' : k + 1 + (left + 1) = maxRetries := by omega
        obtain ⟨rest, hrest, hsent⟩ := ih (some exc) hleft' hall.2 (by omega) fun hfinal =>
          Nat.succ.inj (hended hfinal)
        have hroom : k + 1 < maxRetries := by omega
        obtain ⟨delay, hdelay, hnone⟩ := exists_course_pause hroom ⟨some exc, attempt.askedDelay⟩
        refine ⟨⟨.send upstream url, attempt⟩ :: (delay ++ rest), ?_, ?_⟩
        · unfold getLoop send
          refine course_ask_bind_iff.mpr ⟨attempt, delay ++ rest, rfl, ?_⟩
          rw [hagain]
          exact course_bind_iff.mpr (.inr ⟨delay, rest, _, rfl, hdelay, hrest⟩)
        · show _ :: sentIn (delay ++ rest) = _
          rw [sentIn_append, hnone, List.nil_append, hsent]
          rfl

/-! ### The stack refines the routes -/

/-- An operation of the transport, in the stack. -/
def inStack (entry : Entry HttpOp.Answer) : Entry StackOp.Answer := ⟨.http entry.1, entry.2⟩

@[simp] theorem filterMap_inStack (log : Log HttpOp.Answer) :
    (log.map inStack).filterMap httpOf = log := by
  induction log with
  | nil => rfl
  | cons entry log ih =>
    rw [List.map_cons, List.filterMap_cons, ih]
    rfl

/-- The same operations, over the transport alone and in the stack. -/
theorem implements_overHttp {later : Log StackOp.Answer} {log : Log HttpOp.Answer}
    (h : Implements overHttp log later) : later = log.map inStack := by
  induction h with
  | nil => rfl
  | cons performed later ih =>
    obtain ⟨_, rest, rfl, hend⟩ := course_perform_iff.mp performed
    obtain ⟨rfl, heq⟩ := course_done_iff.mp hend
    obtain rfl := Except.ok.inj heq
    rw [ih]
    rfl

/-- **An upstream call** in the stack is an exchange, and ends as it does. -/
theorem course_perform_upstream {config : AlgorandConfig} {call : Call}
    {log : Log StackOp.Answer} {result : Except ServiceError Outcome}
    (h : Course (perform config (.upstream call)) log result) :
    ∃ x : Exchange, x.call = call ∧ sentOf log = x.sent config ∧
      log.getLast? = some ⟨.http (.send call.request.upstream (requestUrl config call.request)),
        x.final⟩ ∧ result = (x.ending config).mapError .unhandled := by
  rcases course_handle h with ⟨http, final, hcourse, himpl, rfl⟩ |
    ⟨http, op, next, first, last, e, -, -, hlast, -, -⟩
  · obtain ⟨x, hcall, hsent, hend, rfl⟩ := course_get_spec hcourse
    obtain rfl := implements_overHttp himpl
    refine ⟨x, hcall, ?_, ?_, rfl⟩
    · unfold sentOf
      rw [filterMap_inStack, hsent]
    · rw [List.getLast?_map, hend]
      rfl
  · -- No operation of the transport fails by itself.
    obtain ⟨_, rest, rfl, hend⟩ := course_perform_iff.mp hlast
    obtain ⟨-, heq⟩ := course_done_iff.mp hend
    cases heq

theorem implements_inStack (log : Log HttpOp.Answer) :
    Implements overHttp log (log.map inStack) := by
  induction log with
  | nil => exact .nil
  | cons entry log ih =>
    have hentry : Course (overHttp entry.1) [inStack entry] (.ok entry.2) := .perform (.done _)
    exact .cons hentry ih

/-- **Any exchange** may be made for its call. -/
theorem exists_course_perform (config : AlgorandConfig) (x : Exchange) :
    ∃ log, Course (perform config (.upstream x.call)) log
      ((x.ending config).mapError .unhandled) ∧ sentOf log = x.sent config := by
  have hleft : 0 + (2 + 1) = maxRetries := rfl
  obtain ⟨http, hcourse, hsent⟩ := exists_course_getLoop x.call.request.upstream
    x.call.request.path (requestUrl config x.call.request) none hleft x.retried_all
    (Nat.le_of_lt_succ x.within) fun hfinal => Nat.succ.inj (x.ended hfinal)
  refine ⟨http.map inStack, hcourse.handle (implements_inStack http), ?_⟩
  unfold sentOf
  rw [filterMap_inStack]
  exact hsent

/-- The calls of a log are these exchanges, each with the outcome that it ended in. -/
def AreExchanges (config : AlgorandConfig) (log : RouteLog) (exchanges : List Exchange) : Prop :=
  exchanges.map (fun x => (x.call, x.ending config)) =
    (callsOf log).map fun asked => (asked.1, .ok asked.2)

/-- What the operations of a route send, in the stack. -/
theorem exchanges_of_implements {config : AlgorandConfig} {log : RouteLog}
    {later : Log StackOp.Answer} (h : Implements (perform config) log later) :
    ∃ exchanges, AreExchanges config log exchanges ∧
      sentOf later = exchanges.flatMap (Exchange.sent config) := by
  induction h with
  | nil => exact ⟨[], rfl, rfl⟩
  | @cons op answer first rest' rest performed later ih =>
    obtain ⟨exchanges, hare, hsent⟩ := ih
    cases op with
    | upstream call =>
      obtain ⟨x, rfl, hfirst, -, hend⟩ := course_perform_upstream performed
      have hending : x.ending config = .ok answer := by
        cases hx : x.ending config with
        | ok outcome =>
          rw [hx] at hend
          rw [Except.ok.inj hend]
        | error e =>
          rw [hx] at hend
          cases hend
      refine ⟨x :: exchanges, ?_, ?_⟩
      · show _ = (x.call, Except.ok answer) ::
          (callsOf rest).map fun asked => (asked.1, .ok asked.2)
        rw [List.map_cons, hending]
        exact congrArg _ hare
      · rw [sentOf_append, hfirst, hsent, List.flatMap_cons]
    | cacheGet kind key =>
      obtain ⟨_, _, rfl, hend⟩ := course_perform_iff.mp performed
      obtain ⟨rfl, -⟩ := course_done_iff.mp hend
      exact ⟨exchanges, hare, hsent⟩
    | cacheSet kind key value =>
      obtain ⟨_, _, rfl, hend⟩ := course_perform_iff.mp performed
      obtain ⟨rfl, -⟩ := course_done_iff.mp hend
      exact ⟨exchanges, hare, hsent⟩

/-- What sends the exchanges of a log. -/
theorem exists_implements {config : AlgorandConfig} {log : RouteLog} {exchanges : List Exchange}
    (h : AreExchanges config log exchanges) :
    ∃ later, Implements (perform config) log later ∧
      sentOf later = exchanges.flatMap (Exchange.sent config) := by
  induction log generalizing exchanges with
  | nil =>
    obtain rfl := List.map_eq_nil_iff.mp h
    exact ⟨[], .nil, rfl⟩
  | cons entry log ih =>
    obtain ⟨op, answer⟩ := entry
    cases op with
    | upstream call =>
      cases exchanges with
      | nil => cases h
      | cons x exchanges =>
        obtain ⟨hfirst, hrest⟩ := List.cons.inj h
        obtain ⟨rfl, hending⟩ := Prod.mk.inj hfirst
        obtain ⟨later, himpl, hlater⟩ := ih hrest
        obtain ⟨first, hcourse, hsent⟩ := exists_course_perform config x
        rw [hending] at hcourse
        refine ⟨first ++ later, .cons hcourse himpl, ?_⟩
        rw [sentOf_append, hsent, hlater, List.flatMap_cons]
    | cacheGet kind key =>
      obtain ⟨later, himpl, hlater⟩ := ih h
      have hget : Course (perform config (.cacheGet kind key)) [⟨.cacheGet kind key, answer⟩]
        (.ok answer) := .perform (.done _)
      exact ⟨_, .cons hget himpl, hlater⟩
    | cacheSet kind key value =>
      obtain ⟨later, himpl, hlater⟩ := ih h
      have hset : Course (perform config (.cacheSet kind key value))
        [⟨.cacheSet kind key value, answer⟩] (.ok answer) := .perform (.done _)
      exact ⟨_, .cons hset himpl, hlater⟩

/-- What a route comes to, given the exchanges of its calls. -/
inductive Refined {α : Type} (config : AlgorandConfig) (route : Route α)
    (exchanges : List Exchange) (result : Except ServiceError α) : Prop
  /-- The route ends as it does on the outcomes of the exchanges. -/
  | ended (log : RouteLog) (course : Course route log result)
    (are : AreExchanges config log exchanges)
  /-- The last exchange ends in an exception of its own, which leaves the route. -/
  | escaped (log : RouteLog) (earlier : List Exchange) (x : Exchange) (next : Outcome → Route α)
    (e : PyError) (reached : Reaches route log (.perform (.upstream x.call) next))
    (are : AreExchanges config log earlier) (exchanges_eq : exchanges = earlier ++ [x])
    (ending : x.ending config = .error e) (result_eq : result = .error (.unhandled e))

/-- Whatever the transport comes to, the attempts of a route are the exchanges of its calls,
    and the route ends as it would on their outcomes. -/
theorem stack_refines {α : Type} {config : AlgorandConfig} {route : Route α}
    {log : Log StackOp.Answer} {result : Except ServiceError α}
    (h : Course (stack config route) log result) :
    ∃ exchanges, sentOf log = exchanges.flatMap (Exchange.sent config) ∧
      Refined config route exchanges result := by
  rcases course_handle h with ⟨routeLog, final, hcourse, himpl, rfl⟩ |
    ⟨routeLog, op, next, first, last, e, hreaches, himpl, hlast, rfl, rfl⟩
  · obtain ⟨exchanges, hare, hsent⟩ := exchanges_of_implements himpl
    have hid : final.mapError id = final := by cases final <;> rfl
    refine ⟨exchanges, hsent, .ended routeLog ?_ hare⟩
    rwa [hid]
  · obtain ⟨earlier, hare, hsent⟩ := exchanges_of_implements himpl
    cases op with
    | upstream call =>
      obtain ⟨x, rfl, hx, -, hend⟩ := course_perform_upstream hlast
      obtain ⟨raised, hending, rfl⟩ : ∃ raised, x.ending config = .error raised ∧
          e = .unhandled raised := by
        cases hx : x.ending config with
        | ok outcome =>
          rw [hx] at hend
          cases hend
        | error raised =>
          rw [hx] at hend
          exact ⟨raised, rfl, Except.error.inj hend⟩
      refine ⟨earlier ++ [x], ?_,
        .escaped routeLog earlier x next raised hreaches hare rfl hending rfl⟩
      rw [sentOf_append, hsent, hx, List.flatMap_append, List.flatMap_singleton]
    | cacheGet kind key =>
      obtain ⟨_, _, rfl, hend⟩ := course_perform_iff.mp hlast
      obtain ⟨-, heq⟩ := course_done_iff.mp hend
      cases heq
    | cacheSet kind key value =>
      obtain ⟨_, _, rfl, hend⟩ := course_perform_iff.mp hlast
      obtain ⟨-, heq⟩ := course_done_iff.mp hend
      cases heq

/-- **The stack is the routes over exchanges.**  The attempts of a route are the exchanges of
    its calls, one after the other, and the route ends as it would on the outcomes of the exchanges,
    unless the last of them ends in an exception of its own; and whatever exchanges its calls may
    have, the transport can come to them. -/
theorem stack_exact {α : Type} {config : AlgorandConfig} {route : Route α} {sent : List Sent}
    {result : Except ServiceError α} :
    (∃ log, Course (stack config route) log result ∧ sentOf log = sent) ↔
      ∃ exchanges, sent = exchanges.flatMap (Exchange.sent config) ∧
        Refined config route exchanges result := by
  constructor
  · rintro ⟨log, h, rfl⟩
    exact stack_refines h
  · rintro ⟨exchanges, rfl, hrefined⟩
    cases hrefined with
    | ended routeLog course are =>
      obtain ⟨log, himpl, hsent⟩ := exists_implements are
      have h : Course (stack config route) log (result.mapError id) := course.handle himpl
      have hid : result.mapError id = result := by cases result <;> rfl
      rw [hid] at h
      exact ⟨log, h, hsent⟩
    | escaped routeLog earlier x next e reached are exchanges_eq ending result_eq =>
      subst exchanges_eq result_eq
      obtain ⟨first, himpl, hfirst⟩ := exists_implements are
      obtain ⟨last, hlast, hsent⟩ := exists_course_perform config x
      rw [ending] at hlast
      refine ⟨first ++ last, Course.handle_cut reached himpl hlast, ?_⟩
      rw [sentOf_append, hfirst, hsent, List.flatMap_append, List.flatMap_singleton]

/-- A call that a route is cut short at might as well have failed. -/
theorem exists_course_of_cut {α : Type} {route : Route α} {log : RouteLog} {call : Call}
    {next : Outcome → Route α} (h : Reaches route log (.perform (.upstream call) next))
    (exc : AlgorandError) :
    ∃ rest result,
      Course route (log ++ ⟨.upstream call, (.error exc : Outcome)⟩ :: rest) result := by
  obtain ⟨rest, hrest⟩ :=
    exists_course_run (next (.error exc)) (recording fun _ => .error exc) []
  exact ⟨rest, _, h.course (.perform hrest)⟩

/-- A transport whose every response is a 404, and a cache that holds nothing. -/
def nothingThere : (op : StackOp) → Unit → op.Answer × Unit
  | .http (.send _ _), _ => (Attempt.responded ⟨404, none, .ok "", .undecodable⟩, ())
  | .http .jitter, _ => (noJitter, ())
  | .http (.sleep _), _ => ((), ())
  | .cacheGet _ _, _ => ((none : Option Json), ())
  | .cacheSet _ _ _, _ => ((), ())

end Algorandscout
