import Algorandscout.Client
import Algorandscout.Python.Float
import Algorandscout.Library.Fallible
import Algorandscout.Library.Program
import Algorandscout.Library.Retries

namespace Algorandscout

open Library

/-!
# The transport

`AlgorandClient._get`: one request, with retries.  An attempt is one `session.get`.  The HTTP client
may send more than one HTTP request for it, as it follows redirects and repeats a GET whose
connection was dropped; that is inside the attempt.

* `parseRetryAfter` — `_parse_retry_after`;
* `Attempt` — what one `session.get` may come to;
* `tryOnce` — the `try` statement of the loop;
* `get` — `_get`, over the operations that reach the network and the clock;
* `scripted` — the environment that answers the requests of each upstream from a script;
* `run_get` — **the loop**: the attempts made, the delays between them, and the end.
-/

/-- How many attempts there are. -/
def maxRetries : ℕ := 3

/-- Seconds of backoff for each attempt made so far. -/
def retryBackoff : ℚ := 2 / 5

/-- The most that chance adds to a backoff. -/
def retryJitter : ℚ := 1 / 4

/-- The cap on how long a `Retry-After` may park a request. -/
def maxRetryAfter : ℚ := 10

/-- `_parse_retry_after`. -/
def parseRetryAfter (value : Option String) : Option PyFloat :=
  match value with
  | none => none
  | some value =>
    if value = "" then none
    else
      match Text.float (Text.strip value) with
      | .error _ => none
      | .ok seconds =>
        if seconds.lt (.fin 0) then none else some (seconds.min (.fin maxRetryAfter))

/-! ### One attempt -/

/-- `aiohttp.ClientError` or `asyncio.TimeoutError`. -/
structure TransportFailure where
  message : String

/-- Why `await resp.text()` fails. -/
inductive TextFailure where
  | broken (failure : TransportFailure)
  /-- The bytes are none of the encoding, which raises a `UnicodeDecodeError`, a `ValueError`. -/
  | undecodable

/-- What `await resp.json(content_type=None)` comes to.  An empty body is decoded to null. -/
inductive JsonBody where
  | decoded (payload : Json)
  /-- `json.loads` refuses the body with a `ValueError`: its bytes are no text, the text is no JSON,
      or an integer in it has too many digits. -/
  | undecodable
  | broken (failure : TransportFailure)

/-- A response, as far as `_get` reads it.  The body may still fail while it is read. -/
structure HttpResponse where
  status : Int
  /-- The `Retry-After` header. -/
  retryAfter : Option String
  /-- `await resp.text()`. -/
  text : Except TextFailure String
  json : JsonBody

/-- One `session.get`: a response, or a failure before there is one. -/
inductive Attempt where
  | failed (failure : TransportFailure)
  | responded (resp : HttpResponse)

/-- `AlgorandError(f"transport failure: {exc}", status=None, url=url)`. -/
def transportFailure (url : String) (failure : TransportFailure) : AlgorandError where
  isNotFound := false
  message := s!"transport failure: {failure.message}"
  status := none
  url := url

/-- `AlgorandError(f"HTTP {resp.status}: {body}", status=resp.status, url=url)`, where the body
    is the first 400 characters of the text. -/
def httpError (url : String) (status : Int) (text : String) : AlgorandError where
  isNotFound := false
  message := s!"HTTP {status}: {String.ofList (text.toList.take 400)}"
  status := some status
  url := url

/-- `AlgorandError("unknown upstream failure", url=url)`. -/
def unknownFailure (url : String) : AlgorandError where
  isNotFound := false
  message := "unknown upstream failure"
  status := none
  url := url

/-- What the loop carries from one attempt to the next. -/
structure Carry where
  last : Option AlgorandError
  retryAfter : Option PyFloat

/-- What the body of the `try` may raise. -/
inductive TryRaised where
  | algorand (exc : AlgorandError)
  | transport (failure : TransportFailure)
  | other (exc : PyError)

/-- What the failure raises. -/
def TextFailure.raised : TextFailure → TryRaised
  | .broken failure => .transport failure
  | .undecodable => .other .valueError

/-- What an attempt does to the loop: it ends it, with a payload, an `AlgorandError` or another
    exception, or the loop goes on. -/
inductive Verdict where
  | ended (final : Except PyError (Except AlgorandError Json))
  | again (carry : Carry)

/-- The body of the `try`. -/
def tryBody (path url : String) : Attempt → Except TryRaised Verdict
  | .failed failure => throw (.transport failure)
  | .responded resp =>
    if resp.status = 404 then throw (.algorand (.notFound path url))
    else if resp.status ≥ 400 then do
      let text ← resp.text.mapError TextFailure.raised
      let err := httpError url resp.status text
      if !err.retryable then throw (.algorand err)
      else return .again ⟨some err, parseRetryAfter resp.retryAfter⟩
    else
      match resp.json with
      | .decoded payload => return .ended (.ok (.ok payload))
      | .undecodable => throw (.other .valueError)
      | .broken failure => throw (.transport failure)

/-- The `try` statement: its body, and the `except` clauses. -/
def tryOnce (path url : String) (carry : Carry) (attempt : Attempt) : Verdict :=
  match tryBody path url attempt with
  | .ok verdict => verdict
  | .error (.algorand exc) =>
    if exc.isNotFound then .ended (.ok (.error exc))
    else if !exc.retryable then .ended (.ok (.error exc))
    else .again { carry with last := some exc }
  | .error (.transport failure) => .again { carry with last := some (transportFailure url failure) }
  -- No clause takes a `ValueError`.
  | .error (.other exc) => .ended (.error exc)

/-! ### The loop -/

/-- `random.uniform(0, RETRY_JITTER_S)`. -/
def Jitter := { x : ℚ // 0 ≤ x ∧ x ≤ retryJitter }

/-- The draw of 0. -/
def noJitter : Jitter := ⟨0, by decide +kernel, by decide +kernel⟩

/-- What `_get` asks its environment to do. -/
inductive HttpOp where
  | send (upstream : Upstream) (url : String)
  | jitter
  | sleep (delay : PyFloat)

/-- What each of these gives back. -/
def HttpOp.Answer : HttpOp → Type
  | .send _ _ => Attempt
  | .jitter => Jitter
  | .sleep _ => Unit

/-- A coroutine of the client.  Its errors are what no `except` clause takes. -/
abbrev Coroutine (α : Type) := Program HttpOp.Answer PyError α

/-- `session.get(url)`, up to the reading of the body. -/
def send (upstream : Upstream) (url : String) : Coroutine Attempt :=
  Program.ask (HttpOp.send upstream url)

def jitter : Coroutine Jitter := Program.ask HttpOp.jitter

/-- `asyncio.sleep(delay)`. -/
def sleep (delay : PyFloat) : Coroutine Unit := Program.ask (HttpOp.sleep delay)

/-- The delay after an attempt, counted from 1: what the upstream asked for, or a backoff. -/
def delayAfter (attempt : ℕ) : Option PyFloat → Coroutine PyFloat
  | some seconds => return seconds
  | none => do
    let x ← jitter
    return .fin (retryBackoff * attempt + x.val)

/-- What happens between an attempt and the next one. -/
def pause (attempt : ℕ) (carry : Carry) : Coroutine Carry := do
  if attempt < maxRetries then
    let delay ← delayAfter attempt carry.retryAfter
    sleep delay
    return { carry with retryAfter := none }
  else return carry

/-- The loop: `left` attempts from number `attempt` on. -/
def getLoop (upstream : Upstream) (path url : String) :
    (attempt left : ℕ) → Carry → Coroutine (Except AlgorandError Json)
  | _, 0, carry => return .error (carry.last.getD (unknownFailure url))
  | attempt, left + 1, carry => do
    match tryOnce path url carry (← send upstream url) with
    | .ended final => Program.ofExcept final
    | .again carry => getLoop upstream path url (attempt + 1) left (← pause attempt carry)

/-- The URL of a request. -/
def requestUrl (config : AlgorandConfig) (request : Request) : String :=
  getUrl (config.baseUrl request.upstream) request.path request.params

/-- `AlgorandClient._get`. -/
def get (config : AlgorandConfig) (request : Request) : Coroutine (Except AlgorandError Json) :=
  getLoop request.upstream request.path (requestUrl config request) 1 maxRetries ⟨none, none⟩

/-! ### Scripts -/

/-- What `_get` does that others can see. -/
inductive Event where
  | request (upstream : Upstream) (url : String)
  | sleep (delay : PyFloat)

/-- How the world answers: the attempts of each upstream, counted from 0, and the random
    numbers, which may depend on all that happened. -/
structure Script where
  attempt : Upstream → ℕ → Attempt
  jitter : List Event → Jitter

/-- A request to the upstream. -/
def Event.isRequestTo (upstream : Upstream) : Event → Bool
  | .request asked _ => asked = upstream
  | .sleep _ => false

/-- How many requests the upstream got. -/
def sentTo (upstream : Upstream) (history : List Event) : ℕ :=
  history.countP (Event.isRequestTo upstream)

/-- The environment that answers from a script. -/
def scripted (script : Script) : (op : HttpOp) → List Event → op.Answer × List Event
  | .send upstream url, history =>
    (script.attempt upstream (sentTo upstream history), history ++ [.request upstream url])
  | .jitter, history => (script.jitter history, history)
  | .sleep delay, history => ((), history ++ [.sleep delay])

section

variable {script : Script} {upstream : Upstream} {url : String} {history : List Event} {α : Type}

@[simp] theorem run_send_bind (f : Attempt → Coroutine α) :
    (send upstream url >>= f).run (scripted script) history =
      (f (script.attempt upstream (sentTo upstream history))).run (scripted script)
        (history ++ [.request upstream url]) := rfl

@[simp] theorem run_jitter_bind (f : Jitter → Coroutine α) :
    (jitter >>= f).run (scripted script) history =
      (f (script.jitter history)).run (scripted script) history := rfl

@[simp] theorem run_sleep_bind (delay : PyFloat) (f : Unit → Coroutine α) :
    (sleep delay >>= f).run (scripted script) history =
      (f ()).run (scripted script) (history ++ [.sleep delay]) := rfl

end

/-! ### What an attempt comes to -/

/-- The attempt is followed by another one, if there is room. -/
def Attempt.isRetried : Attempt → Bool
  | .failed _ => true
  | .responded resp =>
    if resp.status = 404 then false
    else if resp.status ≥ 400 then
      match resp.text with
      -- The status of a response whose text breaks is forgotten.
      | .error (.broken _) => true
      | .error .undecodable => false
      | .ok _ => resp.status ≥ 500 || resp.status == 429
    else
      match resp.json with
      | .broken _ => true
      | _ => false

/-- How `_get` ends when the attempt is its last. -/
def Attempt.ending (path url : String) : Attempt → Except PyError (Except AlgorandError Json)
  | .failed failure => .ok (.error (transportFailure url failure))
  | .responded resp =>
    if resp.status = 404 then .ok (.error (.notFound path url))
    else if resp.status ≥ 400 then
      match resp.text with
      | .error (.broken failure) => .ok (.error (transportFailure url failure))
      | .error .undecodable => .error .valueError
      | .ok text => .ok (.error (httpError url resp.status text))
    else
      match resp.json with
      | .decoded payload => .ok (.ok payload)
      | .undecodable => .error .valueError
      | .broken failure => .ok (.error (transportFailure url failure))

/-- The delay that an error response asks for.  A failure of the transport asks for none. -/
def Attempt.askedDelay : Attempt → Option PyFloat
  | .failed _ => none
  | .responded resp =>
    if resp.status ≥ 400 then
      match resp.text with
      | .error _ => none
      | .ok _ => parseRetryAfter resp.retryAfter
    else none

/-- The delay after attempt `k`: the one it asks for, or a backoff. -/
def Attempt.Pause (attempt : Attempt) (k : ℕ) (delay : PyFloat) : Prop :=
  match attempt.askedDelay with
  | some seconds => delay = seconds
  | none => ∃ x : Jitter, delay = .fin (retryBackoff * (k + 1 : ℕ) + x.val)

/-- The ways an attempt may go: no response, a 404, an error response whose text breaks, does not
    decode or is read, and a response whose body is decoded, is no JSON text, or breaks. -/
inductive Attempt.Shape : Attempt → Prop
  | failed (failure : TransportFailure) : Shape (.failed failure)
  | notFound {resp : HttpResponse} (h404 : resp.status = 404) : Shape (.responded resp)
  | unread {resp : HttpResponse} (h404 : resp.status ≠ 404) (h400 : resp.status ≥ 400)
    {failure : TransportFailure} (htext : resp.text = .error (.broken failure)) :
    Shape (.responded resp)
  | garbled {resp : HttpResponse} (h404 : resp.status ≠ 404) (h400 : resp.status ≥ 400)
    (htext : resp.text = .error .undecodable) : Shape (.responded resp)
  | refused {resp : HttpResponse} (h404 : resp.status ≠ 404) (h400 : resp.status ≥ 400)
    {text : String} (htext : resp.text = .ok text) : Shape (.responded resp)
  | decoded {resp : HttpResponse} (h400 : ¬ resp.status ≥ 400) {payload : Json}
    (hjson : resp.json = .decoded payload) : Shape (.responded resp)
  | undecodable {resp : HttpResponse} (h400 : ¬ resp.status ≥ 400)
    (hjson : resp.json = .undecodable) : Shape (.responded resp)
  | broken {resp : HttpResponse} (h400 : ¬ resp.status ≥ 400) {failure : TransportFailure}
    (hjson : resp.json = .broken failure) : Shape (.responded resp)

theorem Attempt.shape (attempt : Attempt) : attempt.Shape := by
  cases attempt with
  | failed failure => exact .failed failure
  | responded resp =>
    by_cases h404 : resp.status = 404
    · exact .notFound h404
    · by_cases h400 : resp.status ≥ 400
      · cases htext : resp.text with
        | error failure =>
          cases failure with
          | broken failure => exact .unread h404 h400 htext
          | undecodable => exact .garbled h404 h400 htext
        | ok text => exact .refused h404 h400 htext
      · cases hjson : resp.json with
        | decoded payload => exact .decoded h400 hjson
        | undecodable => exact .undecodable h400 hjson
        | broken failure => exact .broken h400 hjson

theorem ne_404_of_lt_400 {status : Int} (h400 : ¬ status ≥ 400) : status ≠ 404 := by omega

/-- **One attempt.** It ends the loop, or the loop goes on with the error of this attempt and the
    delay that this attempt asks for. -/
theorem tryOnce_eq (path url : String) (last : Option AlgorandError) (attempt : Attempt) :
    (attempt.isRetried = false ∧
      tryOnce path url ⟨last, none⟩ attempt = .ended (attempt.ending path url)) ∨
    (attempt.isRetried = true ∧ ∃ exc, attempt.ending path url = .ok (.error exc) ∧
      tryOnce path url ⟨last, none⟩ attempt = .again ⟨some exc, attempt.askedDelay⟩) := by
  unfold Attempt.isRetried Attempt.ending Attempt.askedDelay tryOnce tryBody
  cases attempt.shape with
  | failed failure => exact .inr ⟨rfl, _, rfl, rfl⟩
  | notFound h404 =>
    simp only [h404, if_pos]
    exact .inl ⟨trivial, rfl⟩
  | unread h404 h400 htext =>
    simp only [h404, h400, htext, if_pos, if_false]
    exact .inr ⟨trivial, _, rfl, rfl⟩
  | garbled h404 h400 htext =>
    simp only [h404, h400, htext, if_pos, if_false]
    exact .inl ⟨trivial, rfl⟩
  | @refused resp h404 h400 text htext =>
    have hretryable : (httpError url resp.status text).retryable =
        (resp.status ≥ 500 || resp.status == 429) := rfl
    simp only [h404, h400, htext, if_pos, if_false, ← hretryable, Except.mapError, ok_bind]
    cases hr : (httpError url resp.status text).retryable with
    | true => exact .inr ⟨rfl, _, rfl, rfl⟩
    | false =>
      refine .inl ⟨rfl, ?_⟩
      -- The error raised in the body is looked at again in the `except` clause.
      show (if (!(httpError url resp.status text).retryable) = true then _ else _) = _
      rw [hr]
      rfl
  | decoded h400 hjson =>
    simp only [ne_404_of_lt_400 h400, h400, hjson, if_false]
    exact .inl ⟨trivial, rfl⟩
  | undecodable h400 hjson =>
    simp only [ne_404_of_lt_400 h400, h400, hjson, if_false]
    exact .inl ⟨trivial, rfl⟩
  | broken h400 hjson =>
    simp only [ne_404_of_lt_400 h400, h400, hjson, if_false]
    exact .inr ⟨trivial, _, rfl, rfl⟩

/-- What is retried has failed. -/
theorem Attempt.ending_of_isRetried (path url : String) {attempt : Attempt}
    (h : attempt.isRetried = true) : ∃ exc, attempt.ending path url = .ok (.error exc) := by
  rcases tryOnce_eq path url none attempt with ⟨hret, -⟩ | ⟨-, exc, hexc, -⟩
  · rw [h] at hret
    cases hret
  · exact ⟨exc, hexc⟩

/-! ### The whole loop -/

/-- The requests of one `_get`, with the delays between them. -/
def exchange (upstream : Upstream) (url : String) (delays : List PyFloat) : List Event :=
  .request upstream url :: delays.flatMap fun delay => [.sleep delay, .request upstream url]

/-- The attempts of one `_get`, when `attempts` are what its upstream answers. -/
abbrev GetTries (attempts : ℕ → Attempt) : ℕ → List PyFloat → ℕ → Prop :=
  Tries maxRetries (fun k => (attempts k).isRetried) (fun k delay => (attempts k).Pause k delay)

/-- A delay stands between an attempt and the next one, and is used up. -/
theorem run_pause (script : Script) (history : List Event) (attempt : Attempt)
    (last : Option AlgorandError) {k : ℕ} (hk : k + 1 < maxRetries) :
    ∃ delay, attempt.Pause k delay ∧
      (pause (k + 1) ⟨last, attempt.askedDelay⟩).run (scripted script) history =
        (.ok ⟨last, none⟩, history ++ [.sleep delay]) := by
  unfold Attempt.Pause pause
  rw [if_pos hk]
  cases attempt.askedDelay with
  | some seconds => exact ⟨seconds, rfl, rfl⟩
  | none => exact ⟨_, ⟨script.jitter history, rfl⟩, rfl⟩

/-- Nothing is slept after the last attempt. -/
theorem run_pause_last {script : Script} {history : List Event} {attempt : ℕ} {carry : Carry}
    (h : maxRetries ≤ attempt) :
    (pause attempt carry).run (scripted script) history = (.ok carry, history) := by
  unfold pause
  rw [if_neg (by omega)]
  rfl

theorem sentTo_append_request (upstream : Upstream) (url : String) (history : List Event) :
    sentTo upstream (history ++ [.request upstream url]) = sentTo upstream history + 1 := by
  unfold sentTo
  rw [List.countP_append, List.countP_singleton, Event.isRequestTo, decide_eq_true rfl, if_pos rfl]

theorem sentTo_append_sleep (upstream : Upstream) (delay : PyFloat) (history : List Event) :
    sentTo upstream (history ++ [.sleep delay]) = sentTo upstream history := by
  unfold sentTo
  rw [List.countP_append, List.countP_singleton]
  rfl

/-- The loop from attempt `k` on, when no delay is left over from the attempts before. -/
theorem run_getLoop (script : Script) (upstream : Upstream) (path url : String) (left : ℕ) {k : ℕ}
    (last : Option AlgorandError) {history : List Event} (hk : k < maxRetries)
    (hleft : k + left = maxRetries) (hsent : sentTo upstream history = k) :
    ∃ delays n, GetTries (script.attempt upstream) k delays n ∧
      (getLoop upstream path url (k + 1) left ⟨last, none⟩).run (scripted script) history =
        ((script.attempt upstream n).ending path url, history ++ exchange upstream url delays) := by
  induction left generalizing k last history with
  | zero => omega
  | succ left ih =>
    unfold getLoop
    rw [run_send_bind, hsent]
    rcases tryOnce_eq path url last (script.attempt upstream k) with
      ⟨hret, hend⟩ | ⟨hret, exc, hexc, hagain⟩
    · rw [hend]
      refine ⟨[], k, .last hk (.inr (by simp [hret])), rfl⟩
    · rw [hagain]
      rcases Nat.lt_or_ge (k + 1) maxRetries with hlt | hge
      · -- There is room for another attempt, and the delay before it is used up.
        obtain ⟨delay, hpause, hrun⟩ := run_pause script
          (history ++ [.request upstream url]) (script.attempt upstream k) (some exc) hlt
        have hsent' : sentTo upstream (history ++ [.request upstream url] ++ [.sleep delay]) =
            k + 1 := by
          rw [sentTo_append_sleep, sentTo_append_request, hsent]
        obtain ⟨delays, n, htries, hloop⟩ := ih (some exc) hlt (by omega) hsent'
        refine ⟨delay :: delays, n, .again hlt hret hpause htries, ?_⟩
        simp only [Program.run_bind, hrun, hloop]
        simp [exchange]
      · obtain rfl : left = 0 := by omega
        refine ⟨[], k, .last hk (.inl (by omega)), ?_⟩
        simp only [Program.run_bind, run_pause_last hge]
        rw [hexc]
        rfl

/-- **The loop.** The attempts go on to the last one, whose outcome is the outcome of `_get`. -/
theorem run_get (script : Script) (config : AlgorandConfig) (request : Request)
    (history : List Event) (hsent : sentTo request.upstream history = 0) :
    ∃ delays n, GetTries (script.attempt request.upstream) 0 delays n ∧
      (get config request).run (scripted script) history =
        ((script.attempt request.upstream n).ending request.path (requestUrl config request),
          history ++ exchange request.upstream (requestUrl config request) delays) := by
  exact run_getLoop script request.upstream request.path _ maxRetries none (by decide) rfl hsent

end Algorandscout
