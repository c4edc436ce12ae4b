import Algorandscout.Transport
import Algorandscout.Service
import Mathlib.Algebra.Order.BigOperators.Group.List

namespace Algorandscout

open Library

/-!
# The retry policy of the transport

What a caller of `_get` may rely on, whatever its upstream does.

* `runGet`, `runGet_spec` — one `_get` from the start, as its attempts and delays;
* `Attempt.Asks` — the delay that the `Retry-After` header of a response asks for;
* `RetryContract` — how many requests, which outcome, which delays; `retry_contract` when every
  body is readable;
* `RefusalsFinal` — a 4xx is final; `refusalsFinal_iff` says when;
* `BoundedDelay`, `BoundedDelays` — no delay is longer than the cap; `headerBounded_iff` and
  `boundedDelays_iff` say when.
-/

variable {upstream : Upstream} {path url : String} {delays : List PyFloat}

/-! ### What others see of one `_get` -/

/-- One `_get` in the world of a script: its end, and what it did. -/
def runGet (script : Script) (config : AlgorandConfig) (request : Request) :
    Except PyError (Except AlgorandError Json) × List Event :=
  (get config request).run (scripted script) []

/-- **One `_get`**: the attempts up to the last, a delay between each two, and the outcome of the
    last. -/
theorem runGet_spec (script : Script) (config : AlgorandConfig) (request : Request) :
    ∃ delays n, GetTries (script.attempt request.upstream) 0 delays n ∧ delays.length = n ∧
      runGet script config request =
        ((script.attempt request.upstream n).ending request.path (requestUrl config request),
          exchange request.upstream (requestUrl config request) delays) := by
  obtain ⟨delays, n, htries, hrun⟩ := run_get script config request [] rfl
  refine ⟨delays, n, htries, ?_, hrun⟩
  have hlength := htries.length_eq
  omega

/-- The delays slept, in order. -/
def delaysOf (events : List Event) : List PyFloat :=
  events.filterMap fun
    | .sleep delay => some delay
    | .request _ _ => none

@[simp] theorem delaysOf_exchange : delaysOf (exchange upstream url delays) = delays := by
  have hrest : delaysOf (delays.flatMap fun delay => [.sleep delay, .request upstream url]) =
      delays := by
    induction delays with
    | nil => rfl
    | cons delay delays ih => exact congrArg (delay :: ·) ih
  exact hrest

@[simp] theorem sentTo_exchange :
    sentTo upstream (exchange upstream url delays) = delays.length + 1 := by
  have hrest : sentTo upstream
      (delays.flatMap fun delay => [.sleep delay, .request upstream url]) = delays.length := by
    induction delays with
    | nil => rfl
    | cons delay delays ih =>
      rw [List.flatMap_cons, sentTo, List.countP_append, ← sentTo, ← sentTo, ih, List.length_cons,
        Nat.add_comm]
      simp [sentTo, Event.isRequestTo]
  unfold exchange sentTo
  rw [List.countP_cons, ← sentTo, hrest]
  simp [Event.isRequestTo]

/-! ### The contract -/

/-- The bodies that are read of the attempt are readable, and a success has a JSON object. -/
def Attempt.IsReadable : Attempt → Prop
  | .failed _ => True
  | .responded resp =>
    if resp.status ≥ 400 then ∃ text, resp.text = .ok text
    else
      (∃ members, resp.json = .decoded (.obj members)) ∨ ∃ failure, resp.json = .broken failure

/-- A success, or a status that is neither 429 nor 500 and above. -/
def Attempt.IsDecisive : Attempt → Prop
  | .failed _ => False
  | .responded resp =>
    if resp.status ≥ 400 then resp.status ≠ 429 ∧ resp.status < 500
    else ∃ payload, resp.json = .decoded payload

/-- What a `Retry-After` header asks for, by the number that `float` reads its stripped text as: the
    number from 0 on, up to the cap, and NaN.  What is negative, or no number, asks for nothing. -/
inductive AsksFor (header : String) : PyFloat → Prop
  | seconds (q : ℚ) (reads : Text.float (Text.strip header) = .ok (.fin q)) (nonneg : 0 ≤ q) :
    AsksFor header (.fin (min q maxRetryAfter))
  | forever (reads : Text.float (Text.strip header) = .ok .posInf) :
    AsksFor header (.fin maxRetryAfter)
  | nan (reads : Text.float (Text.strip header) = .ok .nan) : AsksFor header .nan

/-- The attempt is an error response that is read, with a header that asks for this delay. -/
def Attempt.Asks (attempt : Attempt) (seconds : PyFloat) : Prop :=
  ∃ resp text header, attempt = .responded resp ∧ resp.status ≥ 400 ∧ resp.text = .ok text ∧
    resp.retryAfter = some header ∧ AsksFor header seconds

/-- The status of an error response; a failure of the transport has none. -/
def Attempt.errorStatus : Attempt → Option Int
  | .failed _ => none
  | .responded resp => if resp.status ≥ 400 then some resp.status else none

/-- What a decisive attempt comes to: its payload, or an error with its status, which is `NotFound`
    for a 404. -/
inductive Attempt.Decides (attempt : Attempt) : Except PyError (Except AlgorandError Json) → Prop
  | payload (resp : HttpResponse) (members : Dict) (responded : attempt = .responded resp)
      (ok : resp.status < 400) (decoded : resp.json = .decoded (.obj members)) :
    Decides attempt (.ok (.ok (.obj members)))
  | refused (exc : AlgorandError) (status : Int) (status_eq : attempt.errorStatus = some status)
      (carried : exc.status = some status) (notFound : exc.isNotFound = true ↔ status = 404) :
    Decides attempt (.ok (.error exc))

/-- The contract of one `_get` whose upstream answers `attempts`: it makes one more request than
    there are delays, and a delay stands between each two of them. -/
structure RetryContract (attempts : ℕ → Attempt) (path url : String) (delays : List PyFloat)
    (final : Except PyError (Except AlgorandError Json)) : Prop where
  /-- At most `MAX_RETRIES` requests are sent. -/
  atMost : delays.length + 1 ≤ maxRetries
  /-- The first decisive attempt is the last one, and its outcome is the result. -/
  decided : ∀ n < maxRetries, (attempts n).IsDecisive → (∀ k < n, ¬ (attempts k).IsDecisive) →
    delays.length + 1 = n + 1 ∧ final = (attempts n).ending path url ∧ (attempts n).Decides final
  /-- Without one, every attempt is made, and the result is the error of the last. -/
  undecided : (∀ n < maxRetries, ¬ (attempts n).IsDecisive) →
    delays.length + 1 = maxRetries ∧
      ∃ exc, (attempts (maxRetries - 1)).ending path url = .ok (.error exc) ∧
        final = .ok (.error exc) ∧ exc.status = (attempts (maxRetries - 1)).errorStatus
  /-- The delay after attempt `k` is the one its own response asks for; when that asks for none, it
      is a backoff. -/
  pauses : ∀ k delay, delays[k]? = some delay → (attempts k).Asks delay ∨
    (∀ seconds, ¬ (attempts k).Asks seconds) ∧ ∃ x : ℚ, delay = .fin x ∧
      retryBackoff * (k + 1 : ℕ) ≤ x ∧ x ≤ retryBackoff * (k + 1 : ℕ) + retryJitter

/-- **What a header is read as.** -/
theorem parseRetryAfter_eq_some_iff {header : String} {delay : PyFloat} :
    parseRetryAfter (some header) = some delay ↔ AsksFor header delay := by
  have hempty : Text.float (Text.strip "") = .error .valueError := by decide +kernel
  unfold parseRetryAfter
  dsimp only
  by_cases hne : header = ""
  · subst hne
    refine iff_of_false (by simp) ?_
    rintro (⟨q, reads, -⟩ | reads | reads)
    all_goals
      rw [hempty] at reads
      cases reads
  rw [if_neg hne]
  cases hfloat : Text.float (Text.strip header) with
  | error e =>
    refine iff_of_false (by simp) ?_
    rintro (⟨q, reads, -⟩ | reads | reads)
    all_goals
      rw [hfloat] at reads
      cases reads
  | ok seconds =>
    cases seconds with
    | nan =>
      constructor
      · rintro h
        obtain rfl := Option.some.inj h
        exact .nan hfloat
      · rintro (⟨q, reads, -⟩ | reads | reads)
        · cases hfloat.symm.trans reads
        · cases hfloat.symm.trans reads
        · rfl
    | negInf =>
      refine iff_of_false nofun ?_
      rintro (⟨q, reads, -⟩ | reads | reads)
      all_goals cases hfloat.symm.trans reads
    | posInf =>
      constructor
      · rintro h
        obtain rfl := Option.some.inj h
        exact .forever hfloat
      · rintro (⟨q, reads, -⟩ | reads | reads)
        · cases hfloat.symm.trans reads
        · rfl
        · cases hfloat.symm.trans reads
    | fin q =>
      -- The cap is the second argument of `min`.
      have hmin : (PyFloat.fin q).min (.fin maxRetryAfter) = .fin (min q maxRetryAfter) := by
        rw [PyFloat.min, PyFloat.lt, min_def]
        by_cases hle : q ≤ maxRetryAfter
        · simp [hle]
        · simp [hle, not_le.mp hle]
      have hlt : (PyFloat.fin q).lt (.fin 0) = decide (q < 0) := rfl
      simp only [hlt, hmin, decide_eq_true_eq]
      constructor
      · intro h
        split_ifs at h with hneg
        obtain rfl := Option.some.inj h
        exact .seconds q hfloat (not_lt.mp hneg)
      · rintro (⟨q', reads, hnonneg⟩ | reads | reads)
        · obtain rfl := PyFloat.fin.inj (Except.ok.inj (hfloat.symm.trans reads))
          rw [if_neg (not_lt.mpr hnonneg)]
        · cases hfloat.symm.trans reads
        · cases hfloat.symm.trans reads

/-- The delay that an attempt is slept after is the one that its header asks for. -/
theorem Attempt.askedDelay_eq_some_iff {attempt : Attempt} {delay : PyFloat} :
    attempt.askedDelay = some delay ↔ attempt.Asks delay := by
  constructor
  · intro h
    unfold askedDelay at h
    cases attempt with
    | failed failure => cases h
    | responded resp =>
      dsimp only at h
      split_ifs at h with h400
      cases htext : resp.text with
      | error failure =>
        rw [htext] at h
        cases h
      | ok text =>
        rw [htext] at h
        cases hheader : resp.retryAfter with
        | none =>
          rw [hheader] at h
          cases h
        | some header =>
          rw [hheader] at h
          exact ⟨resp, text, header, rfl, h400, htext, hheader, parseRetryAfter_eq_some_iff.mp h⟩
  · rintro ⟨resp, text, header, rfl, h400, htext, hheader, hasks⟩
    simp [askedDelay, h400, htext, hheader, parseRetryAfter_eq_some_iff.mpr hasks]

/-- A readable attempt is retried unless it is decisive. -/
theorem Attempt.isRetried_iff {attempt : Attempt} (h : attempt.IsReadable) :
    attempt.isRetried = true ↔ ¬ attempt.IsDecisive := by
  unfold isRetried IsDecisive
  cases attempt.shape with
  | failed failure => simp
  | notFound h404 => simp [h404]
  | unread h404 h400 htext =>
    exfalso
    simp [IsReadable, h400, htext] at h
  | garbled h404 h400 htext =>
    exfalso
    simp [IsReadable, h400, htext] at h
  | refused h404 h400 htext =>
    simp only [h404, h400, htext, if_false, if_true, Bool.or_eq_true, decide_eq_true_eq,
      beq_iff_eq]
    omega
  | decoded h400 hjson => simp [ne_404_of_lt_400 h400, h400, hjson]
  | undecodable h400 hjson =>
    exfalso
    simp [IsReadable, h400, hjson] at h
  | broken h400 hjson => simp [ne_404_of_lt_400 h400, h400, hjson]

/-- What a readable attempt that is decisive comes to. -/
theorem Attempt.decides_ending (path url : String) {attempt : Attempt} (h : attempt.IsReadable)
    (hdecisive : attempt.IsDecisive) : attempt.Decides (attempt.ending path url) := by
  unfold ending
  cases attempt.shape with
  | failed failure => exact hdecisive.elim
  | @notFound resp h404 =>
    simp only [h404, if_pos]
    exact .refused (.notFound path url) 404 (by simp [errorStatus, h404]) rfl (iff_of_true rfl rfl)
  | unread h404 h400 htext =>
    exfalso
    simp [IsReadable, h400, htext] at h
  | garbled h404 h400 htext =>
    exfalso
    simp [IsReadable, h400, htext] at h
  | @refused resp h404 h400 text htext =>
    simp only [h404, h400, htext, if_false, if_true]
    exact .refused (httpError url resp.status text) resp.status (by simp [errorStatus, h400]) rfl
      (iff_of_false Bool.noConfusion h404)
  | @decoded resp h400 payload hjson =>
    simp only [ne_404_of_lt_400 h400, h400, hjson, if_false]
    obtain ⟨members, rfl⟩ : ∃ members, payload = .obj members := by
      simpa [IsReadable, h400, hjson] using h
    exact .payload resp members rfl (not_le.mp h400) hjson
  | undecodable h400 hjson =>
    exfalso
    simp [IsReadable, h400, hjson] at h
  | broken h400 hjson =>
    exfalso
    simp [IsDecisive, h400, hjson] at hdecisive

/-- The error of a readable attempt that is retried has the status of its response, when there was
    one. -/
theorem Attempt.errorStatus_of_ending {path url : String} {attempt : Attempt} {exc : AlgorandError}
    (h : attempt.IsReadable) (hexc : attempt.ending path url = .ok (.error exc)) :
    exc.status = attempt.errorStatus := by
  unfold ending at hexc
  unfold errorStatus
  cases attempt.shape with
  | failed failure =>
    obtain rfl := Except.error.inj (Except.ok.inj hexc)
    rfl
  | notFound h404 =>
    simp only [h404, if_pos] at hexc ⊢
    obtain rfl := Except.error.inj (Except.ok.inj hexc)
    rfl
  | unread h404 h400 htext =>
    exfalso
    simp [IsReadable, h400, htext] at h
  | garbled h404 h400 htext =>
    exfalso
    simp [IsReadable, h400, htext] at h
  | refused h404 h400 htext =>
    simp only [h404, h400, htext, if_false, if_true] at hexc ⊢
    obtain rfl := Except.error.inj (Except.ok.inj hexc)
    rfl
  | decoded h400 hjson =>
    simp only [ne_404_of_lt_400 h400, h400, hjson, if_false] at hexc
    cases Except.ok.inj hexc
  | undecodable h400 hjson =>
    simp only [ne_404_of_lt_400 h400, h400, hjson, if_false] at hexc
    cases hexc
  | broken h400 hjson =>
    simp only [ne_404_of_lt_400 h400, h400, hjson, if_false] at hexc ⊢
    obtain rfl := Except.error.inj (Except.ok.inj hexc)
    rfl

/-- A backoff is in its range. -/
theorem Attempt.Pause.spec {attempt : Attempt} {k : ℕ} {delay : PyFloat}
    (h : attempt.Pause k delay) :
    match attempt.askedDelay with
    | some seconds => delay = seconds
    | none => ∃ x : ℚ, delay = .fin x ∧
        retryBackoff * (k + 1 : ℕ) ≤ x ∧ x ≤ retryBackoff * (k + 1 : ℕ) + retryJitter := by
  unfold Pause at h
  cases hasked : attempt.askedDelay with
  | some seconds =>
    rw [hasked] at h
    exact h
  | none =>
    rw [hasked] at h
    obtain ⟨⟨x, hx0, hx1⟩, rfl⟩ := h
    refine ⟨_, rfl, ?_, ?_⟩
    · exact le_add_of_nonneg_right hx0
    · gcongr

/-- **The retry loop.** -/
theorem retry_contract (script : Script) (config : AlgorandConfig) (request : Request)
    (h : ∀ k, (script.attempt request.upstream k).IsReadable) :
    ∃ delays final,
      runGet script config request =
        (final, exchange request.upstream (requestUrl config request) delays) ∧
      RetryContract (script.attempt request.upstream) request.path (requestUrl config request)
        delays final := by
  obtain ⟨delays, n, htries, hlength, hrun⟩ := runGet_spec script config request
  refine ⟨delays, _, hrun, ?_⟩
  constructor
  case atMost =>
    have := htries.lt_limit
    omega
  case decided =>
    intro m hm hdecisive hfirst
    have hn : n = m := by
      apply htries.eq_of_first hm
      · intro k hk
        exact (Attempt.isRetried_iff (h k)).mpr (hfirst k hk)
      · intro hret
        exact (Attempt.isRetried_iff (h m)).mp hret hdecisive
    rw [hlength, hn]
    exact ⟨rfl, rfl, Attempt.decides_ending _ _ (h m) hdecisive⟩
  case undecided =>
    intro hnone
    have hretried : ∀ k < maxRetries, (script.attempt request.upstream k).isRetried = true := by
      intro k hk
      exact (Attempt.isRetried_iff (h k)).mpr (hnone k hk)
    have hn := htries.eq_of_all hretried
    refine ⟨by omega, ?_⟩
    obtain rfl : n = maxRetries - 1 := by omega
    obtain ⟨exc, hexc⟩ := Attempt.ending_of_isRetried _ _ (hretried _ htries.lt_limit)
    exact ⟨exc, hexc, hexc, Attempt.errorStatus_of_ending (h _) hexc⟩
  case pauses =>
    intro k delay hk
    have hpause := (htries.pause hk).spec
    rw [Nat.zero_add] at hpause
    cases hasked : (script.attempt request.upstream k).askedDelay with
    | some seconds =>
      rw [hasked] at hpause
      exact .inl (Attempt.askedDelay_eq_some_iff.mp (hpause ▸ hasked))
    | none =>
      rw [hasked] at hpause
      refine .inr ⟨?_, hpause⟩
      intro seconds hasks
      rw [Attempt.askedDelay_eq_some_iff.mpr hasks] at hasked
      cases hasked

/-- An overloaded upstream, then a connection that is reset, then an answer. -/
def flakyScript : Script where
  attempt
    | _, 0 => .responded ⟨503, some "2", .ok "overloaded", .undecodable⟩
    | _, 1 => .failed ⟨"connection reset"⟩
    | _, _ => .responded ⟨200, none, .ok "", .decoded (.obj [("round", .int 7)])⟩
  jitter _ := noJitter

/-- The first delay is the one that the header asks for, the second one a backoff. -/
theorem retry_contract_flaky :
    runGet flakyScript mainnetConfig Call.indexerHealth.request =
        (.ok (.ok (.obj [("round", .int 7)])),
          exchange .indexer (requestUrl mainnetConfig Call.indexerHealth.request)
            [.fin 2, .fin (4 / 5)]) ∧
      RetryContract (flakyScript.attempt .indexer) "/health"
        (requestUrl mainnetConfig Call.indexerHealth.request) [.fin 2, .fin (4 / 5)]
        (.ok (.ok (.obj [("round", .int 7)]))) := by
  have hreadable : ∀ k, (flakyScript.attempt .indexer k).IsReadable := by
    intro k
    match k with
    | 0 => exact ⟨_, rfl⟩
    | 1 => trivial
    | _ + 2 => exact .inl ⟨_, rfl⟩
  obtain ⟨delays, final, hrun, hcontract⟩ :=
    retry_contract flakyScript mainnetConfig Call.indexerHealth.request hreadable
  have hdelays : delays = [.fin 2, .fin (4 / 5)] := by
    have hslept : delaysOf (runGet flakyScript mainnetConfig Call.indexerHealth.request).2 =
        [.fin 2, .fin (4 / 5)] := by
      decide +kernel
    rwa [hrun, delaysOf_exchange] at hslept
  have hfirst : ∀ k < 2, ¬ (flakyScript.attempt .indexer k).IsDecisive := by
    intro k hk
    match k with
    | 0 => simp [flakyScript, Attempt.IsDecisive]
    | 1 => exact id
  obtain ⟨-, hfinal, -⟩ := hcontract.decided 2 (by decide) ⟨_, rfl⟩ hfirst
  obtain rfl : final = .ok (.ok (.obj [("round", .int 7)])) := hfinal
  subst hdelays
  exact ⟨hrun, hcontract⟩

/-! ### A 4xx is final -/

/-- Once an attempt has received a 4xx other than 429, no request follows, and the error carries
    that status, so that the service answers with a 4xx. -/
def RefusalsFinal (attempts : ℕ → Attempt) (upstream : Upstream)
    (outcome : Except PyError (Except AlgorandError Json) × List Event) : Prop :=
  ∀ k resp, attempts k = .responded resp → k < sentTo upstream outcome.2 →
    400 ≤ resp.status → resp.status < 500 → resp.status ≠ 429 →
    sentTo upstream outcome.2 = k + 1 ∧
      ∃ exc, outcome.1 = .ok (.error exc) ∧ exc.status = some resp.status ∧
        400 ≤ exc.responseStatus ∧ exc.responseStatus < 500

/-- A 4xx whose text is read, and fails while it is. -/
def Attempt.LosesStatus : Attempt → Prop
  | .failed _ => False
  | .responded resp =>
    400 ≤ resp.status ∧ resp.status < 500 ∧ resp.status ≠ 404 ∧ resp.status ≠ 429 ∧
      ∃ failure, resp.text = .error failure

/-- The attempts that one `_get` makes. -/
abbrev GetReached (attempts : ℕ → Attempt) (k : ℕ) : Prop :=
  Reached maxRetries (fun k => (attempts k).isRetried) k

/-- An error response that is the caller's fault is answered with 400. -/
theorem httpError_responseStatus {url text : String} {status : Int} (h400 : 400 ≤ status)
    (h500 : status < 500) (h429 : status ≠ 429) :
    (httpError url status text).responseStatus = 400 := by
  have hcaller : (httpError url status text).callerError = true := by
    simp [httpError, AlgorandError.callerError, h400, h500, h429]
  have hlimited : (httpError url status text).status ≠ some 429 := by
    simpa [httpError] using h429
  have hplain : (httpError url status text).isNotFound = false := rfl
  unfold AlgorandError.responseStatus
  simp only [hplain, hlimited, hcaller, Bool.false_eq_true, if_false, if_true]

/-- A 4xx that keeps its status ends the loop with an error that carries it. -/
theorem Attempt.ending_of_refusal (path url : String) {resp : HttpResponse}
    (h400 : 400 ≤ resp.status) (h500 : resp.status < 500) (h429 : resp.status ≠ 429)
    (hkeeps : ¬ (Attempt.responded resp).LosesStatus) :
    (Attempt.responded resp).isRetried = false ∧
      ∃ exc, (Attempt.responded resp).ending path url = .ok (.error exc) ∧
        exc.status = some resp.status ∧ 400 ≤ exc.responseStatus ∧ exc.responseStatus < 500 := by
  by_cases h404 : resp.status = 404
  · refine ⟨by simp [isRetried, h404], .notFound path url, by simp [ending, h404], ?_, ?_⟩
    · exact congrArg some h404.symm
    · rw [AlgorandError.notFound_responseStatus]
      decide
  · cases htext : resp.text with
    | error failure => exact absurd ⟨h400, h500, h404, h429, failure, htext⟩ hkeeps
    | ok text =>
      refine ⟨?_, httpError url resp.status text, by simp [ending, h404, h400, htext], rfl, ?_⟩
      · have hlow : ¬ resp.status ≥ 500 := by omega
        simp [isRetried, h404, h400, htext, h429, hlow]
      · rw [httpError_responseStatus h400 h500 h429]
        decide

/-- **When a 4xx is final**: unless its text fails while it is read. -/
theorem refusalsFinal_iff (script : Script) (config : AlgorandConfig) (request : Request) :
    RefusalsFinal (script.attempt request.upstream) request.upstream
        (runGet script config request) ↔
      ∀ k, GetReached (script.attempt request.upstream) k →
        ¬ (script.attempt request.upstream k).LosesStatus := by
  obtain ⟨delays, n, htries, hlength, hrun⟩ := runGet_spec script config request
  unfold RefusalsFinal
  simp only [hrun, sentTo_exchange, hlength]
  constructor
  · intro hfinal k hreached hloses
    have hkn : k ≤ n := htries.reached_iff.mp hreached
    cases hattempt : script.attempt request.upstream k with
    | failed failure =>
      rw [hattempt] at hloses
      exact hloses
    | responded resp =>
      rw [hattempt] at hloses
      obtain ⟨h400, h500, h404, h429, failure, htext⟩ := hloses
      obtain ⟨hn, exc, hexc, hstatus, -⟩ := hfinal k resp hattempt (by omega) h400 h500 h429
      -- What took the place of the error has no status.
      obtain rfl : n = k := by omega
      cases failure with
      | broken failure =>
        simp only [hattempt, Attempt.ending, h404, h400, htext, if_false, if_true] at hexc
        obtain rfl := Except.error.inj (Except.ok.inj hexc)
        cases hstatus
      | undecodable =>
        simp only [hattempt, Attempt.ending, h404, h400, htext, if_false, if_true] at hexc
        cases hexc
  · intro hkeeps k resp hresp hk h400 h500 h429
    have hreached : GetReached (script.attempt request.upstream) k :=
      htries.reached_iff.mpr (by omega)
    have hkeep := hkeeps k hreached
    rw [hresp] at hkeep
    obtain ⟨hret, hending⟩ := Attempt.ending_of_refusal request.path
      (requestUrl config request) h400 h500 h429 hkeep
    have hn : n = k := by
      apply htries.eq_of_first hreached.1 hreached.2
      rw [hresp, hret]
      decide
    rw [hn, hresp]
    exact ⟨rfl, hending⟩

/-- An indexer that refuses the request, and whose connection breaks while it says why. -/
def brokenRefusals : Script where
  attempt _ _ :=
    .responded ⟨400, none, .error (.broken ⟨"payload is not completed"⟩), .undecodable⟩
  jitter _ := noJitter

/-- The request is sent three times, and the error has no status. -/
theorem refusal_retried :
    ¬ RefusalsFinal (brokenRefusals.attempt .indexer) .indexer
      (runGet brokenRefusals mainnetConfig Call.indexerHealth.request) := by
  intro h
  have hsent := (h 0 _ rfl (by decide) (by decide) (by decide) (by decide)).1
  exact absurd hsent (by decide)

/-! ### No delay is longer than the cap -/

/-- A real number between 0 and the cap. -/
def BoundedDelay (delay : PyFloat) : Prop :=
  ∃ q : ℚ, delay = .fin q ∧ 0 ≤ q ∧ q ≤ maxRetryAfter

/-- A header is read as no delay, or as a bounded one. -/
def HeaderBounded (value : Option String) : Prop :=
  parseRetryAfter value = none ∨ ∃ delay, parseRetryAfter value = some delay ∧ BoundedDelay delay

/-- Every delay is bounded, and so is their sum. -/
def BoundedDelays (delays : List PyFloat) : Prop :=
  (∀ delay ∈ delays, BoundedDelay delay) ∧
    ∃ qs : List ℚ, delays = qs.map .fin ∧ qs.sum ≤ 2 * maxRetryAfter

theorem BoundedDelay.ne_nan {delay : PyFloat} (h : BoundedDelay delay) : delay ≠ .nan := by
  obtain ⟨q, rfl, -⟩ := h
  exact PyFloat.noConfusion

/-- The comparison and the `min` let NaN through, and nothing else that is out of bounds. -/
theorem clamp_spec {seconds delay : PyFloat}
    (h : (if seconds.lt (.fin 0) then none else some (seconds.min (.fin maxRetryAfter))) =
      some delay) : seconds = .nan ∧ delay = .nan ∨ seconds ≠ .nan ∧ BoundedDelay delay := by
  cases seconds with
  | nan => exact .inl ⟨rfl, (Option.some.inj h).symm⟩
  | negInf => cases h
  | posInf =>
    obtain rfl := Option.some.inj h
    exact .inr ⟨PyFloat.noConfusion, maxRetryAfter, rfl, by decide +kernel, le_rfl⟩
  | fin q =>
    refine .inr ⟨PyFloat.noConfusion, ?_⟩
    simp only [PyFloat.lt, PyFloat.min, decide_eq_true_eq] at h
    split_ifs at h with hneg hlong
    · obtain rfl := Option.some.inj h
      exact ⟨maxRetryAfter, rfl, by decide +kernel, le_rfl⟩
    · obtain rfl := Option.some.inj h
      exact ⟨q, rfl, not_lt.mp hneg, not_lt.mp hlong⟩

/-- What a header is read as: nothing, NaN when it says so, or a delay within the bounds. -/
theorem parseRetryAfter_spec {text : String} {delay : PyFloat}
    (h : parseRetryAfter (some text) = some delay) :
    Text.NamesNan text ∧ delay = .nan ∨ ¬ Text.NamesNan text ∧ BoundedDelay delay := by
  have hstrip : Text.NamesNan (Text.strip text) ↔ Text.NamesNan text := by
    unfold Text.NamesNan
    rw [Text.toList_strip, Text.stripChars_stripChars]
  unfold parseRetryAfter at h
  dsimp only at h
  split_ifs at h with hempty
  cases hfloat : Text.float (Text.strip text) with
  | error e =>
    rw [hfloat] at h
    cases h
  | ok seconds =>
    rw [hfloat] at h
    have hnan : seconds = .nan ↔ Text.NamesNan text := by
      rw [← hstrip, ← Text.float_eq_nan_iff, hfloat, Except.ok.injEq]
    rw [← hnan]
    exact clamp_spec h

/-- A header that names NaN is read as NaN. -/
theorem parseRetryAfter_of_namesNan {text : String} (h : Text.NamesNan text) :
    parseRetryAfter (some text) = some .nan := by
  have hne : text ≠ "" := by
    rintro rfl
    exact absurd h (by unfold Text.NamesNan; decide)
  have hfloat : Text.float (Text.strip text) = .ok .nan := by
    rw [Text.float_eq_nan_iff]
    unfold Text.NamesNan at h ⊢
    rwa [Text.toList_strip, Text.stripChars_stripChars]
  simp only [parseRetryAfter, hne, if_false, hfloat]
  rfl

/-- **The headers that are bounded**: all but the ones that name NaN. -/
theorem headerBounded_iff (value : Option String) :
    HeaderBounded value ↔ ∀ text, value = some text → ¬ Text.NamesNan text := by
  constructor
  · rintro hbounded text rfl hnan
    rcases hbounded with hnone | ⟨delay, hdelay, hin⟩
    · rw [parseRetryAfter_of_namesNan hnan] at hnone
      cases hnone
    · rw [parseRetryAfter_of_namesNan hnan] at hdelay
      exact hin.ne_nan (Option.some.inj hdelay).symm
  · intro h
    cases value with
    | none => exact .inl rfl
    | some text =>
      cases hparse : parseRetryAfter (some text) with
      | none => exact .inl hparse
      | some delay =>
        rcases parseRetryAfter_spec hparse with ⟨hnan, -⟩ | ⟨-, hin⟩
        · exact absurd hnan (h text rfl)
        · exact .inr ⟨delay, hparse, hin⟩

/-- An error response that is read, and whose header names NaN. -/
def Attempt.AsksNan : Attempt → Prop
  | .failed _ => False
  | .responded resp =>
    resp.status ≥ 400 ∧ (∃ text, resp.text = .ok text) ∧
      ∃ header, resp.retryAfter = some header ∧ Text.NamesNan header

theorem Attempt.askedDelay_of_asksNan {attempt : Attempt} (h : attempt.AsksNan) :
    attempt.askedDelay = some .nan := by
  cases attempt with
  | failed failure => exact h.elim
  | responded resp =>
    obtain ⟨h400, ⟨text, htext⟩, header, hheader, hnan⟩ := h
    simp [askedDelay, h400, htext, hheader, parseRetryAfter_of_namesNan hnan]

/-- An attempt asks for NaN, or for a delay within the bounds. -/
theorem Attempt.askedDelay_spec {attempt : Attempt} {delay : PyFloat}
    (h : attempt.askedDelay = some delay) (hasks : ¬ attempt.AsksNan) : BoundedDelay delay := by
  unfold askedDelay at h
  cases attempt with
  | failed failure => cases h
  | responded resp =>
    dsimp only at h
    split_ifs at h with h400
    cases htext : resp.text with
    | error failure =>
      rw [htext] at h
      cases h
    | ok text =>
      rw [htext] at h
      cases hheader : resp.retryAfter with
      | none =>
        rw [hheader] at h
        cases h
      | some header =>
        rw [hheader] at h
        rcases parseRetryAfter_spec h with ⟨hnan, -⟩ | ⟨-, hin⟩
        · exact absurd ⟨h400, ⟨text, htext⟩, header, hheader, hnan⟩ hasks
        · exact hin

/-- The delay after an attempt that is not the last is bounded, unless the attempt asks for
    NaN. -/
theorem Attempt.Pause.bounded {attempt : Attempt} {k : ℕ} {delay : PyFloat}
    (hpause : attempt.Pause k delay) (hk : k + 1 < maxRetries) (hasks : ¬ attempt.AsksNan) :
    BoundedDelay delay := by
  have hspec := hpause.spec
  cases hasked : attempt.askedDelay with
  | some seconds =>
    rw [hasked] at hspec
    exact hspec ▸ Attempt.askedDelay_spec hasked hasks
  | none =>
    rw [hasked] at hspec
    obtain ⟨x, rfl, hlow, hhigh⟩ := hspec
    have hk' : ((k + 1 : ℕ) : ℚ) ≤ 3 := by exact_mod_cast hk.le
    have hk0 : (0 : ℚ) ≤ (k + 1 : ℕ) := Nat.cast_nonneg _
    unfold retryBackoff retryJitter at *
    refine ⟨x, rfl, by linarith, ?_⟩
    show x ≤ 10
    linarith

/-- Bounded delays are numbers. -/
theorem exists_eq_map_fin {delays : List PyFloat} (h : ∀ delay ∈ delays, BoundedDelay delay) :
    ∃ qs : List ℚ, delays = qs.map .fin ∧ ∀ q ∈ qs, q ≤ maxRetryAfter := by
  induction delays with
  | nil => exact ⟨[], rfl, by simp⟩
  | cons delay delays ih =>
    rw [List.forall_mem_cons] at h
    obtain ⟨⟨q, rfl, -, hq⟩, hrest⟩ := h
    obtain ⟨qs, rfl, hqs⟩ := ih hrest
    exact ⟨q :: qs, rfl, List.forall_mem_cons.mpr ⟨hq, hqs⟩⟩

/-- At most two bounded delays have a bounded sum. -/
theorem boundedDelays_of_forall {delays : List PyFloat} (hlength : delays.length ≤ 2)
    (h : ∀ delay ∈ delays, BoundedDelay delay) : BoundedDelays delays := by
  obtain ⟨qs, rfl, hqs⟩ := exists_eq_map_fin h
  rw [List.length_map] at hlength
  refine ⟨h, qs, rfl, ?_⟩
  calc qs.sum ≤ qs.length • maxRetryAfter := List.sum_le_card_nsmul qs maxRetryAfter hqs
    _ ≤ 2 • maxRetryAfter := nsmul_le_nsmul_left (by decide +kernel) hlength
    _ = 2 * maxRetryAfter := by rw [two_nsmul, two_mul]

/-- **When every delay is bounded**: unless an attempt that is slept after asks for NaN. -/
theorem boundedDelays_iff (script : Script) (config : AlgorandConfig) (request : Request) :
    BoundedDelays (delaysOf (runGet script config request).2) ↔
      ∀ k, GetReached (script.attempt request.upstream) (k + 1) →
        ¬ (script.attempt request.upstream k).AsksNan := by
  obtain ⟨delays, n, htries, hlength, hrun⟩ := runGet_spec script config request
  have htwo : delays.length ≤ 2 := by
    have hlt : n < 3 := htries.lt_limit
    omega
  rw [hrun, delaysOf_exchange]
  constructor
  · rintro ⟨hbounded, -⟩ k hreached hasks
    obtain ⟨delay, hmem, hpause⟩ := htries.exists_pause hreached
    have hnan := hpause.spec
    rw [Attempt.askedDelay_of_asksNan hasks] at hnan
    exact (hbounded delay hmem).ne_nan hnan
  · intro hnone
    apply boundedDelays_of_forall htwo
    intro delay hmem
    obtain ⟨k, hreached, hpause⟩ := htries.pause_of_mem hmem
    exact hpause.bounded hreached.1 (hnone k hreached)

/-- **No delay is longer than the cap**: neither the one a header is read as, nor the ones that are
    slept, as long as no header names NaN. -/
theorem retryDelays_iff (value : Option String) (script : Script) (config : AlgorandConfig)
    (request : Request) :
    (HeaderBounded value ↔ ∀ text, value = some text → ¬ Text.NamesNan text) ∧
      (BoundedDelays (delaysOf (runGet script config request).2) ↔
        ∀ k, GetReached (script.attempt request.upstream) (k + 1) →
          ¬ (script.attempt request.upstream k).AsksNan) :=
  ⟨headerBounded_iff value, boundedDelays_iff script config request⟩

/-- An upstream that is overloaded for good, and asks for NaN. -/
def nanRefusals : Script where
  attempt _ _ := .responded ⟨429, some "nan", .ok "slow down", .undecodable⟩
  jitter _ := noJitter

/-- The header is read as NaN, and NaN is slept. -/
theorem nan_delay_unbounded :
    ¬ HeaderBounded (some "nan") ∧
      ¬ BoundedDelays
        (delaysOf (runGet nanRefusals mainnetConfig Call.indexerHealth.request).2) := by
  have hparse : parseRetryAfter (some "nan") = some .nan := by decide +kernel
  constructor
  · rintro (hnone | ⟨delay, hdelay, hin⟩)
    · rw [hparse] at hnone
      cases hnone
    · rw [hparse] at hdelay
      exact hin.ne_nan (Option.some.inj hdelay).symm
  · rintro ⟨hbounded, -⟩
    apply (hbounded .nan ?_).ne_nan rfl
    have hdelays : delaysOf (runGet nanRefusals mainnetConfig Call.indexerHealth.request).2 =
        [.nan, .nan] := by
      decide +kernel
    rw [hdelays]
    exact List.mem_cons_self

end Algorandscout
