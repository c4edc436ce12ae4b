import Algorandscout.Library.Layers
import Algorandscout.Stack
import Algorandscout.Staleness

namespace Algorandscout

open Library Library.Program

/-!
# The service over the transport

Requests that run at the same time, down to their `session.get` attempts: between two attempts of
one `_get` the loop may take turns with any other request.

* `network` — the explorer routes on the event loop, with `_get` in the place of their calls;
* `network_layered` — it is the service of the routes, implemented;
* `Received` — a response to the request of a call, and what `_get` makes of it;
* `network_refines_service` — every run over the transport is one of the service, each of whose
  calls is answered when the last response to it comes, with what that response says;
* `network_response_within_ttl` — so no response is made from an upstream's older than the TTL.
-/

/-! ### The service, down to HTTP -/

/-- Attempts and delays are awaited.  A jitter is drawn at once, but its answer is from outside
    too, and that others may run before it only adds runs. -/
def StackOp.awaited : StackOp → Bool
  | .http _ => true
  | .cacheGet _ _ => false
  | .cacheSet _ _ _ => false

/-- What is answered at once. -/
def stackAtOnce (now : ℚ) : (op : StackOp) → TTLCache Json → op.Answer × TTLCache Json
  -- These are awaited, so that nothing asks for the answers here.
  | .http (.send _ _), cache => (Attempt.responded ⟨404, none, .ok "", .undecodable⟩, cache)
  | .http .jitter, cache => (noJitter, cache)
  | .http (.sleep _), cache => ((), cache)
  | .cacheGet kind key, cache => cache.get now kind key
  | .cacheSet kind key value, cache => ((), cache.set now kind key value)

/-- The explorer routes on the event loop, over the transport. -/
def network (sha512_256 : List UInt8 → Digest) (keyText : KeyText) (config : AlgorandConfig) :
    System StackOp.Answer ServiceError ApiResponse (TTLCache Json) ℚ ApiRequest where
  program request := stack config (respond sha512_256 keyText config request)
  awaited := StackOp.awaited
  env := stackAtOnce

/-- The states that it can be in after some events, from an empty cache. -/
def NetworkRun (sha512_256 : List UInt8 → Digest) (keyText : KeyText) (config : AlgorandConfig)
    (maxEntries : ℕ) (events : List (ℚ × LoopEvent StackOp.Answer ApiRequest))
    (l : EventLoop StackOp.Answer ServiceError ApiResponse (TTLCache Json) ℚ ApiRequest) : Prop :=
  runFrom (network sha512_256 keyText config).step (System.init (TTLCache.new maxEntries) 0)
    events = some l

variable {sha512_256 : List UInt8 → Digest} {keyText : KeyText} {config : AlgorandConfig}

/-- **The service is implemented**: a call by `_get`, which only awaits, and the cache by itself. -/
theorem network_layered : Layered (service sha512_256 keyText config)
    (network sha512_256 keyText config) (perform config) id where
  program _ := rfl
  awaits op hop := by
    cases op with
    | upstream call =>
      have hhttp : ∀ op, (overHttp op).Awaits StackOp.awaited := fun _ => ⟨rfl, fun _ => trivial⟩
      exact Awaits.handle hhttp _
    | cacheGet kind key => cases hop
    | cacheSet kind key value => cases hop
  starts op hop := by
    cases op with
    | upstream call => exact ⟨_, _, rfl⟩
    | cacheGet kind key => cases hop
    | cacheSet kind key value => cases hop
  at_once op now cache hop := by
    cases op with
    | upstream call => cases hop
    | cacheGet kind key => exact ⟨_, rfl⟩
    | cacheSet kind key value => exact ⟨_, rfl⟩

instance (op : Op) : Nonempty op.Answer := by
  cases op with
  | upstream call => exact ⟨(.ok .null : Outcome)⟩
  | cacheGet kind key => exact ⟨(none : Option Json)⟩
  | cacheSet kind key value => exact ⟨()⟩

/-! ### Responses to the requests of a call -/

/-- The log of a task over the transport. -/
abbrev NetworkLog := List (ℚ × Entry StackOp.Answer)

/-- At time `t` came the response, or the failure, of an attempt for the call, after which `_get`
    ended so. -/
def Received (config : AlgorandConfig) (log : NetworkLog) (t : ℚ) (call : Call)
    (ending : Except PyError Outcome) : Prop :=
  ∃ attempt : Attempt,
    (t, ⟨.http (.send call.request.upstream (requestUrl config call.request)), attempt⟩) ∈ log ∧
      attempt.ending call.request.path (requestUrl config call.request) = ending

theorem Received.mono {log log' : NetworkLog} {t : ℚ} {call : Call}
    {ending : Except PyError Outcome} (h : Received config log t call ending)
    (hsub : log ⊆ log') : Received config log' t call ending := by
  obtain ⟨attempt, hmem, hending⟩ := h
  exact ⟨attempt, hsub hmem, hending⟩

/-- A `_get` that is over ended with the last response to it. -/
theorem received_of_course {first : NetworkLog} {call : Call} {result : Except ServiceError Outcome}
    (h : Course (perform config (.upstream call)) (first.map Prod.snd) result) :
    ∃ last ending, first.getLast? = some last ∧ Received config first last.1 call ending ∧
      result = ending.mapError .unhandled := by
  obtain ⟨x, rfl, -, hlast, hresult⟩ := course_perform_upstream h
  rw [List.getLast?_map] at hlast
  obtain ⟨⟨t, entry⟩, hfirst, rfl⟩ := Option.map_eq_some_iff.mp hlast
  exact ⟨_, x.ending config, hfirst, ⟨x.final, List.mem_of_getLast? hfirst, rfl⟩, hresult⟩

/-- A call of the service was answered when the last response to it came. -/
theorem received_of_timed {log : List (ℚ × Entry Op.Answer)} {log' : NetworkLog}
    (h : Layered.Timed (perform config) log log') {t : ℚ} {call : Call} {outcome : Outcome}
    (hmem : (t, (⟨.upstream call, outcome⟩ : Entry Op.Answer)) ∈ log) :
    Received config log' t call (.ok outcome) := by
  induction h with
  | nil => cases hmem
  | @snoc log log' first op answer t' earlier performed ends ih =>
    rcases List.mem_append.mp hmem with hold | hnew
    · exact (ih hold).mono (List.subset_append_left _ _)
    · cases List.mem_singleton.mp hnew
      obtain ⟨last, ending, hlast, hreceived, hresult⟩ := received_of_course performed
      obtain rfl := ends last hlast
      cases ending with
      | error e => cases hresult
      | ok outcome' =>
        obtain rfl := Except.ok.inj hresult
        exact hreceived.mono (List.subset_append_right _ _)

/-! ### Over the transport and above it -/

/-- A task of the service, and the same task over the transport. -/
structure TaskShown (config : AlgorandConfig)
    (task : LoopTask Op.Answer ServiceError ApiResponse ℚ ApiRequest)
    (task' : LoopTask StackOp.Answer ServiceError ApiResponse ℚ ApiRequest) : Prop where
  request : task'.request = task.request
  startedAt : task'.startedAt = task.startedAt
  /-- What its calls were answered with came in a response of that time. -/
  calls : ∀ t call outcome, (t, (⟨.upstream call, outcome⟩ : Entry Op.Answer)) ∈ task.log →
    Received config task'.log t call (.ok outcome)
  nothing : task.log = [] → (∃ result, task.rest = .done result) → task'.log = []
  /-- It ends as above, or in an exception of the call that it is in. -/
  ended : ∀ result, task'.rest = .done result → task.rest = .done result ∨
    ∃ t call next e, task.rest = .perform (.upstream call) next ∧
      result = .error (.unhandled e) ∧ Received config task'.log t call (.error e)

theorem TaskShown.of_taskSim {task : LoopTask Op.Answer ServiceError ApiResponse ℚ ApiRequest}
    {task' : LoopTask StackOp.Answer ServiceError ApiResponse ℚ ApiRequest}
    (h : Layered.TaskSim (service sha512_256 keyText config) (perform config) id task task') :
    TaskShown config task task' := by
  obtain ⟨settled, first, hlog, htimed, hat⟩ := h.progress
  refine ⟨h.request, h.startedAt, fun t call outcome hmem => ?_, ?_, ?_⟩
  · rw [hlog]
    exact (received_of_timed htimed hmem).mono (List.subset_append_left _ _)
  · rintro hnone ⟨result, hdone⟩
    rw [hlog, htimed.eq_nil hnone, List.map_eq_nil_iff.mp (hat.eq_nil_of_done hdone)]
    rfl
  · intro result hdone
    rcases hat.done_cases hdone with
      ⟨result', hrest, rfl⟩ | ⟨op, next, e, awaited, hrest, rfl, failed⟩
    · refine .inl (hrest.trans ?_)
      cases result' <;> rfl
    · cases op with
      | cacheGet kind key => cases awaited
      | cacheSet kind key value => cases awaited
      | upstream call =>
        obtain ⟨last, ending, -, hreceived, hresult⟩ := received_of_course failed
        cases ending with
        | ok outcome => cases hresult
        | error raised =>
          obtain rfl := Except.error.inj hresult
          refine .inr ⟨last.1, call, next, raised, hrest, rfl, ?_⟩
          rw [hlog]
          exact hreceived.mono (List.subset_append_right _ _)

/-- The tasks of the two, one by one. -/
theorem shown_of_sim
    {l : EventLoop Op.Answer ServiceError ApiResponse (TTLCache Json) ℚ ApiRequest}
    {l' : EventLoop StackOp.Answer ServiceError ApiResponse (TTLCache Json) ℚ ApiRequest}
    (hsim : Layered.Sim (service sha512_256 keyText config) (perform config) id l l') (i : ℕ) :
    Option.Rel (TaskShown config) (l.tasks i) (l'.tasks i) := by
  have hrel := hsim.tasks i
  generalize l.tasks i = above at hrel ⊢
  generalize l'.tasks i = below at hrel ⊢
  cases hrel with
  | none => exact .none
  | some h => exact .some (.of_taskSim h)

/-- **The network refines the service.**  Whatever requests run at the same time, and however the
    loop takes turns between their attempts, delays and cache accesses, there is a run of the
    service with the same cache and the same requests, each of whose calls was answered at the time
    of the last response to it with what `_get` makes of that response; a request ends as it does
    there, or in an exception that `_get` let through. -/
theorem network_refines_service {maxEntries : ℕ}
    {events' : List (ℚ × LoopEvent StackOp.Answer ApiRequest)}
    {l' : EventLoop StackOp.Answer ServiceError ApiResponse (TTLCache Json) ℚ ApiRequest}
    (hrun : NetworkRun sha512_256 keyText config maxEntries events' l') :
    ∃ events l, ServiceRun sha512_256 keyText config maxEntries events l ∧
      l'.shared = l.shared ∧ l.clock ≤ l'.clock ∧
      ∀ i, Option.Rel (TaskShown config) (l.tasks i) (l'.tasks i) := by
  obtain ⟨events, l, hservice, hsim⟩ := network_layered.run hrun
  exact ⟨events, l, hservice, hsim.shared, hsim.clock, shown_of_sim hsim⟩

/-! ### Responses over the transport -/

/-- What the response to a request through the cache is made from, down to HTTP. -/
inductive Sourced (config : AlgorandConfig)
    (l : EventLoop StackOp.Answer ServiceError ApiResponse (TTLCache Json) ℚ ApiRequest)
    (task : LoopTask StackOp.Answer ServiceError ApiResponse ℚ ApiRequest) (kind : String)
    (call : Call) (response : Json → Except ServiceError ApiResponse) :
    Except ServiceError ApiResponse → Prop
  /-- The identifier is malformed, and nothing was sent. -/
  | refused (e : Raised) (nothing : task.log = []) :
    Sourced config l task kind call response (.error (.validation e))
  /-- The request's own `_get` failed. -/
  | failed (t : ℚ) (exc : AlgorandError) (since : task.startedAt ≤ t)
      (received : Received config task.log t call (.ok (.error exc))) :
    Sourced config l task kind call response (.error (.algorand exc))
  /-- The request's own `_get` let an exception through. -/
  | escaped (t : ℚ) (e : PyError) (since : task.startedAt ≤ t)
      (received : Received config task.log t call (.error e)) :
    Sourced config l task kind call response (.error (.unhandled e))
  /-- A response to this request, or to one before it, held the payload. -/
  | answered (ttl t : ℚ) (payload : Json) (source : ℕ)
      (asker : LoopTask StackOp.Answer ServiceError ApiResponse ℚ ApiRequest)
      (ttl_eq : ttlSeconds kind = some ttl) (since : task.startedAt - ttl ≤ t)
      (until_now : t ≤ l.clock) (asked : l.tasks source = some asker)
      (received : Received config asker.log t call (.ok (.ok payload))) :
    Sourced config l task kind call response (response payload)

variable {kind key : String} {call : Call} {response : Json → Except ServiceError ApiResponse}

/-- A request through the cache makes no call but its own. -/
theorem Cached.call_eq {request : ApiRequest} (h : Cached keyText request kind key call response)
    {log : RouteLog} {asked : Call} {next : Outcome → Route ApiResponse}
    (hreaches : Reaches (respond sha512_256 keyText config request) log
      (.perform (.upstream asked) next)) : asked = call := by
  obtain ⟨rest, result, hcourse⟩ := exists_course_of_cut hreaches ⟨false, "", none, ""⟩
  have hmem : (asked, (.error ⟨false, "", none, ""⟩ : Outcome)) ∈ callsOf
      (log ++ ⟨.upstream asked, (.error ⟨false, "", none, ""⟩ : Outcome)⟩ :: rest) := by
    rw [callsOf_append, callsOf_upstream]
    exact List.mem_append_right _ List.mem_cons_self
  rcases h.fetched hcourse with ⟨_, hnone, -⟩ | ⟨fetched, hfetched, -⟩
  · simp at hnone
  · generalize (log ++ ⟨.upstream asked, (.error ⟨false, "", none, ""⟩ : Outcome)⟩ :: rest :
      RouteLog) = whole at hmem hfetched
    cases hfetched with
    | hit value => cases hmem
    | failed exc =>
      cases List.mem_singleton.mp hmem
      rfl
    | stored payload =>
      cases List.mem_singleton.mp hmem

/-- **No response is older than the TTL, down to HTTP.**  However the loop takes turns between the
    attempts of the requests that run at the same time, a response through the cache is made from
    the body that a `session.get` of the call's own URL gave, no longer than the TTL of its kind
    before the request; an error is that of an exchange of the request itself. -/
theorem network_response_within_ttl {maxEntries : ℕ}
    {events : List (ℚ × LoopEvent StackOp.Answer ApiRequest)}
    {l : EventLoop StackOp.Answer ServiceError ApiResponse (TTLCache Json) ℚ ApiRequest}
    (hrun : NetworkRun sha512_256 keyText config maxEntries events l) {i : ℕ}
    {task : LoopTask StackOp.Answer ServiceError ApiResponse ℚ ApiRequest}
    (htask : l.tasks i = some task) (hcached : Cached keyText task.request kind key call response)
    {result : Except ServiceError ApiResponse} (hdone : task.rest = .done result) :
    Sourced config l task kind call response result := by
  obtain ⟨events', above, hservice, hsim⟩ := network_layered.run hrun
  -- The task of the service that this one is.
  have hfind : ∀ j found, above.tasks j = some found →
      ∃ shown, l.tasks j = some shown ∧ TaskShown config found shown := by
    intro j found hfound
    have hrel := shown_of_sim hsim j
    rw [hfound] at hrel
    generalize l.tasks j = below at hrel ⊢
    cases hrel with
    | some h => exact ⟨_, rfl, h⟩
  obtain ⟨taskAbove, habove, hshown⟩ : ∃ taskAbove, above.tasks i = some taskAbove ∧
      TaskShown config taskAbove task := by
    have hrel := shown_of_sim hsim i
    rw [htask] at hrel
    generalize above.tasks i = found at hrel ⊢
    cases hrel with
    | some h => exact ⟨_, rfl, h⟩
  rw [hshown.request] at hcached
  have hsince : ∀ {t : ℚ} {ending : Except PyError Outcome},
      Received config task.log t call ending → task.startedAt ≤ t := by
    rintro t ending ⟨attempt, hmem, -⟩
    exact ((System.taskInv_of_run hrun i task htask).times _ hmem).1
  rcases hshown.ended result hdone with hrest | ⟨t, asked, next, e, hrest, rfl, hreceived⟩
  · cases accounted_of_inv (loopInv_of_run hservice) habove hcached hrest with
    | refused e nothing => exact .refused e (hshown.nothing nothing ⟨_, hrest⟩)
    | failed t exc _ hasked =>
      have hreceived := hshown.calls t call (.error exc) hasked
      exact .failed t exc (hsince hreceived) hreceived
    | answered ttl t payload httl since until_now hasked =>
      obtain ⟨j, asker, hasker, hmem⟩ := hasked
      obtain ⟨shown, hj, hshows⟩ := hfind j asker hasker
      rw [← hshown.startedAt] at since
      exact .answered ttl t payload j shown httl since (until_now.trans hsim.clock) hj
        (hshows.calls t call (.ok payload) hmem)
  · have hreaches := (System.taskInv_of_run hservice i taskAbove habove).reaches
    rw [hrest] at hreaches
    obtain rfl := hcached.call_eq hreaches
    exact .escaped t e (hsince hreceived) hreceived

/-- Block 7 is asked for at the time 0.  The first attempt fails, block 8 is asked for during the
    delay, and the second attempt succeeds at the time 3; block 7 is asked for again at the time
    10. -/
def retriedRead : List (ℚ × LoopEvent StackOp.Answer ApiRequest) :=
  let answering (attempt : Attempt) : (op : StackOp) → op.Answer
    | .http (.send _ _) => attempt
    | .http .jitter => noJitter
    | .http (.sleep _) => ()
    | .cacheGet _ _ => (none : Option Json)
    | .cacheSet _ _ _ => ()
  let failing := answering (.failed ⟨"connection reset"⟩)
  let found := answering (.responded ⟨200, none, .ok "", .decoded (.obj [("round", .int 7)])⟩)
  [(10, .start 1 (.block 7 false)), (3, .resume 0 found), (2, .resume 0 failing),
    (1, .start 2 (.block 8 false)), (1, .resume 0 failing), (1, .resume 0 failing),
    (0, .start 0 (.block 7 false))]

theorem network_refines_service_retriedRead : ∃ l',
    NetworkRun (fun _ => ⟨List.replicate 32 0, rfl⟩) (fun _ => none) mainnetConfig 2048
      retriedRead l' ∧
    ∃ events l, ServiceRun (fun _ => ⟨List.replicate 32 0, rfl⟩) (fun _ => none) mainnetConfig 2048
      events l ∧ l'.shared = l.shared ∧ l.clock ≤ l'.clock ∧
      ∀ i, Option.Rel (TaskShown mainnetConfig) (l.tasks i) (l'.tasks i) := by
  obtain ⟨l', hl⟩ : ∃ l', NetworkRun (fun _ => ⟨List.replicate 32 0, rfl⟩) (fun _ => none)
      mainnetConfig 2048 retriedRead l' := ⟨_, rfl⟩
  exact ⟨l', hl, network_refines_service hl⟩

theorem network_response_within_ttl_retriedRead :
    ∃ l task response, NetworkRun (fun _ => ⟨List.replicate 32 0, rfl⟩) (fun _ => none)
      mainnetConfig 2048 retriedRead l ∧ l.tasks 1 = some task ∧
      task.rest = .done (response (.obj [("round", .int 7)])) ∧
      Sourced mainnetConfig l task "block" (.block (.int 7)) response
        (response (.obj [("round", .int 7)])) := by
  let response : Json → Except ServiceError ApiResponse := fun payload =>
    (mapping (mapBlock payload false)).map .block
  obtain ⟨l, hl⟩ : ∃ l, NetworkRun (fun _ => ⟨List.replicate 32 0, rfl⟩) (fun _ => none)
      mainnetConfig 2048 retriedRead l := ⟨_, rfl⟩
  have hrest : ∃ task, l.tasks 1 = some task ∧ task.request = .block 7 false ∧
      task.rest = .done (response (.obj [("round", .int 7)])) := by
    obtain rfl := Option.some.inj hl
    refine ⟨_, rfl, rfl, ?_⟩
    -- The second read finds the block in the cache.
    with_unfolding_all rfl
  obtain ⟨task, htask, hrequest, hdone⟩ := hrest
  have hcached : Cached (fun _ => none) task.request "block" (toString (7 : Int))
      (.block (.int 7)) response := by
    rw [hrequest]
    exact .block 7 false
  exact ⟨l, task, response, hl, htask, hdone, network_response_within_ttl hl htask hcached hdone⟩

end Algorandscout
