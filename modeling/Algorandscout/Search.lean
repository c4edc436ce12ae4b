import Algorandscout.Service

namespace Algorandscout

open Library

/-!
# Search

The search route, over every outcome of the calls it makes.

* `search` — the route, with its four branches;
* `recording` — an environment that answers each call in one way and keeps a log of the calls;
* `OutageReported` — an upstream failure is not presented as absence;
* `SwallowsFailure` — a query that names one thing, found nowhere, with a failed call among those
  that asked for it;
* `search_reports_outage_iff` — the outage is reported exactly in the other cases;
* `outage_presented_as_absence` — a query for which it is not.
-/

/-- The outcome of an upstream call. -/
abbrev Outcome := Except AlgorandError Json

/-! ### The route -/

/-- One search result: its `type` and its `data`. -/
inductive SearchItem where
  | address (data : MappedAccount)
  | transaction (data : MappedTransaction)
  | token (data : MappedAsset)
  | smartContract (data : MappedApplication)

structure SearchResponse where
  items : List SearchItem
  note : String

def candidatesNote : String :=
  "Asset name/unit matches are candidates, not identities. Resolve by asset ID."

def outOfRangeNote : String :=
  "numeric term exceeds uint64 range; cannot match an asset or app id."

/-- `try: results.append(mapper(await fetch(…))) except AlgorandError: pass`. -/
def probe (call : Call) (mapper : Json → Except PyError (List SearchItem)) :
    Route (List SearchItem) := do
  match ← askUpstream call with
  | .ok payload => Program.ofExcept (mapping (mapper payload))
  -- Not found or not: every failure is passed over.
  | .error _ => return []

/-- What an account payload adds to the results. -/
def foundAddress (payload : Json) : Except PyError (List SearchItem) := do
  return [.address (← mapAccount payload)]

/-- What a transaction payload adds: nothing when it holds no transaction. -/
def foundTransaction (payload : Json) : Except PyError (List SearchItem) := do
  let tx := (← payload.asDict).get "transaction"
  if !tx.truthy then return []
  return [.transaction (← mapTransaction tx)]

def foundToken (payload : Json) : Except PyError (List SearchItem) := do
  return [.token (← mapAsset payload)]

def foundSmartContract (keyText : KeyText) (payload : Json) :
    Except PyError (List SearchItem) := do
  return [.smartContract (← mapApplication keyText payload)]

/-- `map_asset({"asset": a}) for a in payload.get("assets", []) or []`. -/
def foundAssets (payload : Json) : Except PyError (List SearchItem) := do
  let assets ← (((← payload.asDict).get "assets" (.arr [])).or (.arr [])).iter
  assets.mapM fun a => do return .token (← mapAsset (.obj [("asset", a)]))

/-- One asset search; its failure leaves the route. -/
def searchedAssets (call : Call) : Route (List SearchItem) := do
  let payload ← upstream call
  Program.ofExcept (mapping (foundAssets payload))

/-- `search`. -/
def search (keyText : KeyText) (q : String) (limit : Int) : Route SearchResponse := do
  let query := Text.strip q
  match classifyQuery query with
  | some .address =>
    let items ← probe (.account query false) foundAddress
    return ⟨items, candidatesNote⟩
  | some .transaction =>
    let items ← probe (.transaction query) foundTransaction
    return ⟨items, candidatesNote⟩
  | some .numeric =>
    -- `isdigit` accepts digits that `int` does not.
    let numeric ← Program.ofExcept (mapping (Text.int query))
    match validateUint64 (.int numeric) "id" with
    -- No id on chain is out of range, so nothing is asked.
    | .error _ => return ⟨[], outOfRangeNote⟩
    | .ok _ =>
      let tokens ← probe (.asset (.int numeric)) foundToken
      let contracts ← probe (.application numeric) (foundSmartContract keyText)
      return ⟨tokens ++ contracts, candidatesNote⟩
  | none =>
    let units ← searchedAssets (.searchAssets (some query) none limit)
    -- Names are asked for only when no unit name matched.
    if units.isEmpty then
      let names ← searchedAssets (.searchAssets none (some query) limit)
      return ⟨names, candidatesNote⟩
    else return ⟨units, candidatesNote⟩

/-! ### Runs -/

/-- The calls made so far, with their outcomes. -/
abbrev CallLog := List (Call × Outcome)

/-- An environment that answers each call in one way and logs the calls; the cache is not asked. -/
def recording (outcome : Call → Outcome) : (op : Op) → CallLog → op.Answer × CallLog
  | .upstream call, log => (outcome call, log ++ [(call, outcome call)])
  | .cacheGet _ _, log => ((none : Option Json), log)
  | .cacheSet _ _ _, log => ((), log)

variable {outcome : Call → Outcome} {log : CallLog}

theorem run_recorded_bind {α : Type} (call : Call) (f : Outcome → Route α) :
    (askUpstream call >>= f).run (recording outcome) log =
      (f (outcome call)).run (recording outcome) (log ++ [(call, outcome call)]) := rfl

theorem run_probe (call : Call) (mapper : Json → Except PyError (List SearchItem)) :
    (probe call mapper).run (recording outcome) log =
      (match outcome call with
        | .ok payload => mapping (mapper payload)
        | .error _ => .ok [], log ++ [(call, outcome call)]) := by
  unfold probe
  rw [run_recorded_bind]
  cases outcome call with
  | ok payload => rfl
  | error e => rfl

theorem run_searchedAssets (call : Call) :
    (searchedAssets call).run (recording outcome) log =
      (match outcome call with
        | .ok payload => mapping (foundAssets payload)
        | .error e => .error (.algorand e), log ++ [(call, outcome call)]) := by
  have hupstream : (upstream call).run (recording outcome) log =
      ((outcome call).mapError ServiceError.algorand, log ++ [(call, outcome call)]) := by
    unfold upstream
    rw [run_recorded_bind]
    cases outcome call with
    | ok payload => rfl
    | error e => rfl
  unfold searchedAssets
  rw [Program.run_bind, hupstream]
  cases outcome call with
  | ok payload => rfl
  | error e => rfl

/-- The response to a search, and the calls it made. -/
def searched (keyText : KeyText) (outcome : Call → Outcome) (q : String) (limit : Int) :
    Except ServiceError SearchResponse × CallLog :=
  (search keyText q limit).run (recording outcome) []

/-! ### Absence and outage -/

/-- The upstream said that there is no such thing, or answered with an empty match. -/
def NoSuchThing : Call × Outcome → Prop
  | (_, .error e) => e.isNotFound = true
  | (.transaction _, .ok payload) =>
    ∃ members : Dict, payload = .obj members ∧ (members.get "transaction").truthy = false
  | (.searchAssets _ _ _, .ok payload) =>
    ∃ members : Dict, payload = .obj members ∧ (members.get "assets" (.arr [])).truthy = false
  | (_, .ok _) => False

/-- **An outage is not presented as absence**, for one search: the response, and the calls made
    for it. -/
structure OutageReported (run : Except ServiceError SearchResponse × CallLog) : Prop where
  /-- An empty list of items says that every call was answered so. -/
  absence : ∀ response, run.1 = .ok response → response.items = [] →
    ∀ asked ∈ run.2, NoSuchThing asked
  /-- A call that failed otherwise, with nothing found, shows in the status. -/
  failure : (∃ asked ∈ run.2, ∃ e, asked.2 = .error e ∧ e.isNotFound = false) →
    (∀ response, run.1 = .ok response → response.items = []) → statusOf run.1 ≠ 200

/-- A response with items in it presents nothing as absent. -/
theorem OutageReported.of_found {response : SearchResponse} (h : response.items ≠ []) :
    OutageReported (.ok response, log) where
  absence := by
    intro response' heq hempty
    obtain rfl := Except.ok.inj heq
    exact absurd hempty h
  failure := by
    intro _ hnothing
    exact absurd (hnothing response rfl) h

/-- An error is reported as one. -/
theorem OutageReported.of_error {e : ServiceError} (h : e.status ≠ 200) :
    OutageReported (.error e, log) where
  absence := by
    intro response heq
    cases heq
  failure := fun _ _ => h

/-- An exception that no handler takes ends in a 500. -/
theorem OutageReported.of_unhandled (e : PyError) :
    OutageReported (.error (.unhandled e), log) := by
  apply OutageReported.of_error
  show 500 ≠ 200
  decide

/-- An empty response needs every call to have been answered so. -/
theorem outageReported_empty_iff {note : String} :
    OutageReported (.ok ⟨[], note⟩, log) ↔ ∀ asked ∈ log, NoSuchThing asked := by
  constructor
  · intro h
    exact h.absence _ rfl rfl
  · intro h
    refine ⟨fun _ _ _ => h, ?_⟩
    intro ⟨asked, hasked, e, he, hother⟩
    -- The failed call would have been a "not found".
    obtain ⟨call, outcome⟩ := asked
    simp only at he
    subst he
    have hnotFound : e.isNotFound = true := h _ hasked
    rw [hother] at hnotFound
    cases hnotFound

/-- **The queries whose outage is swallowed**: an address, a transaction id or a number in range
    for which every call failed, and not every one of them with "not found". -/
def SwallowsFailure (outcome : Call → Outcome) (q : String) : Prop :=
  let query := Text.strip q
  match classifyQuery query with
  | some .address => ∃ e, outcome (.account query false) = .error e ∧ e.isNotFound = false
  | some .transaction => ∃ e, outcome (.transaction query) = .error e ∧ e.isNotFound = false
  | some .numeric => ∃ n e e', Text.int query = .ok n ∧ 0 ≤ n ∧ n ≤ maxUint64 ∧
    outcome (.asset (.int n)) = .error e ∧ outcome (.application n) = .error e' ∧
    (e.isNotFound = false ∨ e'.isNotFound = false)
  | none => False

/-! ### The branches -/

/-- A mapper of one item finds it, or fails. -/
theorem one_item_ne_nil {α : Type} {x : Except PyError α} {item : α → SearchItem} :
    (x >>= fun a => pure [item a] : Except PyError (List SearchItem)) ≠ .ok [] := by
  intro h
  obtain ⟨a, -, h⟩ := bind_eq_ok.mp h
  cases h

/-- Mapping that finds nothing. -/
theorem noSuchThing_of_foundTransaction {txid : String} {payload : Json}
    (h : foundTransaction payload = .ok []) : NoSuchThing (.transaction txid, .ok payload) := by
  unfold foundTransaction at h
  obtain ⟨members, hmembers, h⟩ := bind_eq_ok.mp h
  refine ⟨members, Json.asDict_eq_ok_iff.mp hmembers, ?_⟩
  cases htruthy : (members.get "transaction").truthy with
  | false => rfl
  | true =>
    simp only [htruthy, Bool.not_true, Bool.false_eq_true, ↓reduceIte] at h
    exact absurd h one_item_ne_nil

theorem noSuchThing_of_foundAssets {unit name : Option String} {limit : Int} {payload : Json}
    (h : foundAssets payload = .ok []) :
    NoSuchThing (.searchAssets unit name limit, .ok payload) := by
  unfold foundAssets at h
  obtain ⟨members, hmembers, h⟩ := bind_eq_ok.mp h
  obtain ⟨assets, hiter, h⟩ := bind_eq_ok.mp h
  obtain rfl : assets = [] := List.forall₂_nil_right_iff.mp (mapM_eq_ok_iff.mp h)
  exact ⟨members, Json.asDict_eq_ok_iff.mp hmembers, Json.truthy_of_iter_or_eq_nil hiter⟩

/-- The last probe of a branch, after the calls of the log: something was found, or it fails, or
    every call must have been answered so. -/
theorem last_probe_reports_iff (call : Call) (mapper : Json → Except PyError (List SearchItem))
    (found : List SearchItem) (note : String) :
    OutageReported (Program.run (recording outcome)
      (probe call mapper >>= fun items => pure (SearchResponse.mk (found ++ items) note)) log) ↔
      found ≠ [] ∨ (∃ payload, outcome call = .ok payload ∧ mapper payload ≠ .ok []) ∨
        ∀ asked ∈ log ++ [(call, outcome call)], NoSuchThing asked := by
  rw [Program.run_bind, run_probe]
  by_cases hfound : found = []
  · subst hfound
    cases houtcome : outcome call with
    | error e =>
      show OutageReported (.ok ⟨[], note⟩, _) ↔ _
      rw [outageReported_empty_iff]
      simp
    | ok payload =>
      dsimp only
      cases hmapped : mapper payload with
      | error e =>
        refine iff_of_true (OutageReported.of_unhandled e) (.inr (.inl ⟨payload, rfl, ?_⟩))
        rw [hmapped]
        simp
      | ok items =>
        cases items with
        | cons item items =>
          refine iff_of_true ?_ (.inr (.inl ⟨payload, rfl, ?_⟩))
          · show OutageReported (.ok ⟨item :: items, note⟩, _)
            exact OutageReported.of_found (List.cons_ne_nil item items)
          · rw [hmapped]
            simp
        | nil =>
          show OutageReported (.ok ⟨[], note⟩, _) ↔ _
          rw [outageReported_empty_iff]
          simp [hmapped]
  · refine iff_of_true ?_ (.inl hfound)
    cases outcome call with
    | error e =>
      show OutageReported (.ok ⟨found ++ [], note⟩, _)
      apply OutageReported.of_found
      simpa using hfound
    | ok payload =>
      dsimp only
      cases mapper payload with
      | error e => exact OutageReported.of_unhandled e
      | ok items =>
        show OutageReported (.ok ⟨found ++ items, note⟩, _)
        apply OutageReported.of_found
        simp [hfound]

/-- A branch with one probe reports every failure but its own. -/
theorem probe_reports_iff {call : Call} {mapper : Json → Except PyError (List SearchItem)}
    (hnothing : ∀ payload, mapper payload = .ok [] → NoSuchThing (call, .ok payload))
    (note : String) :
    OutageReported (Program.run (recording outcome)
      (probe call mapper >>= fun items => pure (SearchResponse.mk items note)) []) ↔
      ¬∃ e, outcome call = .error e ∧ e.isNotFound = false := by
  refine (last_probe_reports_iff call mapper [] note).trans ?_
  rw [List.nil_append, List.forall_mem_singleton]
  cases houtcome : outcome call with
  | error e => simp [NoSuchThing]
  | ok payload =>
    refine iff_of_true ?_ (by simp)
    by_cases hmapped : mapper payload = .ok []
    · exact .inr (.inr (hnothing payload hmapped))
    · exact .inr (.inl ⟨payload, rfl, hmapped⟩)

/-- Two probes report every failure but those where both failed. -/
theorem two_probes_report_iff {call call' : Call}
    {mapper mapper' : Json → Except PyError (List SearchItem)}
    (hfound : ∀ payload, mapper payload ≠ .ok []) (hfound' : ∀ payload, mapper' payload ≠ .ok [])
    (note : String) :
    OutageReported (Program.run (recording outcome)
      (probe call mapper >>= fun items => probe call' mapper' >>= fun items' =>
        pure (SearchResponse.mk (items ++ items') note)) []) ↔
      ¬∃ e e', outcome call = .error e ∧ outcome call' = .error e' ∧
        (e.isNotFound = false ∨ e'.isNotFound = false) := by
  rw [Program.run_bind, run_probe]
  cases houtcome : outcome call with
  | error e =>
    refine (last_probe_reports_iff call' mapper' [] note).trans ?_
    cases houtcome' : outcome call' with
    | error e' => simp [NoSuchThing]
    | ok payload' =>
      exact iff_of_true (.inr (.inl ⟨payload', rfl, hfound' payload'⟩)) (by simp)
  | ok payload =>
    refine iff_of_true ?_ (by simp)
    dsimp only
    cases hmapped : mapper payload with
    | error e => exact OutageReported.of_unhandled e
    | ok items =>
      -- The first call found something, so an outage of the second hides nothing.
      have hitems : items ≠ [] := by
        intro hempty
        exact hfound payload (hempty ▸ hmapped)
      exact (last_probe_reports_iff call' mapper' items note).mpr (.inl hitems)

/-- The name search lets every failure through. -/
theorem name_search_reports (query : String) (limit : Int) :
    OutageReported (Program.run (recording outcome)
      (searchedAssets (.searchAssets (some query) none limit) >>= fun units =>
        if units.isEmpty then
          searchedAssets (.searchAssets none (some query) limit) >>= fun names =>
            pure (SearchResponse.mk names candidatesNote)
        else pure (SearchResponse.mk units candidatesNote)) []) := by
  have hfailed : ∀ {e : AlgorandError} {log : CallLog},
      OutageReported (.error (.algorand e), log) := by
    intro e log
    exact OutageReported.of_error e.responseStatus_ne
  rw [Program.run_bind, run_searchedAssets]
  cases houtcome : outcome (.searchAssets (some query) none limit) with
  | error e => exact hfailed
  | ok payload =>
    dsimp only
    cases hunits : foundAssets payload with
    | error e => exact OutageReported.of_unhandled e
    | ok units =>
      cases units with
      | cons unit units =>
        show OutageReported (.ok ⟨unit :: units, candidatesNote⟩, _)
        exact OutageReported.of_found (List.cons_ne_nil unit units)
      | nil =>
        show OutageReported (Program.run _ (searchedAssets _ >>= _) _)
        rw [Program.run_bind, run_searchedAssets]
        cases houtcome' : outcome (.searchAssets none (some query) limit) with
        | error e => exact hfailed
        | ok payload' =>
          dsimp only
          cases hnames : foundAssets payload' with
          | error e => exact OutageReported.of_unhandled e
          | ok names =>
            cases names with
            | cons name names =>
              show OutageReported (.ok ⟨name :: names, candidatesNote⟩, _)
              exact OutageReported.of_found (List.cons_ne_nil name names)
            | nil =>
              show OutageReported (.ok ⟨[], candidatesNote⟩,
                [(_, .ok payload), (_, .ok payload')])
              rw [outageReported_empty_iff, List.forall_mem_cons, List.forall_mem_singleton]
              exact ⟨noSuchThing_of_foundAssets hunits, noSuchThing_of_foundAssets hnames⟩

/-- `validate_uint64` on an integer is a range check. -/
theorem validateUint64_of_range {n : Int} (h : 0 ≤ n ∧ n ≤ maxUint64) (name : String) :
    validateUint64 (.int n) name = .ok n := by
  have hnonneg : ¬n < 0 := by omega
  have hle : ¬n > maxUint64 := by omega
  unfold validateUint64
  simp only [hnonneg, ↓reduceIte, hle]
  rfl

theorem validateUint64_of_out_of_range {n : Int} (h : ¬(0 ≤ n ∧ n ≤ maxUint64)) (name : String) :
    ∃ e, validateUint64 (.int n) name = .error e := by
  unfold validateUint64
  by_cases hneg : n < 0
  · simp only [hneg, ↓reduceIte]
    exact ⟨_, rfl⟩
  · have hgt : n > maxUint64 := by omega
    simp only [hneg, ↓reduceIte, hgt]
    exact ⟨_, rfl⟩

/-- The number branch: nothing is asked about a number out of range. -/
theorem number_search_reports_iff (keyText : KeyText) (query : String) :
    OutageReported (Program.run (recording outcome)
      (Program.ofExcept (mapping (Text.int query)) >>= fun numeric =>
        match validateUint64 (.int numeric) "id" with
        | .error _ => pure (SearchResponse.mk [] outOfRangeNote)
        | .ok _ =>
          probe (.asset (.int numeric)) foundToken >>= fun tokens =>
            probe (.application numeric) (foundSmartContract keyText) >>= fun contracts =>
              pure (SearchResponse.mk (tokens ++ contracts) candidatesNote)) []) ↔
      ¬∃ n e e', Text.int query = .ok n ∧ 0 ≤ n ∧ n ≤ maxUint64 ∧
        outcome (.asset (.int n)) = .error e ∧ outcome (.application n) = .error e' ∧
        (e.isNotFound = false ∨ e'.isNotFound = false) := by
  cases hint : Text.int query with
  | error e =>
    refine iff_of_true ?_ (by simp)
    exact OutageReported.of_unhandled e
  | ok n =>
    show OutageReported (Program.run _ (match validateUint64 (.int n) "id" with
      | .error _ => pure (SearchResponse.mk [] outOfRangeNote)
      | .ok _ => _) []) ↔ _
    by_cases hrange : 0 ≤ n ∧ n ≤ maxUint64
    · rw [validateUint64_of_range hrange]
      dsimp only
      rw [two_probes_report_iff]
      · simp [hrange]
      · exact fun payload => one_item_ne_nil
      · exact fun payload => one_item_ne_nil
    · obtain ⟨e, he⟩ := validateUint64_of_out_of_range hrange "id"
      rw [he]
      refine iff_of_true ?_ ?_
      · show OutageReported (.ok ⟨[], outOfRangeNote⟩, [])
        rw [outageReported_empty_iff]
        simp
      · rintro ⟨n', _, _, heq, hnonneg, hle, -⟩
        obtain rfl := Except.ok.inj heq
        exact hrange ⟨hnonneg, hle⟩

/-- **An outage is reported exactly when it is not swallowed**, for every search term and every
    outcome of the upstream calls. -/
theorem search_reports_outage_iff (keyText : KeyText) (outcome : Call → Outcome) (q : String)
    (limit : Int) :
    OutageReported (searched keyText outcome q limit) ↔ ¬SwallowsFailure outcome q := by
  unfold searched search SwallowsFailure
  dsimp only
  cases classifyQuery (Text.strip q) with
  | none => exact iff_of_true (name_search_reports _ limit) (by simp)
  | some kind =>
    cases kind with
    | address =>
      apply probe_reports_iff
      intro payload h
      exact absurd h one_item_ne_nil
    | transaction =>
      apply probe_reports_iff
      intro payload h
      exact noSuchThing_of_foundTransaction h
    | numeric => exact number_search_reports_iff keyText _

/-- Every call ends in a transport failure. -/
def upstreamDown (_ : Call) : Outcome :=
  .error ⟨false, "transport failure: connection refused", none, ""⟩

/-- **An outage presented as absence**: with the upstream down, the search for an asset id answers
    200 and no items, after two calls that failed. -/
theorem outage_presented_as_absence :
    searched (fun _ => none) upstreamDown "31566704" 10 = (.ok ⟨[], candidatesNote⟩,
      [(.asset (.int 31566704), upstreamDown (.asset (.int 31566704))),
        (.application 31566704, upstreamDown (.application 31566704))]) ∧
    ¬OutageReported (searched (fun _ => none) upstreamDown "31566704" 10) := by
  have hstrip : Text.strip "31566704" = "31566704" := by decide
  have hkind : classifyQuery "31566704" = some .numeric := by decide
  have hint : Text.int "31566704" = .ok 31566704 := by decide
  have hrun : searched (fun _ => none) upstreamDown "31566704" 10 = (.ok ⟨[], candidatesNote⟩,
      [(.asset (.int 31566704), upstreamDown (.asset (.int 31566704))),
        (.application 31566704, upstreamDown (.application 31566704))]) := by
    unfold searched search
    dsimp only
    rw [hstrip, hkind]
    dsimp only
    rw [hint]
    rfl
  refine ⟨hrun, ?_⟩
  rw [hrun, outageReported_empty_iff, List.forall_mem_cons]
  intro h
  exact absurd h.1 (by simp [NoSuchThing, upstreamDown])

end Algorandscout
