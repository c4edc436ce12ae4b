import Algorandscout.Identifiers
import Algorandscout.LatestBlock
import Algorandscout.Totality

namespace Algorandscout

open Library Library.Program

/-!
# What the routes name to the upstream

Every identifier in an upstream call should have passed its validator.

* `Call.WellNamed` — the identifiers a call names are accepted by the validators;
* `NamesChecked` — the requests, with what the upstream reported, whose calls are well named;
* `calls_wellNamed_iff` — in every course of every explorer route, the calls are well named
  exactly on these;
* `search_names_unchecked` — two searches that are not among them.
-/

variable {sha512_256 : List UInt8 → Digest} {keyText : KeyText} {config : AlgorandConfig}
  {α β : Type} {log : RouteLog}

/-! ### Well-named calls -/

/-- An integer in `[0, 2^64-1]`; a bool is none. -/
def IsUint64 (x : Json) : Prop := ∃ n : Int, x = .int n ∧ 0 ≤ n ∧ n ≤ maxUint64

/-- The identifiers a call names are accepted by their validators, and an asset search carries a
    term that is not blank. -/
def Call.WellNamed (sha512_256 : List UInt8 → Digest) : Call → Prop
  | .status => True
  | .indexerHealth => True
  | .account address _ => validateAddress sha512_256 address = .ok address
  | .accountAssets address _ _ => validateAddress sha512_256 address = .ok address
  | .accountTransactions address _ _ _ _ _ assetId =>
    validateAddress sha512_256 address = .ok address ∧ ∀ id ∈ assetId, IsUint64 (.int id)
  | .transaction txid => validateTxid txid = .ok txid
  | .block roundNumber => IsUint64 roundNumber
  | .asset assetId => IsUint64 assetId
  | .assetBalances assetId _ _ => IsUint64 (.int assetId)
  | .application appId => IsUint64 (.int appId)
  | .applicationBoxes appId _ _ => IsUint64 (.int appId)
  | .searchAssets unit name _ => ∃ term, (unit = some term ∨ name = some term) ∧
    Text.strip term ≠ ""
  -- The passthrough names a path, and no explorer route takes it.
  | .indexer _ _ => True

/-- An operation that is a well-named call, or none. -/
def WellNamedOp (sha512_256 : List UInt8 → Digest) (entry : (op : Op) × op.Answer) : Prop :=
  ∀ asked ∈ callOf entry, asked.1.WellNamed sha512_256

/-- Every upstream call of the course is well named. -/
def CallsWellNamed (sha512_256 : List UInt8 → Digest) (log : RouteLog) : Prop :=
  ∀ asked ∈ callsOf log, asked.1.WellNamed sha512_256

theorem callsWellNamed_iff :
    CallsWellNamed sha512_256 log ↔ ∀ entry ∈ log, WellNamedOp sha512_256 entry := by
  unfold CallsWellNamed callsOf WellNamedOp
  simp only [List.mem_filterMap, forall_exists_index, and_imp, Option.mem_def]
  constructor
  · intro h entry hentry asked hasked
    exact h asked entry hentry hasked
  · intro h asked entry hentry hasked
    exact h entry hentry asked hasked

/-- The search terms whose calls are well named: what has the shape of an address is one, and
    what has no shape is not blank. -/
structure TermChecked (sha512_256 : List UInt8 → Digest) (q : String) : Prop where
  address : classifyQuery (Text.strip q) = some .address →
    validateAddress sha512_256 (Text.strip q) = .ok (Text.strip q)
  term : classifyQuery (Text.strip q) = none → Text.strip q ≠ ""

/-- **The requests whose calls are well named**, given what the upstream reported: a search term
    is checked, and the tip and the held asset ids that a route takes from a payload are uint64
    integers. -/
def NamesChecked (sha512_256 : List UInt8 → Digest) : ApiRequest → CallLog → Prop
  | .search q _, _ => TermChecked sha512_256 q
  | .latestBlock, calls => ∀ members : Dict, (Call.status, .ok (.obj members)) ∈ calls →
    (members.get "last-round").isNull = false → IsUint64 (members.get "last-round")
  | .addressTokenBalances address limit nextToken true, calls => ∀ payload ids,
    (Call.accountAssets address limit nextToken, .ok payload) ∈ calls →
    heldIds payload = .ok ids → ∀ entry ∈ distinctIds ids, IsUint64 entry.2
  | _, _ => True

/-! ### The validators -/

theorem validateUint64_eq_ok_iff {x : Json} {name : String} {n : Int} :
    validateUint64 x name = .ok n ↔ x = .int n ∧ 0 ≤ n ∧ n ≤ maxUint64 := by
  cases x with
  | int m =>
    by_cases hrange : 0 ≤ m ∧ m ≤ maxUint64
    · rw [validateUint64_of_range hrange, Except.ok.injEq, Json.int.injEq]
      constructor
      · rintro rfl
        exact ⟨rfl, hrange⟩
      · rintro ⟨rfl, -⟩
        rfl
    · obtain ⟨e, he⟩ := validateUint64_of_out_of_range hrange name
      rw [he]
      constructor
      · rintro ⟨⟩
      · rintro ⟨heq, hn⟩
        obtain rfl := Json.int.inj heq
        exact absurd hn hrange
  | _ =>
    constructor
    · rintro ⟨⟩
    · rintro ⟨⟨⟩, -⟩

/-- What follows a validator may rely on what it accepts. -/
theorem Performs.validated {P : (op : Op) × op.Answer → Prop} {x : Except Raised α}
    {f : α → Route β} (hf : ∀ a, x = .ok a → Performs P (f a)) :
    Performs P (Algorandscout.validated x >>= f) := by
  apply Performs.check
  intro a ha
  cases x with
  | ok b =>
    obtain rfl := Except.ok.inj ha
    exact hf b rfl
  | error e => cases ha

/-- The address routes go on with an address that the validator returned. -/
theorem performs_validAddress {P : (op : Op) × op.Answer → Prop} {address : String}
    {f : String → Route α}
    (hf : validateAddress sha512_256 address = .ok address → Performs P (f address)) :
    Performs P (validated (validateAddress sha512_256 address) >>= f) := by
  apply Performs.validated
  intro a ha
  obtain rfl := ((validateAddress_eq_ok_iff address a).mp ha).1
  exact hf ha

/-- The routes by id go on with a uint64. -/
theorem performs_validUint64 {P : (op : Op) × op.Answer → Prop} {n : Int} {name : String}
    {f : Int → Route α} (hf : IsUint64 (.int n) → ∀ m, Performs P (f m)) :
    Performs P (validated (validateUint64 (.int n) name) >>= f) := by
  apply Performs.validated
  intro m hm
  exact hf ⟨m, validateUint64_eq_ok_iff.mp hm⟩ m

theorem performs_upstream {call : Call} (h : call.WellNamed sha512_256) :
    Performs (WellNamedOp sha512_256) (upstream call) := by
  intro log result hcourse entry hentry
  obtain ⟨outcome, rfl, -⟩ := course_upstream_iff.mp hcourse
  obtain rfl := List.mem_singleton.mp hentry
  intro asked hasked
  obtain rfl := Option.some.inj hasked
  exact h

theorem performs_askUpstream_bind {call : Call} {f : Outcome → Route α}
    (h : call.WellNamed sha512_256)
    (hf : ∀ outcome, Performs (WellNamedOp sha512_256) (f outcome)) :
    Performs (WellNamedOp sha512_256) (askUpstream call >>= f) := by
  intro log result hcourse
  obtain ⟨outcome, rest, rfl, hrest⟩ := course_askUpstream_bind_iff.mp hcourse
  rw [List.forall_mem_cons]
  refine ⟨?_, hf outcome rest result hrest⟩
  intro asked hasked
  obtain rfl := Option.some.inj hasked
  exact h

theorem performs_getOrFetch {kind key : String} {call : Call} (h : call.WellNamed sha512_256) :
    Performs (WellNamedOp sha512_256) (getOrFetch kind key (upstream call)) := by
  intro log result hcourse
  rw [← callsWellNamed_iff]
  -- The one call there can be is this one.
  intro asked hasked
  cases fetched_of_course hcourse with
  | hit value => cases hasked
  | failed exc =>
    obtain rfl := List.mem_singleton.mp hasked
    exact h
  | stored payload =>
    obtain rfl := List.mem_singleton.mp hasked
    exact h

theorem performs_mapped {x : Except PyError α} :
    Performs (WellNamedOp sha512_256) (mapped x) := Performs.ofExcept

/-! ### The routes that check -/

theorem getAddress_wellNamed (address : String) (live : Bool) :
    Performs (WellNamedOp sha512_256) (getAddress sha512_256 address live) := by
  apply performs_validAddress
  intro haddress
  exact Performs.bind (performs_upstream haddress) fun _ => performs_mapped

theorem getAddressTransactions_wellNamed (address : String) (limit : Int)
    (nextToken afterTime beforeTime txType : Option String) (assetId : Option Int) :
    Performs (WellNamedOp sha512_256) (getAddressTransactions sha512_256 address limit nextToken
      afterTime beforeTime txType assetId) := by
  apply performs_validAddress
  intro haddress
  -- What is done once the asset id, if there is one, is known to be in range.
  have hrest : (∀ id ∈ assetId, IsUint64 (.int id)) → Performs (WellNamedOp sha512_256) (do
      let payload ← upstream (.accountTransactions address limit nextToken afterTime beforeTime
        txType assetId)
      let members ← mapped payload.asDict
      mapped (mapTransactionList payload (members.get "current-round"))) := by
    intro hid
    refine Performs.bind (performs_upstream ⟨haddress, hid⟩) fun payload => ?_
    exact Performs.bind performs_mapped fun _ => performs_mapped
  cases assetId with
  | none => exact hrest (by simp)
  | some id =>
    apply performs_validUint64
    intro hid _
    exact hrest (by simpa using hid)

theorem unresolvedBalances_wellNamed (address : String) (limit : Int)
    (nextToken : Option String) :
    Performs (WellNamedOp sha512_256)
      (getAddressTokenBalances sha512_256 address limit nextToken false) := by
  apply performs_validAddress
  intro haddress
  refine Performs.bind (performs_upstream haddress) fun payload => ?_
  exact Performs.bind Performs.pure fun _ => performs_mapped

theorem getTransaction_wellNamed (txid : String) :
    Performs (WellNamedOp sha512_256) (getTransaction txid) := by
  apply Performs.validated
  intro t ht
  obtain rfl := ((validateTxid_eq_ok_iff txid t).mp ht).1
  exact Performs.bind (performs_getOrFetch ht) fun _ => Performs.ofExcept

theorem getBlock_wellNamed (roundNumber : Int) (includeTransactions : Bool) :
    Performs (WellNamedOp sha512_256) (getBlock roundNumber includeTransactions) := by
  apply performs_validUint64
  intro hround _
  exact Performs.bind (performs_getOrFetch hround) fun _ => performs_mapped

theorem getToken_wellNamed (assetId : Int) :
    Performs (WellNamedOp sha512_256) (getToken assetId) := by
  apply performs_validUint64
  intro hid _
  exact Performs.bind (performs_getOrFetch hid) fun _ => performs_mapped

theorem getSmartContract_wellNamed (appId : Int) :
    Performs (WellNamedOp sha512_256) (getSmartContract keyText appId) := by
  apply performs_validUint64
  intro hid _
  exact Performs.bind (performs_getOrFetch hid) fun _ => performs_mapped

theorem getTokenHolders_wellNamed (assetId limit : Int) (nextToken : Option String)
    (resolve : Bool) :
    Performs (WellNamedOp sha512_256) (getTokenHolders assetId limit nextToken resolve) := by
  apply performs_validUint64
  intro hid _
  refine Performs.bind (performs_upstream hid) fun payload => ?_
  refine Performs.bind ?_ fun _ => performs_mapped
  cases resolve with
  | false => exact Performs.pure
  | true =>
    have hcall : (Call.asset (.int assetId)).WellNamed sha512_256 := hid
    apply performs_askUpstream_bind hcall
    intro outcome
    cases outcome with
    | ok assetPayload => exact performs_mapped
    | error exc => exact Performs.pure

theorem stats_wellNamed : Performs (WellNamedOp sha512_256) (stats config) := by
  refine Performs.bind (performs_upstream trivial) fun status => ?_
  refine Performs.bind ?_ fun _ => Performs.ofExcept
  refine performs_askUpstream_bind trivial fun nodeRead => ?_
  exact performs_askUpstream_bind trivial fun idxRead => Performs.ofExcept

/-! ### The routes that do not -/

/-- What has the shape of a transaction id is one. -/
theorem validateTxid_of_shape {q : String} (h : classifyQuery (Text.strip q) = some .transaction) :
    validateTxid (Text.strip q) = .ok (Text.strip q) := by
  obtain ⟨hlength, hre⟩ : (Text.strip q).toList.length = txidLength ∧
      base32Re (Text.strip q).toList = true := by
    unfold classifyQuery at h
    dsimp only at h
    rw [Text.strip_strip] at h
    split_ifs at h with hempty haddress htxid hdigit
    · cases h
    · exact htxid
    · cases h
  -- A stripped term has no final line break for `$` to match before.
  have hlast : (Text.strip q).toList.getLast? ≠ some '\n' := by
    intro hlast
    rw [Text.toList_strip] at hlast
    exact absurd (Text.not_isSpace_of_getLast? hlast) (by decide)
  rw [base32Re, if_neg hlast] at hre
  simp only [Bool.and_eq_true, List.all_eq_true, List.contains_iff_mem] at hre
  obtain ⟨syms, hsyms, heq⟩ := exists_symbols hre.2
  rw [validateTxid_ok_iff_accepts]
  refine ⟨syms, hsyms, ?_, heq, trivial⟩
  rw [← hlength, heq, List.length_map]

theorem performs_probe {call : Call} {mapper : Json → Except PyError (List SearchItem)}
    (h : call.WellNamed sha512_256) :
    Performs (WellNamedOp sha512_256) (probe call mapper) := by
  apply performs_askUpstream_bind h
  intro outcome
  cases outcome with
  | ok payload => exact Performs.ofExcept
  | error exc => exact Performs.pure

theorem performs_searchedAssets {unit name : Option String} {limit : Int} {term : String}
    (hterm : unit = some term ∨ name = some term) (h : Text.strip term ≠ "") :
    Performs (WellNamedOp sha512_256) (searchedAssets (.searchAssets unit name limit)) :=
  Performs.bind (performs_upstream ⟨term, hterm, h⟩) fun _ => Performs.ofExcept

/-- A checked term is asked for in well-named calls. -/
theorem search_wellNamed {q : String} {limit : Int} (h : TermChecked sha512_256 q) :
    Performs (WellNamedOp sha512_256) (search keyText q limit) := by
  unfold search
  dsimp only
  cases hkind : classifyQuery (Text.strip q) with
  | none =>
    have hterm : Text.strip (Text.strip q) ≠ "" := by
      rw [Text.strip_strip]
      exact h.term hkind
    refine Performs.bind (performs_searchedAssets (.inl rfl) hterm) fun units => ?_
    split_ifs
    · refine Performs.bind (performs_searchedAssets (.inr rfl) hterm) fun names => ?_
      exact Performs.pure
    · exact Performs.pure
  | some kind =>
    cases kind with
    | address => exact Performs.bind (performs_probe (h.address hkind)) fun _ => Performs.pure
    | transaction =>
      refine Performs.bind (performs_probe ?_) fun _ => Performs.pure
      exact validateTxid_of_shape hkind
    | numeric =>
      apply Performs.check
      intro n hn
      cases hrange : validateUint64 (.int n) "id" with
      | error e => exact Performs.pure
      | ok m =>
        have huint : IsUint64 (.int n) := ⟨m, validateUint64_eq_ok_iff.mp hrange⟩
        refine Performs.bind (performs_probe huint) fun tokens => ?_
        exact Performs.bind (performs_probe huint) fun contracts => Performs.pure

/-- Well-named calls show that the term was checked. -/
theorem termChecked_of_search {q : String} {limit : Int}
    {result : Except ServiceError SearchResponse}
    (hcourse : Course (search keyText q limit) log result) (h : CallsWellNamed sha512_256 log) :
    TermChecked sha512_256 q := by
  unfold search at hcourse
  dsimp only at hcourse
  rw [callsWellNamed_iff] at h
  -- The first part of the branch makes its call in every course.
  constructor
  · intro hkind
    rw [hkind] at hcourse
    rcases course_bind_iff.mp hcourse with ⟨e, hfirst, -⟩ | ⟨first, rest, items, rfl, hfirst, -⟩
    · obtain ⟨outcome, rfl, -⟩ := course_probe_iff.mp hfirst
      exact h _ List.mem_cons_self _ rfl
    · obtain ⟨outcome, rfl, -⟩ := course_probe_iff.mp hfirst
      exact h _ List.mem_cons_self _ rfl
  · intro hkind hblank
    rw [hkind] at hcourse
    obtain ⟨outcome, rest, rfl⟩ : ∃ (outcome : Outcome) (rest : RouteLog), log =
        ⟨.upstream (.searchAssets (some (Text.strip q)) none limit), outcome⟩ :: rest := by
      rcases course_bind_iff.mp hcourse with ⟨e, hfirst, -⟩ | ⟨first, rest, items, rfl, hfirst, -⟩
      · obtain ⟨outcome, rfl, -⟩ := course_searchedAssets_iff.mp hfirst
        exact ⟨outcome, [], rfl⟩
      · obtain ⟨outcome, rfl, -⟩ := course_searchedAssets_iff.mp hfirst
        exact ⟨outcome, rest, rfl⟩
    obtain ⟨term, hterm, hne⟩ := h _ List.mem_cons_self _ rfl
    rcases hterm with hterm | hterm
    · obtain rfl := Option.some.inj hterm
      rw [Text.strip_strip] at hne
      exact hne hblank
    · cases hterm

/-- The block of a tip is asked for without a look at the tip. -/
theorem latestBlock_wellNamed_iff {result : Except ServiceError (Page MappedBlock)}
    (hcourse : Course getLatestBlock log result) :
    CallsWellNamed sha512_256 log ↔ ∀ members : Dict,
      (Call.status, .ok (.obj members)) ∈ callsOf log →
      (members.get "last-round").isNull = false → IsUint64 (members.get "last-round") := by
  cases latestBlock_of_course hcourse with
  | statusFailed exc => simp [CallsWellNamed, Call.WellNamed]
  | statusBroken status e he =>
    have hnodict : ∀ members, status ≠ .obj members := by
      rintro members rfl
      cases he
    simp [CallsWellNamed, Call.WellNamed, (hnodict _).symm]
  | noTip members htip => simp [CallsWellNamed, Call.WellNamed, htip]
  | blockFailed members htip exc => simp [CallsWellNamed, Call.WellNamed, htip]
  | answered members htip payload => simp [CallsWellNamed, Call.WellNamed, htip]

/-- The lookups name the ids they are given. -/
theorem calls_of_askAssets {ids : List (Key × Json)}
    {result : Except ServiceError (List (Key × Outcome))}
    (h : Course (askAssets ids) log result) :
    (callsOf log).map (·.1) = ids.map fun entry => Call.asset entry.2 := by
  induction ids generalizing log result with
  | nil =>
    obtain ⟨rfl, -⟩ := course_pure_iff.mp h
    rfl
  | cons entry ids ih =>
    obtain ⟨outcome, rest, rfl, hrest⟩ := course_askUpstream_bind_iff.mp h
    rcases course_bind_iff.mp hrest with
      ⟨e, hothers, -⟩ | ⟨first, last, outcomes, rfl, hothers, hend⟩
    · rw [callsOf_upstream, List.map_cons, List.map_cons, ih hothers]
    · obtain ⟨rfl, -⟩ := course_pure_iff.mp hend
      rw [List.append_nil, callsOf_upstream, List.map_cons, List.map_cons, ih hothers]

/-- The ids that are looked up are those of the page. -/
theorem calls_of_resolveHoldings {payload : Json} {result : Except ServiceError AssetParams}
    (h : Course (resolveHoldings payload) log result) :
    ((∃ e, heldIds payload = .error e) ∧ callsOf log = []) ∨
      ∃ ids, heldIds payload = .ok ids ∧
        (callsOf log).map (·.1) = (distinctIds ids).map fun entry => Call.asset entry.2 := by
  rcases course_mapping_bind_iff.mp h with ⟨e, he, rfl, -⟩ | ⟨ids, hids, hask⟩
  · exact .inl ⟨⟨e, he⟩, rfl⟩
  · refine .inr ⟨ids, hids, ?_⟩
    rcases course_bind_iff.mp hask with ⟨e, hlookups, -⟩ | ⟨first, last, _, rfl, hlookups, hend⟩
    · exact calls_of_askAssets hlookups
    · obtain ⟨rfl, -⟩ := course_ofExcept_iff.mp hend
      rw [List.append_nil]
      exact calls_of_askAssets hlookups

variable (sha512_256) in
/-- The courses of `get_address_token_balances` that resolve the metadata: the address is not
    valid, the page is not there, or the lookups follow the page. -/
inductive ResolvedHoldings (address : String) (limit : Int) (nextToken : Option String) :
    RouteLog → Prop
  | rejected : ResolvedHoldings address limit nextToken []
  | pageFailed (haddress : validateAddress sha512_256 address = .ok address)
    (exc : AlgorandError) :
    ResolvedHoldings address limit nextToken
      [⟨.upstream (.accountAssets address limit nextToken), (.error exc : Outcome)⟩]
  | lookedUp (haddress : validateAddress sha512_256 address = .ok address) (payload : Json)
    (rest : RouteLog) (result : Except ServiceError AssetParams)
    (hlookups : Course (resolveHoldings payload) rest result) :
    ResolvedHoldings address limit nextToken
      (⟨.upstream (.accountAssets address limit nextToken), (.ok payload : Outcome)⟩ :: rest)

theorem resolvedHoldings_of_course {address : String} {limit : Int} {nextToken : Option String}
    {result : Except ServiceError (Page MappedHolding)}
    (hcourse : Course (getAddressTokenBalances sha512_256 address limit nextToken true) log
      result) :
    ResolvedHoldings sha512_256 address limit nextToken log := by
  rcases course_ofExcept_bind_iff.mp hcourse with ⟨e, -, rfl, -⟩ | ⟨a, ha, hpage⟩
  · exact .rejected
  have haddress : validateAddress sha512_256 address = .ok address := by
    cases hvalid : validateAddress sha512_256 address with
    | error e =>
      rw [hvalid] at ha
      cases ha
    | ok t =>
      obtain rfl := ((validateAddress_eq_ok_iff address t).mp hvalid).1
      rfl
  rcases course_upstream_bind_iff.mp hpage with ⟨exc, rfl, -⟩ | ⟨payload, rest, rfl, hrest⟩
  · exact .pageFailed haddress exc
  · -- After the page come the lookups, and nothing else.
    rcases course_bind_iff.mp hrest with ⟨e, hlookups, -⟩ | ⟨first, last, _, rfl, hlookups, hend⟩
    · exact .lookedUp haddress payload rest _ hlookups
    · obtain ⟨rfl, -⟩ := course_ofExcept_iff.mp hend
      rw [List.append_nil]
      exact .lookedUp haddress payload first _ hlookups

/-- The metadata of the held assets is asked for without a look at the ids. -/
theorem tokenBalances_wellNamed_iff {address : String} {limit : Int} {nextToken : Option String}
    {result : Except ServiceError (Page MappedHolding)}
    (hcourse : Course (getAddressTokenBalances sha512_256 address limit nextToken true) log
      result) :
    CallsWellNamed sha512_256 log ↔ ∀ payload ids,
      (Call.accountAssets address limit nextToken, .ok payload) ∈ callsOf log →
      heldIds payload = .ok ids → ∀ entry ∈ distinctIds ids, IsUint64 entry.2 := by
  cases resolvedHoldings_of_course hcourse with
  | rejected => simp [CallsWellNamed]
  | pageFailed haddress exc => simp [CallsWellNamed, Call.WellNamed, haddress]
  | lookedUp haddress payload rest result' hlookups =>
    rw [CallsWellNamed, callsOf_upstream, List.forall_mem_cons]
    rcases calls_of_resolveHoldings hlookups with ⟨⟨e, he⟩, hnil⟩ | ⟨ids, hids, hcalls⟩
    · rw [hnil]
      refine iff_of_true ⟨haddress, by simp⟩ ?_
      intro payload' ids' hmem hids'
      obtain ⟨-, hpayload⟩ := Prod.mk.inj (List.mem_singleton.mp hmem)
      obtain rfl := Except.ok.inj hpayload
      rw [he] at hids'
      cases hids'
    · have hlookup : (∀ asked ∈ callsOf rest, asked.1.WellNamed sha512_256) ↔
          ∀ entry ∈ distinctIds ids, IsUint64 entry.2 := by
        rw [← List.forall_mem_map (P := (Call.WellNamed sha512_256 ·)), hcalls,
          List.forall_mem_map]
        exact Iff.rfl
      rw [hlookup]
      constructor
      · intro h payload' ids' hmem hids'
        rcases List.mem_cons.mp hmem with heq | hmem
        · obtain ⟨-, hpayload⟩ := Prod.mk.inj heq
          obtain rfl := Except.ok.inj hpayload
          obtain rfl := Except.ok.inj (hids.symm.trans hids')
          exact h.2
        · -- No lookup asks for a page.
          have hpage := List.mem_map_of_mem (f := fun asked : Call × Outcome => asked.1) hmem
          rw [hcalls] at hpage
          obtain ⟨entry, -, heq⟩ := List.mem_map.mp hpage
          cases heq
      · intro h
        exact ⟨haddress, h payload ids List.mem_cons_self hids⟩

/-! ### All routes -/

/-- What a route performs is what its response is made of. -/
theorem callsWellNamed_of_map {p : Route α} {f : α → β} {result : Except ServiceError β}
    (hp : Performs (WellNamedOp sha512_256) p) (hcourse : Course (f <$> p) log result) :
    CallsWellNamed sha512_256 log :=
  callsWellNamed_iff.mpr (hp.map log result hcourse)

/-- **The calls of a route are well named exactly when the names were checked**, in every course
    of every explorer route. -/
theorem calls_wellNamed_iff {request : ApiRequest} {result : Except ServiceError ApiResponse}
    (hcourse : Course (respond sha512_256 keyText config request) log result) :
    CallsWellNamed sha512_256 log ↔ NamesChecked sha512_256 request (callsOf log) := by
  cases request with
  | search q limit =>
    obtain ⟨result', hsearch, -⟩ := course_map_iff.mp hcourse
    refine ⟨termChecked_of_search hsearch, ?_⟩
    intro h
    exact callsWellNamed_of_map (search_wellNamed h) hcourse
  | latestBlock =>
    obtain ⟨result', hlatest, -⟩ := course_map_iff.mp hcourse
    exact latestBlock_wellNamed_iff hlatest
  | addressTokenBalances address limit nextToken resolve =>
    cases resolve with
    | true =>
      obtain ⟨result', hbalances, -⟩ := course_map_iff.mp hcourse
      exact tokenBalances_wellNamed_iff hbalances
    | false =>
      exact iff_of_true (callsWellNamed_of_map
        (unresolvedBalances_wellNamed address limit nextToken) hcourse) trivial
  -- The other routes check everything they name.
  | stats => exact iff_of_true (callsWellNamed_of_map stats_wellNamed hcourse) trivial
  | address address live =>
    exact iff_of_true (callsWellNamed_of_map (getAddress_wellNamed address live) hcourse) trivial
  | addressTransactions address limit nextToken afterTime beforeTime txType assetId =>
    exact iff_of_true (callsWellNamed_of_map (getAddressTransactions_wellNamed address limit
      nextToken afterTime beforeTime txType assetId) hcourse) trivial
  | transaction txid =>
    exact iff_of_true (callsWellNamed_of_map (getTransaction_wellNamed txid) hcourse) trivial
  | block roundNumber includeTransactions =>
    exact iff_of_true (callsWellNamed_of_map (getBlock_wellNamed roundNumber includeTransactions)
      hcourse) trivial
  | token assetId =>
    exact iff_of_true (callsWellNamed_of_map (getToken_wellNamed assetId) hcourse) trivial
  | tokenHolders assetId limit nextToken resolve =>
    exact iff_of_true (callsWellNamed_of_map (getTokenHolders_wellNamed assetId limit nextToken
      resolve) hcourse) trivial
  | smartContract appId =>
    exact iff_of_true (callsWellNamed_of_map (getSmartContract_wellNamed appId) hcourse) trivial

/-- The search for `USDC` is checked, so its calls are well named when the first one fails. -/
theorem usdc_search_wellNamed :
    CallsWellNamed (fun _ => zeroKeyDigest)
      [⟨.upstream (.searchAssets (some "USDC") none 10),
        (.error ⟨false, "HTTP 503: ", some 503, ""⟩ : Outcome)⟩] := by
  have hkind : classifyQuery (Text.strip "USDC") = none := by decide
  have hcourse := course_of_failed_name_search (fun _ => none) hkind 10
    ⟨false, "HTTP 503: ", some 503, ""⟩
  have hrequest : Course (respond (fun _ => zeroKeyDigest) (fun _ => none) mainnetConfig
      (.search "USDC" 10)) _ _ := course_map_iff.mpr ⟨_, hcourse, rfl⟩
  have hchecked : TermChecked (fun _ => zeroKeyDigest) "USDC" := by
    constructor
    · intro haddress
      rw [hkind] at haddress
      cases haddress
    · intro _
      decide
  exact (calls_wellNamed_iff hrequest).mpr hchecked

/-- **Two searches whose terms are not checked**: 58 letters `A` have the shape of an address and
    no valid checksum, and a blank term is searched for as a name. -/
theorem search_names_unchecked :
    ¬(∀ log result, Course (respond (fun _ => zeroKeyDigest) (fun _ => none) mainnetConfig
        (.search "AAAAAAAAAAAAAAAAAAAAAAAAAAAAAAAAAAAAAAAAAAAAAAAAAAAAAAAAAA" 10)) log result →
      CallsWellNamed (fun _ => zeroKeyDigest) log) ∧
    ¬(∀ log result, Course (respond (fun _ => zeroKeyDigest) (fun _ => none) mainnetConfig
        (.search " " 10)) log result → CallsWellNamed (fun _ => zeroKeyDigest) log) := by
  constructor
  · intro h
    have hkind : classifyQuery (Text.strip
        "AAAAAAAAAAAAAAAAAAAAAAAAAAAAAAAAAAAAAAAAAAAAAAAAAAAAAAAAAA") = some .address := by
      decide
    have hcourse := course_of_failed_address_search (fun _ => none) hkind 10
      ⟨false, "HTTP 503: ", some 503, ""⟩
    have hnamed := h _ _ (course_map_iff.mpr ⟨_, hcourse, rfl⟩)
    -- The last four bytes of 36 zeros are not the checksum of the first 32.
    exact absurd ((termChecked_of_search hcourse hnamed).address hkind) (by decide)
  · intro h
    have hkind : classifyQuery (Text.strip " ") = none := by decide
    have hcourse := course_of_failed_name_search (fun _ => none) hkind 10
      ⟨false, "HTTP 503: ", some 503, ""⟩
    have hnamed := h _ _ (course_map_iff.mpr ⟨_, hcourse, rfl⟩)
    exact absurd (by decide) ((termChecked_of_search hcourse hnamed).term hkind)

end Algorandscout
