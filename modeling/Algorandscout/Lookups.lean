import Algorandscout.Library.Numeral
import Algorandscout.Staleness
import Algorandscout.Totality
import Algorandscout.WellNamed

namespace Algorandscout

open Library Library.Program

/-!
# Search against the direct routes

A term that search recognises names things that have routes of their own.

* `Named`, `namedBy` — what a term may name, and what a term does name;
* `UpToDate` — what the cache would answer for a thing is what the upstream answers now;
* `run_getOrFetch_of_upToDate` — a read through the cache is then a read of the upstream;
* `Tells` — what a route responds, and what search finds;
* `search_tells` — search finds of each thing that a term names what the thing's own route tells,
  and every identifier that one of those routes accepts is recognised.
-/

/-! ### What a term names -/

/-- What a search term may name on chain. -/
inductive Named where
  | address (hash : String)
  | transaction (txid : String)
  | token (assetId : Int)
  | smartContract (appId : Int)
  deriving DecidableEq, Repr

/-- What one writes to search for it. -/
def Named.text : Named → String
  | .address hash => hash
  | .transaction txid => txid
  | .token assetId => toString assetId
  | .smartContract appId => toString appId

/-- The request to its own route. -/
def Named.request : Named → ApiRequest
  | .address hash => .address hash false
  | .transaction txid => .transaction txid
  | .token assetId => .token assetId
  | .smartContract appId => .smartContract appId

/-- The call that the route makes, and search too. -/
def Named.call : Named → Call
  | .address hash => .account hash false
  | .transaction txid => .transaction txid
  | .token assetId => .asset (.int assetId)
  | .smartContract appId => .application appId

/-- What the route makes of a payload. -/
def Named.response (keyText : KeyText) (payload : Json) : Named → Except ServiceError ApiResponse
  | .address _ => (mapping (mapAccount payload)).map .address
  | .transaction _ => (transactionResponse payload).map .transaction
  | .token _ => (mapping (mapAsset payload)).map .token
  | .smartContract _ => (mapping (mapApplication keyText payload)).map .smartContract

/-- What search makes of it. -/
def Named.found (keyText : KeyText) (payload : Json) : Named → Except PyError (List SearchItem)
  | .address _ => foundAddress payload
  | .transaction _ => foundTransaction payload
  | .token _ => foundToken payload
  | .smartContract _ => foundSmartContract keyText payload

/-- The validator of its route accepts it. -/
def Named.Valid (sha512_256 : List UInt8 → Digest) : Named → Prop
  | .address hash => validateAddress sha512_256 hash = .ok hash
  | .transaction txid => validateTxid txid = .ok txid
  | .token assetId => 0 ≤ assetId ∧ assetId ≤ maxUint64
  | .smartContract appId => 0 ≤ appId ∧ appId ≤ maxUint64

/-- The things that a term names. -/
def namedBy (q : String) : List Named :=
  let query := Text.strip q
  match classifyQuery query with
  | some .address => [.address query]
  | some .transaction => [.transaction query]
  | some .numeric =>
    match Text.int query with
    -- The namespaces overlap.
    | .ok n => if 0 ≤ n ∧ n ≤ maxUint64 then [.token n, .smartContract n] else []
    | .error _ => []
  | none => []

/-- The terms that are not searched for by name: an address with its checksum, a transaction id,
    and a number that reads as one. -/
structure Recognised (sha512_256 : List UInt8 → Digest) (q : String) : Prop where
  shaped : classifyQuery (Text.strip q) ≠ none
  address : classifyQuery (Text.strip q) = some .address →
    validateAddress sha512_256 (Text.strip q) = .ok (Text.strip q)
  numeric : classifyQuery (Text.strip q) = some .numeric → ∃ n, Text.int (Text.strip q) = .ok n

variable {sha512_256 : List UInt8 → Digest} {keyText : KeyText} {config : AlgorandConfig}
  {q : String}

/-- The ways in which a term is recognised. -/
inductive RecognisedCase (sha512_256 : List UInt8 → Digest) (q : String) : Prop
  | address (kind : classifyQuery (Text.strip q) = some .address)
      (valid : validateAddress sha512_256 (Text.strip q) = .ok (Text.strip q))
      (named : namedBy q = [.address (Text.strip q)])
  | transaction (kind : classifyQuery (Text.strip q) = some .transaction)
      (named : namedBy q = [.transaction (Text.strip q)])
  | numeric (n : Int) (kind : classifyQuery (Text.strip q) = some .numeric)
      (reads : Text.int (Text.strip q) = .ok n)
      (named : namedBy q =
        if 0 ≤ n ∧ n ≤ maxUint64 then [.token n, .smartContract n] else [])

theorem Recognised.cases (h : Recognised sha512_256 q) : RecognisedCase sha512_256 q := by
  cases hkind : classifyQuery (Text.strip q) with
  | none => exact absurd hkind h.shaped
  | some kind =>
    cases kind with
    | address => exact .address hkind (h.address hkind) (by simp only [namedBy, hkind])
    | transaction => exact .transaction hkind (by simp only [namedBy, hkind])
    | numeric =>
      obtain ⟨n, hn⟩ := h.numeric hkind
      exact .numeric n hkind hn (by simp only [namedBy, hkind, hn])

/-- What a recognised term names is valid. -/
theorem valid_of_mem_namedBy (h : Recognised sha512_256 q) {thing : Named}
    (hthing : thing ∈ namedBy q) : thing.Valid sha512_256 := by
  cases h.cases with
  | address hkind hvalid hnamed =>
    rw [hnamed] at hthing
    obtain rfl := List.mem_singleton.mp hthing
    exact hvalid
  | transaction hkind hnamed =>
    rw [hnamed] at hthing
    obtain rfl := List.mem_singleton.mp hthing
    exact validateTxid_of_shape hkind
  | numeric n hkind hn hnamed =>
    rw [hnamed] at hthing
    split_ifs at hthing with hrange
    · rcases List.mem_pair.mp hthing with rfl | rfl
      · exact hrange
      · exact hrange
    · cases hthing

/-! ### Recognition -/

/-- A string of base32 symbols of one of the two lengths has the shape of an identifier. -/
theorem classifyQuery_of_accepts {n : ℕ} {P : List UInt8 → Prop} {kind : QueryKind}
    (hq : Accepts n P (Text.strip q))
    (hkind : n = addressLength ∧ kind = .address ∨ n = txidLength ∧ kind = .transaction) :
    classifyQuery (Text.strip q) = some kind := by
  obtain ⟨syms, hsyms, hlength, heq, -⟩ := hq
  have hpos : 0 < syms.length := by
    rcases hkind with ⟨rfl, -⟩ | ⟨rfl, -⟩
    · rw [hlength]
      decide
    · rw [hlength]
      decide
  have hre : base32Re (Text.strip q).toList = true := by
    rw [heq]
    exact base32Re_symbols hsyms hpos
  have hchars : (Text.strip q).toList.length = n := by rw [heq, List.length_map, hlength]
  have hne : (Text.strip q).toList.isEmpty = false := by
    rw [List.isEmpty_eq_false_iff, ← List.length_pos_iff, hchars, ← hlength]
    exact hpos
  unfold classifyQuery
  dsimp only
  rw [Text.strip_strip, if_neg (by rw [hne]; simp)]
  rcases hkind with ⟨rfl, rfl⟩ | ⟨rfl, rfl⟩
  · rw [if_pos ⟨hchars, hre⟩]
  · rw [if_neg, if_pos ⟨hchars, hre⟩]
    rintro ⟨hlong, -⟩
    rw [hchars] at hlong
    exact absurd hlong (by decide)

/-- An ASCII digit is the first of the runs. -/
theorem decimalValue?_of_isDigit {c : Char} (h : c.isDigit = true) :
    Text.decimalValue? c = some (c.toNat - '0'.toNat) := by
  obtain ⟨hle, hge⟩ := Char.isDigit_iff_toNat.mp h
  unfold Text.decimalValue? Text.decimalZeros
  rw [List.find?_cons_of_pos]
  · rfl
  · simp only [Bool.and_eq_true, decide_eq_true_eq]
    exact ⟨hle, hge⟩

/-- A literal of ASCII digits reads as what it denotes. -/
theorem int_of_isDigits {s : String} (hstrip : Text.stripChars s.toList = s.toList)
    (hne : s.toList ≠ []) (hdigits : Numeral.IsDigits s.toList)
    (hfew : s.toList.length ≤ Text.intMaxStrDigits) :
    Text.isdigit s = true ∧ Text.int s = .ok (Nat.ofDigitChars 10 s.toList 0 : ℕ) := by
  have hchars : ∀ c ∈ s.toList, Text.isDigitChar c = true := by
    intro c hc
    unfold Text.isDigitChar
    rw [decimalValue?_of_isDigit (hdigits c hc)]
    rfl
  have hread : Text.intDigits s.toList = some (s.toList.map fun c => c.toNat - '0'.toNat) := by
    rw [Text.intDigits_eq_some_iff hne hchars, List.forall₂_map_right_iff, List.forall₂_same]
    exact fun c hc => decimalValue?_of_isDigit (hdigits c hc)
  refine ⟨?_, ?_⟩
  · simpa [Text.isdigit, hne] using hchars
  · unfold Text.int
    rw [hstrip]
    cases hcs : s.toList with
    | nil => exact absurd hcs hne
    | cons c rest =>
      rw [hcs] at hread hfew
      -- There is no sign, so all characters are read as digits.
      obtain ⟨hminus, hplus, -⟩ := Text.ne_of_isDigitChar (hchars c (by simp [hcs]))
      have hmany : ¬Text.intMaxStrDigits < rest.length + 1 := by simpa using hfew
      simp [hminus, hplus, hread, hmany, List.foldl_map, Nat.ofDigitChars_eq_foldl]

/-- An id is searched for by its digits. -/
theorem numeric_of_uint64 {n : Int} (hn : 0 ≤ n ∧ n ≤ maxUint64)
    (hq : Text.strip q = toString n) :
    classifyQuery (Text.strip q) = some .numeric ∧ Text.int (Text.strip q) = .ok n := by
  obtain ⟨m, rfl⟩ := Int.eq_ofNat_of_zero_le hn.1
  have hdigits : (Text.strip q).toList = Nat.toDigits 10 m := by
    rw [hq]
    exact Nat.toList_repr
  have hfew : (Nat.toDigits 10 m).length ≤ 20 := by
    rw [Nat.length_toDigits_le_iff (by decide) (by decide)]
    have hmax := hn.2
    unfold maxUint64 at hmax
    omega
  have hstrip : Text.stripChars (Text.strip q).toList = (Text.strip q).toList := by
    rw [Text.toList_strip, Text.stripChars_stripChars]
  have hne : (Text.strip q).toList ≠ [] := by
    rw [hdigits]
    exact Nat.toDigits_ne_nil
  have hmany : (Text.strip q).toList.length ≤ Text.intMaxStrDigits := by
    rw [hdigits]
    exact hfew.trans (by decide)
  have hascii : Numeral.IsDigits (Text.strip q).toList := by
    rw [hdigits]
    exact Numeral.isDigits_toDigits m
  obtain ⟨hisdigit, hint⟩ := int_of_isDigits hstrip hne hascii hmany
  refine ⟨?_, ?_⟩
  · unfold classifyQuery
    dsimp only
    rw [Text.strip_strip, if_neg (by simpa using hne), if_neg, if_neg, if_pos hisdigit]
    · rintro ⟨hlength, -⟩
      rw [hdigits, txidLength] at hlength
      omega
    · rintro ⟨hlength, -⟩
      rw [hdigits, addressLength] at hlength
      omega
  · rw [hint, hdigits, Nat.ofDigitChars_ten_toDigits]

/-- **Every valid identifier is recognised**, with any blanks around it. -/
theorem recognised_of_valid {thing : Named} (h : thing.Valid sha512_256)
    (hq : Text.strip q = thing.text) : Recognised sha512_256 q ∧ thing ∈ namedBy q := by
  cases thing with
  | address hash =>
    obtain rfl : Text.strip q = hash := hq
    have hkind : classifyQuery (Text.strip q) = some .address :=
      classifyQuery_of_accepts ((validateAddress_ok_iff_accepts _).mp h) (.inl ⟨rfl, rfl⟩)
    refine ⟨⟨by simp [hkind], fun _ => h, ?_⟩, by simp [namedBy, hkind]⟩
    simp [hkind]
  | transaction txid =>
    obtain rfl : Text.strip q = txid := hq
    have hkind : classifyQuery (Text.strip q) = some .transaction :=
      classifyQuery_of_accepts ((validateTxid_ok_iff_accepts _).mp h) (.inr ⟨rfl, rfl⟩)
    refine ⟨⟨by simp [hkind], ?_, ?_⟩, by simp [namedBy, hkind]⟩
    · simp [hkind]
    · simp [hkind]
  | token assetId =>
    obtain ⟨hkind, hint⟩ := numeric_of_uint64 h hq
    refine ⟨⟨by simp [hkind], by simp [hkind], fun _ => ⟨_, hint⟩⟩, ?_⟩
    simp only [namedBy, hkind, hint]
    rw [if_pos (show 0 ≤ assetId ∧ assetId ≤ maxUint64 from h)]
    exact List.mem_cons_self
  | smartContract appId =>
    obtain ⟨hkind, hint⟩ := numeric_of_uint64 h hq
    refine ⟨⟨by simp [hkind], by simp [hkind], fun _ => ⟨_, hint⟩⟩, ?_⟩
    simp only [namedBy, hkind, hint]
    rw [if_pos (show 0 ≤ appId ∧ appId ≤ maxUint64 from h)]
    exact List.mem_cons_of_mem _ List.mem_cons_self

/-! ### The routes of the things -/

variable {now : ℚ} {answer : Call → Outcome} {cache : TTLCache Json} {thing : Named}

/-- What the cache would give for the thing is what the upstream answers: nothing is cached, or its
    record has not changed since. -/
def UpToDate (now : ℚ) (answer : Call → Outcome) (cache : TTLCache Json) (thing : Named) : Prop :=
  ∀ kind key (hit : Json), thing.call.entry = some (kind, key) →
    (cache.get now kind key).1 = some hit → answer thing.call = .ok hit

/-- `get_or_fetch` then gives what the upstream answers. -/
theorem run_getOrFetch_of_upToDate {kind key : String} (hcache : UpToDate now answer cache thing)
    (hentry : thing.call.entry = some (kind, key)) :
    ((getOrFetch kind key (upstream thing.call)).run (atOnce now answer) cache).1 =
      (answer thing.call).mapError .algorand := by
  rw [run_getOrFetch]
  cases hget : (cache.get now kind key).1 with
  | some hit =>
    rw [TTLCache.getOrFetch_of_hit hget, hcache kind key hit hentry hget]
    rfl
  | none =>
    cases answer thing.call with
    | error exc =>
      rw [Except.map, TTLCache.getOrFetch_of_raise hget]
      rfl
    | ok payload =>
      rw [Except.map, TTLCache.getOrFetch_of_miss hget]
      simp only [Except.mapError, Except.map, Json.ofValue_asValue]

/-- A route that checks its identifier, fetches, and maps what it got. -/
theorem run_fetching {α ρ : Type} {x : Except Raised ρ} {a : ρ} (hvalid : x = .ok a)
    {fetch : Route Json} {outcome : Outcome}
    (hfetch : (fetch.run (atOnce now answer) cache).1 = outcome.mapError .algorand)
    (mapper : Json → Except ServiceError α) (f : α → ApiResponse) :
    (Program.run (atOnce now answer) (f <$> (Program.ofExcept
      (x.mapError ServiceError.validation) >>= fun _ => fetch >>= fun payload =>
        Program.ofExcept (mapper payload))) cache).1 =
      (outcome.mapError .algorand).bind fun payload => (mapper payload).map f := by
  subst hvalid
  show (Program.run _ ((fetch >>= fun payload => Program.ofExcept (mapper payload)) >>=
    fun b => pure (f b)) cache).1 = _
  rw [run_bind_fst, run_bind_fst, hfetch]
  cases outcome with
  | error exc => rfl
  | ok payload =>
    show ((mapper payload).bind fun b => _) = (mapper payload).map f
    cases mapper payload with
    | error e => rfl
    | ok b => rfl

/-- **What the thing's own route responds.** -/
theorem run_own_route (hvalid : thing.Valid sha512_256)
    (hcache : UpToDate now answer cache thing) :
    ((respond sha512_256 keyText config thing.request).run (atOnce now answer) cache).1 =
      ((answer thing.call).mapError .algorand).bind fun payload =>
        thing.response keyText payload := by
  cases thing with
  | address hash => exact run_fetching hvalid (congrArg Prod.fst (run_upstream _)) _ _
  | transaction txid =>
    exact run_fetching hvalid (run_getOrFetch_of_upToDate hcache rfl) _ _
  | token assetId =>
    exact run_fetching (validateUint64_of_range hvalid "asset_id")
      (run_getOrFetch_of_upToDate hcache rfl) _ _
  | smartContract appId =>
    exact run_fetching (validateUint64_of_range hvalid "app_id")
      (run_getOrFetch_of_upToDate hcache rfl) _ _

/-! ### The search for them -/

/-- What search finds of a thing. -/
def lookedUp (keyText : KeyText) (answer : Call → Outcome) (thing : Named) :
    Except PyError (List SearchItem) :=
  match answer thing.call with
  | .ok payload => thing.found keyText payload
  | .error _ => .ok []

/-- A probe looks one thing up, and changes nothing. -/
theorem run_probe_atOnce (thing : Named) :
    (probe thing.call fun payload => thing.found keyText payload).run (atOnce now answer) cache =
      (mapping (lookedUp keyText answer thing), cache) := by
  unfold probe lookedUp
  rw [run_askUpstream_bind]
  cases answer thing.call with
  | ok payload => rfl
  | error exc => rfl

/-- A search with one probe. -/
theorem run_one_probe (thing : Named) (note : String) :
    ((probe thing.call fun payload => thing.found keyText payload) >>= fun items =>
      pure (SearchResponse.mk items note)).run (atOnce now answer) cache |>.1.map
        SearchResponse.items =
      mapping (([thing].mapM (lookedUp keyText answer)).map List.flatten) := by
  rw [run_bind_fst, run_probe_atOnce, List.mapM_cons, List.mapM_nil]
  cases lookedUp keyText answer thing with
  | error e => rfl
  | ok items =>
    show Except.ok items = .ok ([items].flatten)
    rw [List.flatten_singleton]

/-- A search with two. -/
theorem run_two_probes (thing thing' : Named) (note : String) :
    ((probe thing.call fun payload => thing.found keyText payload) >>= fun items =>
      (probe thing'.call fun payload => thing'.found keyText payload) >>= fun items' =>
        pure (SearchResponse.mk (items ++ items') note)).run (atOnce now answer) cache |>.1.map
          SearchResponse.items =
      mapping (([thing, thing'].mapM (lookedUp keyText answer)).map List.flatten) := by
  rw [run_bind_fst, run_probe_atOnce, List.mapM_cons, List.mapM_cons, List.mapM_nil]
  cases lookedUp keyText answer thing with
  | error e => rfl
  | ok items =>
    show ((Program.run _ ((probe _ _) >>= _) cache).1.map SearchResponse.items) = _
    rw [run_bind_fst, run_probe_atOnce]
    cases lookedUp keyText answer thing' with
    | error e => rfl
    | ok items' =>
      show Except.ok (items ++ items') = .ok ([items, items'].flatten)
      rw [List.flatten_cons, List.flatten_singleton]

/-- **The search for a recognised term** looks up what the term names. -/
theorem run_search (hq : Recognised sha512_256 q) (limit : Int) :
    ((search keyText q limit).run (atOnce now answer) cache).1.map SearchResponse.items =
      mapping (((namedBy q).mapM (lookedUp keyText answer)).map List.flatten) := by
  unfold search
  dsimp only
  cases hq.cases with
  | address hkind _ hnamed =>
    rw [hkind, hnamed]
    exact run_one_probe (.address (Text.strip q)) candidatesNote
  | transaction hkind hnamed =>
    rw [hkind, hnamed]
    exact run_one_probe (.transaction (Text.strip q)) candidatesNote
  | numeric n hkind hn hnamed =>
    rw [hkind, hnamed]
    dsimp only
    rw [hn, show (mapping (.ok n) : Except ServiceError Int) = .ok n from rfl,
      run_ofExcept_ok_bind]
    by_cases hrange : 0 ≤ n ∧ n ≤ maxUint64
    · rw [if_pos hrange, validateUint64_of_range hrange]
      exact run_two_probes (.token n) (.smartContract n) candidatesNote
    · obtain ⟨e, he⟩ := validateUint64_of_out_of_range hrange "id"
      rw [if_neg hrange, he]
      rfl

/-! ### What they tell -/

/-- What the route of a thing responds, and what search finds of it. -/
inductive Tells : Except ServiceError ApiResponse → Except PyError (List SearchItem) → Prop
  | address (data : MappedAccount) : Tells (.ok (.address data)) (.ok [.address data])
  /-- Search does not count the confirmations. -/
  | transaction (data : MappedTransaction) (confirmations : Option Int)
      (none_counted : data.confirmations = none) :
    Tells (.ok (.transaction { data with confirmations })) (.ok [.transaction data])
  | token (data : MappedAsset) : Tells (.ok (.token data)) (.ok [.token data])
  | smartContract (data : MappedApplication) :
    Tells (.ok (.smartContract data)) (.ok [.smartContract data])
  /-- The upstream has no such thing, or failed. -/
  | failed (exc : AlgorandError) : Tells (.error (.algorand exc)) (.ok [])
  /-- The payload holds no transaction. -/
  | absent (exc : HttpException) : Tells (.error (.http exc)) (.ok [])
  /-- The mapper raises. -/
  | crashed (e : PyError) : Tells (.error (.unhandled e)) (.error e)
  /-- The mapper does not, but the confirmations cannot be counted. -/
  | uncounted (data : MappedTransaction) (e : PyError) :
    Tells (.error (.unhandled e)) (.ok [.transaction data])

/-- The mapper leaves the confirmations to its caller. -/
theorem confirmations_of_mapTransaction {tx : Json} {m : MappedTransaction}
    (h : mapTransaction tx = .ok m) : m.confirmations = none := by
  obtain ⟨⟨members, mapped, -, hmapped, hm⟩, -⟩ := mapTransaction_eq_ok_iff.mp h
  rw [hm]
  exact (mapFields_spec hmapped).1

/-- A transaction payload, in the route and in search. -/
theorem tells_transaction (payload : Json) :
    Tells ((transactionResponse payload).map .transaction) (foundTransaction payload) := by
  unfold transactionResponse foundTransaction
  cases payload.asDict with
  | error e => exact .crashed e
  | ok members =>
    show Tells (Except.map _ (if _ then _ else _)) (if _ then _ else _)
    cases htruthy : (members.get "transaction").truthy with
    | false => exact .absent _
    | true =>
      show Tells (Except.map _ (mapping (mapTransaction (members.get "transaction")) >>= _))
        (mapTransaction (members.get "transaction") >>= _)
      cases hmapped : mapTransaction (members.get "transaction") with
      | error e => exact .crashed e
      | ok data =>
        show Tells (Except.map _
          (mapping (confirmationsOf (members.get "current-round") data.blockNumber) >>= _))
          (.ok [.transaction data])
        cases confirmationsOf (members.get "current-round") data.blockNumber with
        | error e => exact .uncounted data e
        | ok confirmations =>
          exact .transaction data confirmations (confirmations_of_mapTransaction hmapped)

/-- One payload, in the route and in search. -/
theorem tells_payload (thing : Named) (payload : Json) :
    Tells (thing.response keyText payload) (thing.found keyText payload) := by
  cases thing with
  | address hash =>
    show Tells ((mapping (mapAccount payload)).map .address)
      (mapAccount payload >>= fun data => pure [SearchItem.address data])
    cases mapAccount payload with
    | error e => exact .crashed e
    | ok data => exact .address data
  | transaction txid => exact tells_transaction payload
  | token assetId =>
    show Tells ((mapping (mapAsset payload)).map .token)
      (mapAsset payload >>= fun data => pure [SearchItem.token data])
    cases mapAsset payload with
    | error e => exact .crashed e
    | ok data => exact .token data
  | smartContract appId =>
    show Tells ((mapping (mapApplication keyText payload)).map .smartContract)
      (mapApplication keyText payload >>= fun data => pure [SearchItem.smartContract data])
    cases mapApplication keyText payload with
    | error e => exact .crashed e
    | ok data => exact .smartContract data

theorem tells_lookedUp (thing : Named) :
    Tells (((answer thing.call).mapError .algorand).bind fun payload =>
      thing.response keyText payload) (lookedUp keyText answer thing) := by
  unfold lookedUp
  cases answer thing.call with
  | error exc => exact .failed exc
  | ok payload => exact tells_payload thing payload

/-- **Search tells what the routes tell.**  For a term that it recognises, search finds of each
    thing that the term names what the thing's own route responds at that moment, in their order
    and nothing else; and every identifier that the address, transaction, token or smart-contract
    route accepts is recognised.  A transaction whose confirmations cannot be counted, which is an
    exception of the route, is found all the same. -/
theorem search_tells (sha512_256 : List UInt8 → Digest) (keyText : KeyText)
    (config : AlgorandConfig) (now : ℚ) (answer : Call → Outcome) (cache : TTLCache Json) :
    (∀ (q : String) (limit : Int), Recognised sha512_256 q →
      (∀ thing ∈ namedBy q, UpToDate now answer cache thing) →
      ∃ found, List.Forall₂ (fun thing items => Tells
          ((respond sha512_256 keyText config thing.request).run (atOnce now answer) cache).1 items)
          (namedBy q) found ∧
        ((search keyText q limit).run (atOnce now answer) cache).1.map SearchResponse.items =
          mapping ((found.mapM id).map List.flatten)) ∧
    ∀ (q : String) (thing : Named), thing.Valid sha512_256 → Text.strip q = thing.text →
      Recognised sha512_256 q ∧ thing ∈ namedBy q := by
  refine ⟨?_, fun q thing => recognised_of_valid⟩
  intro q limit hq hcache
  refine ⟨(namedBy q).map (lookedUp keyText answer), ?_, ?_⟩
  · rw [List.forall₂_map_right_iff, List.forall₂_same]
    intro thing hthing
    rw [run_own_route (valid_of_mem_namedBy hq hthing) (hcache thing hthing)]
    exact tells_lookedUp thing
  · rw [run_search hq limit, List.mapM_map]
    rfl

/-- Nothing is cached at first. -/
theorem upToDate_new (maxEntries : ℕ) (thing : Named) :
    UpToDate now answer (TTLCache.new maxEntries) thing := by
  intro kind key hit _ hget
  rw [TTLCache.get_fst] at hget
  obtain ⟨entry, hlive, -⟩ := Option.bind_eq_some_iff.mp hget
  obtain ⟨hlookup, -⟩ := TTLCache.live_eq_some_iff.mp hlive
  simp [TTLCache.new] at hlookup

/-- An upstream that knows one asset. -/
def usdcOnly : Call → Outcome
  | .asset (.int 31566704) => .ok (.obj [("asset", .obj [("index", .int 31566704),
      ("params", .obj [("name", .str "USDC"), ("decimals", .int 6)])])])
  | _ => .error ⟨true, "not found", some 404, ""⟩

/-- The search for its id finds the token as its route tells it. -/
theorem search_tells_usdc : Named.token 31566704 ∈ namedBy " 31566704 " ∧
    ∃ found, List.Forall₂ (fun (thing : Named) items => Tells
        ((respond (fun _ => zeroKeyDigest) (fun _ => none) mainnetConfig thing.request).run
          (atOnce 0 usdcOnly) (TTLCache.new 2048)).1 items) (namedBy " 31566704 ") found ∧
      ((search (fun _ => none) " 31566704 " 10).run (atOnce 0 usdcOnly)
        (TTLCache.new 2048)).1.map SearchResponse.items =
        mapping ((found.mapM id).map List.flatten) := by
  have htells := search_tells (fun _ => zeroKeyDigest) (fun _ => none) mainnetConfig 0 usdcOnly
    (TTLCache.new 2048)
  obtain ⟨hrecognised, hmem⟩ :=
    htells.2 " 31566704 " (.token 31566704) ⟨by decide, by decide⟩ (by decide)
  exact ⟨hmem, htells.1 _ 10 hrecognised fun thing _ => upToDate_new 2048 thing⟩

end Algorandscout
