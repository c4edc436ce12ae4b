import Mathlib
import Algorandscout.Transport
import Algorandscout.WellNamed
import Algorandscout.Library.FormEncoding
import Algorandscout.Library.Numeral

namespace Algorandscout

open Library Library.FormEncoding

/-!
# What the URLs ask for

`_get` writes a call into one string: the base URL, a path that identifiers are pasted into, and
a query that `urlencode` makes of the parameters.  Path and query values come from whoever asks
the service.

* `readUrl` — a URL, taken apart as the upstream does it;
* `readUrl_getUrl` — the parameters are read back, whatever texts they are;
* `readCall` — the call that a path and a query name;
* `readCall_requestUrl` — every well-named call is read back from its URL, so no value adds to,
  changes or cuts off the rest of the request.
-/

/-! ### Queries -/

/-- The characters that `quote_plus` leaves as they are. -/
def quoteSafe : SafeSet where
  contains := fun c => c.isAlphanum || ['_', '.', '-', '~'].contains c
  none_reserved := by decide

/-- A parameter as a field. -/
def fieldOf (param : String × Json) : Field := (param.1.toList, param.2.pyStr.toList)

/-- The parameters that are set. -/
def setParams (params : Dict) : List Field :=
  (params.filter fun param => !param.2.isNull).map fieldOf

theorem urlencode_eq (query : Dict) :
    urlencode query = encodeQuery quoteSafe (query.map fieldOf) := by
  unfold urlencode encodeQuery
  rw [List.map_map]
  rfl

/-- The query part is nothing, or a question mark and the query of what is set. -/
theorem queryPart_cases (params : Dict) :
    (setParams params = [] ∧ queryPart params = []) ∨
      queryPart params = '?' :: encodeQuery quoteSafe (setParams params) := by
  have hcode := urlencode_eq (params.filter fun param => !param.2.isNull)
  unfold queryPart setParams
  dsimp only
  split_ifs with hempty
  · rw [List.isEmpty_iff] at hempty
    refine .inl ⟨?_, rfl⟩
    rw [hempty]
    rfl
  · exact .inr (congrArg _ hcode)

/-- No fragment begins in a query. -/
theorem hash_notMem_queryPart (params : Dict) : '#' ∉ queryPart params := by
  have htext : ∀ cs, '#' ∉ encode quoteSafe cs :=
    notMem_encode quoteSafe (by decide) (by decide)
  rcases queryPart_cases params with ⟨-, h⟩ | h
  · rw [h]
    exact List.not_mem_nil
  · rw [h]
    have hquery := notMem_encodeQuery quoteSafe htext (by decide) (by decide) (setParams params)
    simp [hquery]

/-! ### URLs -/

/-- What a URL asks for below `base`: the segments of its path, and the fields of its query.  A
    fragment is not sent. -/
def readUrl (base url : String) : Option (List Segment × List Field) :=
  if base.toList <+: url.toList then
    let sent := (url.toList.drop base.toList.length).takeWhile (· != '#')
    let path := sent.takeWhile (· != '?')
    let query := (sent.dropWhile (· != '?')).drop 1
    (decodeQuery query).map fun fields => ((path.drop 1).splitOn '/', fields)
  else none

/-- A plain segment ends nowhere. -/
theorem Segment.Plain.notMem {s : Segment} (h : s.Plain) {c : Char} (hc : endsSegment c = true) :
    c ∉ s := by
  intro hmem
  rw [h c hmem] at hc
  cases hc

theorem notMem_joinPath {segments : List Segment} (h : ∀ s ∈ segments, s.Plain) {c : Char}
    (hc : endsPath c = true) : c ∉ joinPath segments := by
  intro hmem
  obtain ⟨s, hs, hmem⟩ := List.mem_flatMap.mp hmem
  have hends : endsSegment c = true := by
    unfold endsSegment
    rw [hc, Bool.or_true]
  rcases List.mem_cons.mp hmem with rfl | hmem
  · exact absurd hc (by decide)
  · exact (h s hs).notMem hends hmem

/-- **A URL is taken apart where it was put together**, whatever the parameters hold. -/
theorem readUrl_getUrl (base : String) {segments : List Segment} (hne : segments ≠ [])
    (hplain : ∀ s ∈ segments, s.Plain) (params : Dict) :
    readUrl base (getUrl base (String.ofList (joinPath segments)) params) =
      some (segments, setParams params) := by
  have hurl : (getUrl base (String.ofList (joinPath segments)) params).toList =
      base.toList ++ (joinPath segments ++ queryPart params) := by
    unfold getUrl
    rw [String.toList_ofList, String.toList_ofList, List.append_assoc]
  have hsent : (joinPath segments ++ queryPart params).takeWhile (· != '#') =
      joinPath segments ++ queryPart params := by
    rw [List.takeWhile_eq_self_iff]
    intro c hc
    rw [bne_iff_ne]
    rintro rfl
    rcases List.mem_append.mp hc with hc | hc
    · exact notMem_joinPath hplain (by decide) hc
    · exact hash_notMem_queryPart params hc
  have hpath : ∀ c ∈ joinPath segments, (c != '?') = true := by
    intro c hc
    rw [bne_iff_ne]
    rintro rfl
    exact notMem_joinPath hplain (by decide) hc
  have hsplit : ((joinPath segments).drop 1).splitOn '/' = segments :=
    splitOn_joinPath hne fun s hs => (hplain s hs).notMem (by decide)
  have hread : (joinPath segments ++ queryPart params).takeWhile (· != '?') = joinPath segments ∧
      decodeQuery (((joinPath segments ++ queryPart params).dropWhile (· != '?')).drop 1) =
        some (setParams params) := by
    rw [List.takeWhile_append_of_pos hpath, List.dropWhile_append_of_pos hpath]
    rcases queryPart_cases params with ⟨hparams, hquery⟩ | hquery
    · rw [hquery, hparams]
      exact ⟨List.append_nil _, rfl⟩
    · rw [hquery]
      exact ⟨by simp, decodeQuery_encodeQuery quoteSafe _⟩
  unfold readUrl
  rw [hurl, if_pos (List.prefix_append _ _), List.drop_left]
  simp only [hsent, hread, hsplit, Option.map_some]

/-! ### Calls -/

/-- The names in the path of a call.  The path that the passthrough is given is not made of
    names. -/
def Call.names : Call → List String
  | .status => ["v2", "status"]
  | .indexerHealth => ["health"]
  | .account address _ => ["v2", "accounts", address]
  | .accountAssets address _ _ => ["v2", "accounts", address, "assets"]
  | .accountTransactions address _ _ _ _ _ _ => ["v2", "accounts", address, "transactions"]
  | .transaction txid => ["v2", "transactions", txid]
  | .block roundNumber => ["v2", "blocks", roundNumber.pyStr]
  | .asset assetId => ["v2", "assets", assetId.pyStr]
  | .assetBalances assetId _ _ => ["v2", "assets", toString assetId, "balances"]
  | .application appId => ["v2", "applications", toString appId]
  | .applicationBoxes appId _ _ => ["v2", "applications", toString appId, "boxes"]
  | .searchAssets _ _ _ => ["v2", "assets"]
  | .indexer _ _ => []

/-- The call is one of the read methods, and not the passthrough's. -/
def Call.IsRead (call : Call) : Prop := ∀ path params, call ≠ .indexer path params

/-- The value of a field. -/
def textOf (fields : List Field) (name : String) : Option String :=
  (fields.lookup name.toList).map String.ofList

/-- The number of a field that may be missing. -/
def optNumber : Option String → Option (Option Int)
  | none => some none
  | some text => text.toInt?.map some

/-- The call that a path and a query name. -/
def readCall (upstream : Upstream) (names : List String) (fields : List Field) : Option Call :=
  let limit := (textOf fields "limit").bind String.toInt?
  let nextToken := textOf fields "next"
  match names with
  | ["v2", "status"] => some .status
  | ["health"] => some .indexerHealth
  | ["v2", "accounts", address] => some (.account address (upstream = .algod))
  | ["v2", "accounts", address, "assets"] => do
    return .accountAssets address (← limit) nextToken
  | ["v2", "accounts", address, "transactions"] => do
    return .accountTransactions address (← limit) nextToken (textOf fields "after-time")
      (textOf fields "before-time") (textOf fields "tx-type")
      (← optNumber (textOf fields "asset-id"))
  | ["v2", "transactions", txid] => some (.transaction txid)
  | ["v2", "blocks", roundNumber] => do return .block (.int (← roundNumber.toInt?))
  | ["v2", "assets", assetId] => do return .asset (.int (← assetId.toInt?))
  | ["v2", "assets", assetId, "balances"] => do
    return .assetBalances (← assetId.toInt?) (← limit) nextToken
  | ["v2", "applications", appId] => do return .application (← appId.toInt?)
  | ["v2", "applications", appId, "boxes"] => do
    return .applicationBoxes (← appId.toInt?) (← limit) nextToken
  | ["v2", "assets"] => do
    return .searchAssets (textOf fields "unit") (textOf fields "name") (← limit)
  | _ => none

/-- The path of a call is made of its names. -/
theorem Call.path_eq {call : Call} (h : call.IsRead) :
    call.request.path = String.ofList (joinPath (call.names.map String.toList)) := by
  have htext : ∀ s : String, toString s = s := fun _ => rfl
  rw [← String.toList_inj, String.toList_ofList]
  cases call with
  | indexer path params => exact absurd rfl (h path params)
  | _ => simp [request, names, joinPath, htext]

theorem textOf_nil (name : String) : textOf (setParams []) name = none := rfl

/-- The value of a parameter that is set is read, and one that is not is passed over. -/
theorem textOf_cons (key : String) (value : Json) (params : Dict) (name : String) :
    textOf (setParams ((key, value) :: params)) name =
      if name = key ∧ value.isNull = false then some value.pyStr
      else textOf (setParams params) name := by
  unfold textOf setParams
  cases hnull : value.isNull with
  | true => simp [hnull]
  | false =>
    by_cases hname : name = key
    · subst hname
      simp [hnull, fieldOf]
    · have hlist : (name.toList == key.toList) = false := by
        simpa [String.toList_inj] using hname
      simp [hnull, hname, fieldOf, List.lookup_cons, hlist]

theorem textOf_cons_str (key : String) (value : Option String) (params : Dict) (name : String) :
    textOf (setParams ((key, optParam .str value) :: params)) name =
      if name = key then value.or (textOf (setParams params) name)
      else textOf (setParams params) name := by
  rw [textOf_cons]
  cases value with
  | none => simp [optParam]
  | some text =>
    have hnull : (Json.str text).isNull = false := rfl
    simp [optParam, hnull, Json.pyStr]

theorem textOf_cons_limit (key : String) (n : Int) (params : Dict) (name : String) :
    textOf (setParams ((key, .int n) :: params)) name =
      if name = key then some n.repr else textOf (setParams params) name := by
  rw [textOf_cons]
  simp

theorem textOf_cons_int (key : String) (value : Option Int) (params : Dict) (name : String) :
    textOf (setParams ((key, optParam .int value) :: params)) name =
      if name = key then (value.map Int.repr).or (textOf (setParams params) name)
      else textOf (setParams params) name := by
  rw [textOf_cons]
  cases value with
  | none => simp [optParam]
  | some n => simp [optParam]

theorem optNumber_map (value : Option Int) : optNumber (value.map Int.repr) = some value := by
  cases value with
  | none => rfl
  | some n => simp [optNumber, Int.toInt?_repr]

/-- **The names and the parameters of a call name it**; a round and an asset id are integers. -/
theorem readCall_request {call : Call} (hread : call.IsRead) (hround : ∀ x, call = .block x →
    IsUint64 x) (hasset : ∀ x, call = .asset x → IsUint64 x) :
    readCall call.request.upstream call.names (setParams call.request.params) = some call := by
  cases call with
  | indexer path params => exact absurd rfl (hread path params)
  | block roundNumber =>
    obtain ⟨n, rfl, -⟩ := hround roundNumber rfl
    simp [readCall, Call.names, Int.toInt?_repr]
  | asset assetId =>
    obtain ⟨n, rfl, -⟩ := hasset assetId rfl
    simp [readCall, Call.names, Int.toInt?_repr]
  | account address live => cases live <;> simp [readCall, Call.names, Call.request]
  | _ =>
    simp [readCall, Call.names, Call.request, textOf_cons_limit, textOf_cons_str,
      textOf_cons_int, textOf_nil, Int.toInt?_repr, optNumber_map]

/-! ### Well-named calls -/

theorem Segment.plain_of_digits {cs : List Char} (h : Numeral.IsDigits cs) :
    Segment.Plain cs := by
  intro c hc
  have hslash : c ≠ '/' := Numeral.ne_of_isDigit (h c hc) (by decide)
  have hquery : c ≠ '?' := Numeral.ne_of_isDigit (h c hc) (by decide)
  have hfragment : c ≠ '#' := Numeral.ne_of_isDigit (h c hc) (by decide)
  simp [endsSegment, endsPath, hslash, hquery, hfragment]

/-- A uint64 in a path. -/
theorem Segment.plain_pyStr {x : Json} (h : IsUint64 x) : Segment.Plain x.pyStr.toList := by
  obtain ⟨n, rfl, hn, -⟩ := h
  obtain ⟨m, rfl⟩ := Int.eq_ofNat_of_zero_le hn
  have hdigits : (Json.int m).pyStr.toList = Nat.toDigits 10 m := Nat.toList_repr
  rw [hdigits]
  exact Segment.plain_of_digits (Numeral.isDigits_toDigits m)

/-- Base32 text in a path. -/
theorem Segment.plain_of_accepts {n : ℕ} {P : List UInt8 → Prop} {s : String}
    (h : Accepts n P s) : Segment.Plain s.toList := by
  have halphabet : base32Alphabet.all (fun c => !endsSegment c) = true := by decide
  obtain ⟨syms, hs, -, hsyms, -⟩ := h
  intro c hc
  rw [hsyms] at hc
  have hplain := List.all_eq_true.mp halphabet c (mem_alphabet_of_mem_symbols hs c hc)
  simpa using hplain

/-- The identifiers that a call names are accepted by their validators. -/
def Call.Identified (sha512_256 : List UInt8 → Digest) : Call → Prop
  -- What an asset search is given is no identifier.
  | .searchAssets _ _ _ => True
  | call => call.WellNamed sha512_256

variable {sha512_256 : List UInt8 → Digest}

theorem Segment.plain_address {address : String}
    (h : validateAddress sha512_256 address = .ok address) : Segment.Plain address.toList :=
  Segment.plain_of_accepts ((validateAddress_eq_ok_iff address address).mp h).2

theorem Segment.plain_txid {txid : String} (h : validateTxid txid = .ok txid) :
    Segment.Plain txid.toList :=
  Segment.plain_of_accepts ((validateTxid_eq_ok_iff txid txid).mp h).2

/-- **Identifiers end no segment.** -/
theorem Call.names_plain {call : Call} (h : call.Identified sha512_256) :
    ∀ s ∈ call.names.map String.toList, Segment.Plain s := by
  have hversion : Segment.Plain "v2".toList := Segment.plain_of_all (by decide)
  have haccounts : Segment.Plain "accounts".toList := Segment.plain_of_all (by decide)
  have hassets : Segment.Plain "assets".toList := Segment.plain_of_all (by decide)
  have happlications : Segment.Plain "applications".toList := Segment.plain_of_all (by decide)
  cases call with
  | status => simpa [names] using ⟨hversion, Segment.plain_of_all (by decide)⟩
  | indexerHealth => simpa [names] using Segment.plain_of_all (by decide)
  | account address live => simpa [names] using ⟨hversion, haccounts, Segment.plain_address h⟩
  | accountAssets address limit nextToken =>
    simpa [names] using ⟨hversion, haccounts, Segment.plain_address h, hassets⟩
  | accountTransactions address limit nextToken afterTime beforeTime txType assetId =>
    simpa [names] using ⟨hversion, haccounts, Segment.plain_address h.1,
      Segment.plain_of_all (by decide)⟩
  | transaction txid =>
    simpa [names] using ⟨hversion, Segment.plain_of_all (by decide), Segment.plain_txid h⟩
  | block roundNumber =>
    simpa [names] using ⟨hversion, Segment.plain_of_all (by decide), Segment.plain_pyStr h⟩
  | asset assetId => simpa [names] using ⟨hversion, hassets, Segment.plain_pyStr h⟩
  | assetBalances assetId limit nextToken =>
    simpa [names] using ⟨hversion, hassets, Segment.plain_pyStr h,
      Segment.plain_of_all (by decide)⟩
  | application appId =>
    simpa [names] using ⟨hversion, happlications, Segment.plain_pyStr h⟩
  | applicationBoxes appId limit nextToken =>
    simpa [names] using ⟨hversion, happlications, Segment.plain_pyStr h,
      Segment.plain_of_all (by decide)⟩
  | searchAssets unit name limit => simpa [names] using ⟨hversion, hassets⟩
  | indexer path params => simp [names]

/-- The call that a URL asks an upstream for. -/
def callOfUrl (config : AlgorandConfig) (upstream : Upstream) (url : String) : Option Call := do
  let (segments, fields) ← readUrl (config.baseUrl upstream) url
  readCall upstream (segments.map String.ofList) fields

/-- **Every call is read back from its URL**, whatever the caller put into it. -/
theorem callOfUrl_requestUrl (config : AlgorandConfig) {call : Call}
    (hnamed : call.Identified sha512_256) (hread : call.IsRead) :
    callOfUrl config call.request.upstream (requestUrl config call.request) = some call := by
  have hne : call.names.map String.toList ≠ [] := by
    cases call with
    | indexer path params => exact absurd rfl (hread path params)
    | _ => simp [Call.names]
  have hurl := readUrl_getUrl (config.baseUrl call.request.upstream) hne
    (Call.names_plain hnamed) call.request.params
  have hnames : (call.names.map String.toList).map String.ofList = call.names := by
    simp [Function.comp_def]
  unfold callOfUrl requestUrl
  rw [Call.path_eq hread, hurl]
  simp only [Option.bind_eq_bind, Option.bind_some, hnames]
  apply readCall_request hread
  · rintro x rfl
    exact hnamed
  · rintro x rfl
    exact hnamed

/-- A search for a text that looks like more of the query. -/
def crookedSearch : Call := .searchAssets (some "A&limit=9#?") none 10

theorem callOfUrl_crookedSearch :
    callOfUrl mainnetConfig crookedSearch.request.upstream
      (requestUrl mainnetConfig crookedSearch.request) = some crookedSearch := by
  have hnamed : crookedSearch.Identified fun _ => zeroKeyDigest := trivial
  exact callOfUrl_requestUrl mainnetConfig hnamed fun _ _ h => nomatch h

end Algorandscout
