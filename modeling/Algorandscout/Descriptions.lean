import Algorandscout.Amounts
import Algorandscout.Routes
import Algorandscout.Texts

namespace Algorandscout

open Library

/-!
# Descriptions of an asset

Three routes describe an asset: the token route, the holdings of an address, and the holders of
the asset.

* `AssetPayload` — what the indexer says of an asset, whatever its params leave out;
* `token`, `holding`, `holders` — the three routes on it;
* `OneDescription` — the three describe the asset alike;
* `oneDescription_iff` — the assets of which they do.
-/

/-- What the indexer says of an asset.  The params are absent, null or a dict, in which the total
    and the decimals are integers where they are there. -/
structure AssetPayload where
  assetId : Int
  assetId_range : 0 ≤ assetId ∧ assetId ≤ maxUint64
  members : Dict
  asset : Dict
  asset_eq : members.lookup "asset" = some (.obj asset)
  params_eq : asset.get "params" = .null ∨
    ∃ d : Dict, asset.get "params" = .obj d ∧ IsInteger d "total" ∧ IsInteger d "decimals"

namespace AssetPayload

variable (p : AssetPayload)

/-- The params; none when they are absent or null. -/
def params : Dict :=
  match p.asset.get "params" with
  | .obj d => d
  | _ => []

/-- The decimals are given. -/
def HasDecimals : Prop := ∃ n, p.params.lookup "decimals" = some (.int n)

/-- A page of holdings, with one of the asset. -/
def holdingsPage (amount : Int) : Json :=
  .obj [("assets", .arr [.obj [("asset-id", .int p.assetId), ("amount", .int amount)]])]

/-- A page of the asset's holders, with one of them. -/
def balancesPage (amount : Int) : Json := .obj [("balances", .arr [.obj [("amount", .int amount)]])]

/-- The indexer. -/
def answer (amount : Int) : Call → Outcome
  | .asset _ => .ok (.obj p.members)
  | .assetBalances _ _ _ => .ok (balancesPage amount)
  | _ => .ok .null

/-! ### The three routes -/

/-- The token route, on the payload. -/
def token : Except PyError MappedAsset := mapAsset (.obj p.members)

/-- The holdings, with the metadata that was resolved for them. -/
def holding (amount : Int) : Route (Page MappedHolding) := do
  let params ← resolveHoldings (p.holdingsPage amount)
  mapped (mapAccountAssets (p.holdingsPage amount) params)

/-- What the holdings route responds with. -/
def holdings (amount : Int) (now : ℚ) (cache : TTLCache Json) :
    Except ServiceError (Page MappedHolding) :=
  ((p.holding amount).run (atOnce now (p.answer amount)) cache).1

/-- What the holders route responds with. -/
def holders (amount limit : Int) (nextToken : Option String) (now : ℚ) (cache : TTLCache Json) :
    Except ServiceError (Page MappedHolder) :=
  ((getTokenHolders p.assetId limit nextToken true).run (atOnce now (p.answer amount)) cache).1

end AssetPayload

/-! ### What they should agree on -/

/-- `classify_asset` on the total and the decimals that a response reports. -/
def classifyReported (totalSupply : Option String) (decimals : Json) : String :=
  let total : Dict := match totalSupply.bind String.toInt? with
    | some n => [("total", .int n)]
    | none => []
  classifyAsset (("decimals", decimals) :: total)

/-- The responses describe one asset: `decimals` are those that the holders are rendered with. -/
structure OneDescription (token : MappedAsset) (holding : MappedHolding) (holder : MappedHolder)
    (decimals : Json) (amount : Int) : Prop where
  decimals : token.decimals = holding.token.decimals ∧ token.decimals = decimals
  totalSupply : token.totalSupply = holding.token.totalSupply
  type : token.type = holding.token.type
  valueDecimal : holding.valueDecimal = holder.valueDecimal
  /-- The token route renders one amount, the total. -/
  supplyDecimal : token.totalSupply = some (toString amount) →
    token.totalSupplyDecimal = holding.valueDecimal
  tokenType : token.type = classifyReported token.totalSupply token.decimals
  holdingType : holding.token.type =
    classifyReported holding.token.totalSupply holding.token.decimals

/-- All three routes respond, and describe one asset. -/
def AssetPayload.Described (p : AssetPayload) (amount limit : Int) (nextToken : Option String)
    (now : ℚ) (cache : TTLCache Json) : Prop :=
  ∃ token holding holder decimals,
    p.token = .ok token ∧ p.holdings amount now cache = .ok ⟨[holding], none⟩ ∧
    p.holders amount limit nextToken now cache = .ok ⟨[holder], none⟩ ∧
    resolvedDecimals (.obj p.members) = .ok decimals ∧
    OneDescription token holding holder decimals amount

namespace AssetPayload

variable (p : AssetPayload)

theorem params_isInteger : IsInteger p.params "total" ∧ IsInteger p.params "decimals" := by
  unfold params
  rcases p.params_eq with h | ⟨d, h, htotal, hdecimals⟩
  · rw [h]
    exact ⟨IsInteger.of_absent rfl, IsInteger.of_absent rfl⟩
  · rw [h]
    exact ⟨htotal, hdecimals⟩

theorem subDict_params : subDict p.asset "params" = .obj p.params := by
  unfold subDict params
  rw [Json.get_or_default]
  rcases p.params_eq with h | ⟨d, h, -, -⟩
  · rw [h]
    rfl
  · rw [h]
    cases d <;> rfl

theorem wrapped_asset (default : Json) :
    ((p.members.get "asset" default).or (.obj [])).asDict = .ok p.asset := by
  rw [Dict.get_of_lookup p.asset_eq]
  cases p.asset <;> rfl

/-! ### The token route -/

/-- The total, as it is reported. -/
def totalSupply : Option String :=
  if (p.params.get "total").isNull then none else some (p.params.get "total").pyStr

/-- A member that is absent or an integer, read with null for an absent one. -/
theorem get_eq_null_or_int {d : Dict} {key : String} (h : IsInteger d key) :
    (d.lookup key = none ∧ d.get key = .null) ∨ ∃ n, d.lookup key = some (.int n) := by
  cases hlookup : d.lookup key with
  | none => exact .inl ⟨rfl, Dict.get_of_lookup_none hlookup _⟩
  | some x =>
    obtain ⟨n, rfl⟩ := h x hlookup
    exact .inr ⟨n, rfl⟩

/-- **The token route**, with zero decimals when none are given: it responds if it can render the
    total. -/
theorem token_eq : ∃ token : Option String → MappedAsset,
    p.token = token <$> decimalString (p.params.get "total") (p.params.get "decimals" (.int 0)) ∧
    ∀ s, (token s).decimals = p.params.get "decimals" (.int 0) ∧
      (token s).totalSupply = p.totalSupply ∧ (token s).type = classifyAsset p.params ∧
      (token s).totalSupplyDecimal = s := by
  unfold token mapAsset
  simp only [Json.asDict_obj, ok_bind, p.wrapped_asset, p.subDict_params]
  exact ⟨_, bind_pure_comp _ _, fun s => ⟨rfl, rfl, rfl, rfl⟩⟩

/-- The total is rendered when `str` writes it; one that is not there is zero. -/
theorem exists_totalSupplyDecimal_iff :
    (∃ s, decimalString (p.params.get "total") (p.params.get "decimals" (.int 0)) = .ok s) ↔
      Text.Writable (amountOf p.params "total") := by
  rw [get_of_isInteger p.params_isInteger.2]
  unfold amountOf
  rcases get_eq_null_or_int p.params_isInteger.1 with ⟨habsent, hnull⟩ | ⟨n, hn⟩
  · rw [hnull, habsent]
    exact iff_of_true ⟨none, rfl⟩ (by decide)
  · rw [Dict.get_of_lookup hn, hn, decimalString_int]
    split_ifs with h
    · exact iff_of_true ⟨_, rfl⟩ h
    · exact iff_of_false (fun ⟨_, hs⟩ => nomatch hs) h

/-! ### The holdings -/

/-- An amount is rendered with decimals when `str` writes it. -/
theorem exists_valueDecimal_iff {amount n : Int} :
    (∃ s, valueDecimal (.int amount) (.int n) = .ok s) ↔ Text.Writable amount := by
  show (∃ s, decimalString (.int amount) (.int n) = .ok s) ↔ _
  rw [decimalString_int]
  split_ifs with h
  · exact iff_of_true ⟨_, rfl⟩ h
  · exact iff_of_false (fun ⟨_, hs⟩ => nomatch hs) h

theorem resolvedParams_eq : resolvedParams (.obj p.members) = .ok (.obj p.params) := by
  unfold resolvedParams
  have hasset : (subDict p.members "asset").asDict = .ok p.asset := p.wrapped_asset _
  simp only [Json.asDict_obj, ok_bind, hasset, p.subDict_params]
  rfl

variable {amount : Int} {now : ℚ} {cache : TTLCache Json}

/-- The fan-out over the page makes one lookup, and resolves the params. -/
theorem run_resolveHoldings :
    (resolveHoldings (p.holdingsPage amount)).run (atOnce now (p.answer amount)) cache =
      (.ok [(.num p.assetId, .obj p.params)], cache) := by
  have hids : heldIds (p.holdingsPage amount) = .ok [(.num p.assetId, .int p.assetId)] := rfl
  have hresolved : resolvedAssets [(.num p.assetId, .ok (.obj p.members))] =
      .ok [(.num p.assetId, .obj p.params)] := by
    unfold resolvedAssets
    simp only [List.mapM_cons, List.mapM_nil, p.resolvedParams_eq]
    rfl
  unfold resolveHoldings
  rw [hids]
  show Program.run (atOnce now (p.answer amount))
    (mapped (resolvedAssets [(.num p.assetId, .ok (.obj p.members))])) cache = _
  rw [hresolved]
  rfl

/-- The holding of the page. -/
theorem mapHolding_eq (amount : Int) : ∃ holding : Option String → MappedHolding,
    mapHolding [(.num p.assetId, .obj p.params)]
        (.obj [("asset-id", .int p.assetId), ("amount", .int amount)]) =
      holding <$> valueDecimal (.int amount) (p.params.get "decimals") ∧
    ∀ s, (holding s).token.decimals = p.params.get "decimals" ∧
      (holding s).token.totalSupply = p.totalSupply ∧
      (holding s).token.type = classifyAsset p.params ∧ (holding s).valueDecimal = s := by
  have hmetadata : AssetParams.metadata [(.num p.assetId, .obj p.params)] (.int p.assetId) =
      .ok (.obj p.params) := by
    unfold AssetParams.metadata Json.key
    simp only [ok_bind, List.lookup_cons_self, Option.getD_some]
    rfl
  unfold mapHolding
  simp only [Json.asDict_obj, ok_bind, Dict.get_cons, ↓reduceIte, hmetadata,
    show "amount" ≠ "asset-id" by decide]
  exact ⟨_, bind_pure_comp _ _, fun s => ⟨rfl, rfl, rfl, rfl⟩⟩

/-- **The holdings**, with the decimals as they are given: they respond if they can render the
    amount. -/
theorem holdings_eq (amount : Int) (now : ℚ) (cache : TTLCache Json) :
    ∃ holding : Option String → MappedHolding,
      p.holdings amount now cache = mapping ((fun s => ⟨[holding s], none⟩) <$>
        valueDecimal (.int amount) (p.params.get "decimals")) ∧
      ∀ s, (holding s).token.decimals = p.params.get "decimals" ∧
        (holding s).token.totalSupply = p.totalSupply ∧
        (holding s).token.type = classifyAsset p.params ∧ (holding s).valueDecimal = s := by
  obtain ⟨holding, hholding, hfields⟩ := p.mapHolding_eq amount
  refine ⟨holding, ?_, hfields⟩
  unfold holdings AssetPayload.holding
  rw [Program.run_bind, run_resolveHoldings]
  show mapping (mapAccountAssets _ _) = _
  congr 1
  unfold mapAccountAssets holdingsPage
  show (List.mapM (mapHolding _) [_] >>= _) = _
  rw [List.mapM_cons, hholding]
  cases valueDecimal (.int amount) (p.params.get "decimals") with
  | error e => rfl
  | ok s => rfl

/-! ### The holders -/

/-- **The holders are rendered with the decimals that were resolved.** -/
theorem holders_eq (limit : Int) (nextToken : Option String) :
    p.holders amount limit nextToken now cache =
      mapping (resolvedDecimals (.obj p.members) >>= mapAssetHolders (balancesPage amount)) := by
  unfold holders getTokenHolders resolveDecimals
  rw [validateUint64_of_range p.assetId_range]
  show ((mapped (resolvedDecimals (.obj p.members)) >>= fun decimals =>
    mapped (mapAssetHolders (balancesPage amount) decimals)).run
      (atOnce now (p.answer amount)) cache).1 = _
  cases resolvedDecimals (.obj p.members) with
  | error e => rfl
  | ok decimals => rfl

theorem mapAssetHolders_balancesPage {decimals : Json} {s : Option String}
    (h : valueDecimal (.int amount) decimals = .ok s) :
    ∃ holder, mapAssetHolders (balancesPage amount) decimals = .ok ⟨[holder], none⟩ ∧
      holder.valueDecimal = s := by
  have hholder : ∃ holder, mapHolder decimals (.obj [("amount", .int amount)]) = .ok holder ∧
      holder.valueDecimal = s := by
    unfold mapHolder
    simp only [Json.asDict_obj, ok_bind, Dict.get_cons, ↓reduceIte, h]
    exact ⟨_, rfl, rfl⟩
  obtain ⟨holder, hholder, hs⟩ := hholder
  refine ⟨holder, ?_, hs⟩
  show (List.mapM (mapHolder decimals) [_] >>= _) = _
  rw [List.mapM_cons, hholder]
  rfl

/-- The decimals are resolved when they are there. -/
theorem resolvedDecimals_of_hasDecimals (h : p.HasDecimals) :
    resolvedDecimals (.obj p.members) = .ok (p.params.get "decimals") := by
  have hasset : (subDict p.members "asset").asDict = .ok p.asset := p.wrapped_asset _
  have hparams : p.asset.get "params" (.obj []) = .obj p.params := by
    obtain ⟨n, hn⟩ := h
    unfold params at hn ⊢
    cases hlookup : p.asset.lookup "params" with
    | none =>
      rw [Dict.get_of_lookup_none hlookup] at hn
      cases hn
    | some x =>
      rw [Dict.get_of_lookup hlookup] at hn ⊢
      cases x with
      | obj d => rw [Dict.get_of_lookup hlookup]
      | _ => cases hn
  unfold resolvedDecimals
  simp only [Json.asDict_obj, ok_bind, hasset, hparams]
  rfl

end AssetPayload

/-! ### One description -/

theorem classifyReported_some (total : Int) (decimals : Json) :
    classifyReported (some (toString total)) decimals =
      classifyAsset [("decimals", decimals), ("total", .int total)] := by
  have hread : (toString total).toInt? = some total := Int.toInt?_repr total
  unfold classifyReported
  rw [Option.bind_some, hread]

/-- The total that is reported is the total. -/
theorem classifyReported_eq {d : Dict} (htotal : IsInteger d "total") :
    classifyReported (if (d.get "total").isNull then none else some (d.get "total").pyStr)
      (d.get "decimals") = classifyAsset d := by
  have hcongr : ∀ d' : Dict, d'.get "total" = d.get "total" →
      d'.get "decimals" = d.get "decimals" → classifyAsset d' = classifyAsset d := by
    intro d' h h'
    unfold classifyAsset
    rw [h, h']
  rcases AssetPayload.get_eq_null_or_int htotal with ⟨-, hnull⟩ | ⟨n, hn⟩
  · rw [hnull]
    show classifyAsset [("decimals", d.get "decimals")] = _
    apply hcongr
    · rw [hnull]
      rfl
    · rfl
  · have hget : d.get "total" = .int n := Dict.get_of_lookup hn _
    rw [hget]
    show classifyReported (some (toString n)) _ = _
    rw [classifyReported_some]
    apply hcongr
    · rw [hget]
      rfl
    · rfl

/-- A total that is reported as the amount is the amount. -/
theorem total_of_totalSupply (p : AssetPayload) {amount : Int}
    (h : p.totalSupply = some (toString amount)) : p.params.get "total" = .int amount := by
  unfold AssetPayload.totalSupply at h
  rcases AssetPayload.get_eq_null_or_int p.params_isInteger.1 with ⟨-, hnull⟩ | ⟨n, hn⟩
  · rw [hnull] at h
    cases h
  · have hget : p.params.get "total" = .int n := Dict.get_of_lookup hn _
    rw [hget] at h ⊢
    have htext : toString n = toString amount := Option.some.inj h
    have hread := congrArg String.toInt? htext
    have hn : (toString n).toInt? = some n := Int.toInt?_repr n
    have hamount : (toString amount).toInt? = some amount := Int.toInt?_repr amount
    rw [hn, hamount, Option.some.injEq] at hread
    rw [hread]

/-- What the routes respond to. -/
theorem of_described {p : AssetPayload} {amount limit : Int} {nextToken : Option String} {now : ℚ}
    {cache : TTLCache Json} (h : p.Described amount limit nextToken now cache) :
    p.HasDecimals ∧ Text.Writable amount ∧ Text.Writable (amountOf p.params "total") := by
  obtain ⟨token, htoken, htokenFields⟩ := p.token_eq
  obtain ⟨holding, hholding, hholdingFields⟩ := p.holdings_eq amount now cache
  obtain ⟨token', holding', holder, decimals, htoken', hholding', -, -, h⟩ := h
  rw [htoken] at htoken'
  rw [hholding] at hholding'
  cases hsupply : decimalString (p.params.get "total") (p.params.get "decimals" (.int 0)) with
  | error e =>
    rw [hsupply] at htoken'
    cases htoken'
  | ok supply =>
    cases hvalue : valueDecimal (.int amount) (p.params.get "decimals") with
    | error e =>
      rw [hvalue] at hholding'
      cases hholding'
    | ok value =>
      rw [hsupply] at htoken'
      rw [hvalue] at hholding'
      obtain rfl : token supply = token' := Except.ok.inj htoken'
      obtain rfl : holding value = holding' := by simpa using Except.ok.inj hholding'
      -- Without decimals, the token route says that there are zero, and the holdings that there
      -- are none.
      have hsame := h.decimals.1
      rw [(htokenFields supply).1, (hholdingFields value).1] at hsame
      rcases AssetPayload.get_eq_null_or_int p.params_isInteger.2 with ⟨habsent, -⟩ | ⟨n, hn⟩
      · rw [Dict.get_of_lookup_none habsent, Dict.get_of_lookup_none habsent] at hsame
        cases hsame
      · rw [Dict.get_of_lookup hn] at hvalue
        exact ⟨⟨n, hn⟩, AssetPayload.exists_valueDecimal_iff.mp ⟨value, hvalue⟩,
          p.exists_totalSupplyDecimal_iff.mp ⟨supply, hsupply⟩⟩

theorem described_of_hasDecimals {p : AssetPayload} {amount : Int} (hgiven : p.HasDecimals)
    (hamount : Text.Writable amount) (htotal : Text.Writable (amountOf p.params "total"))
    (limit : Int) (nextToken : Option String) (now : ℚ) (cache : TTLCache Json) :
    p.Described amount limit nextToken now cache := by
  obtain ⟨token, htoken, htokenFields⟩ := p.token_eq
  obtain ⟨holding, hholding, hholdingFields⟩ := p.holdings_eq amount now cache
  have hresolved := p.resolvedDecimals_of_hasDecimals hgiven
  obtain ⟨supply, hsupplyOk⟩ := p.exists_totalSupplyDecimal_iff.mpr htotal
  obtain ⟨n, hn⟩ := hgiven
  obtain ⟨value, hvalue⟩ := (AssetPayload.exists_valueDecimal_iff (n := n)).mpr hamount
  have hget : p.params.get "decimals" = .int n := Dict.get_of_lookup hn _
  have hread : p.params.get "decimals" (.int 0) = p.params.get "decimals" := by
    rw [hget, Dict.get_of_lookup hn]
  rw [← hget] at hvalue
  rw [hsupplyOk] at htoken
  rw [hvalue] at hholding
  obtain ⟨holder, hholder, hvalue'⟩ := AssetPayload.mapAssetHolders_balancesPage hvalue
  have hholders : p.holders amount limit nextToken now cache = .ok ⟨[holder], none⟩ := by
    rw [p.holders_eq, hresolved, ok_bind, hholder]
    rfl
  obtain ⟨hdecimals, hsupply, htype, hsupplyDecimal⟩ := htokenFields supply
  obtain ⟨hdecimals', hsupply', htype', hvalueDecimal⟩ := hholdingFields value
  have hclassify := classifyReported_eq p.params_isInteger.1
  refine ⟨token supply, holding value, holder, _, htoken, hholding, hholders, hresolved, ?_⟩
  exact {
    decimals := ⟨by rw [hdecimals, hdecimals', hread], by rw [hdecimals, hread]⟩
    totalSupply := by rw [hsupply, hsupply']
    type := by rw [htype, htype']
    valueDecimal := by rw [hvalueDecimal, hvalue']
    supplyDecimal := by
      intro hreported
      rw [hsupply] at hreported
      have hvalued : valueDecimal (.int amount) (.int n) =
          decimalString (.int amount) (.int n) := rfl
      rw [total_of_totalSupply p hreported, hread, hget, ← hvalued, ← hget, hvalue,
        Except.ok.injEq] at hsupplyOk
      rw [hsupplyDecimal, hvalueDecimal, hsupplyOk]
    tokenType := by
      rw [htype, hsupply, hdecimals, hread]
      exact hclassify.symm
    holdingType := by
      rw [htype', hsupply', hdecimals']
      exact hclassify.symm }

/-- **One asset, one description, exactly when the indexer gives its decimals**, and `str` writes
    the numbers. -/
theorem oneDescription_iff (p : AssetPayload) (amount limit : Int) (nextToken : Option String)
    (now : ℚ) (cache : TTLCache Json) :
    p.Described amount limit nextToken now cache ↔
      p.HasDecimals ∧ Text.Writable amount ∧ Text.Writable (amountOf p.params "total") := by
  constructor
  · exact of_described
  · rintro ⟨hgiven, hamount, htotal⟩
    exact described_of_hasDecimals hgiven hamount htotal limit nextToken now cache

/-- An asset of one unit, without decimals. -/
def oneUnit : AssetPayload where
  assetId := 7
  assetId_range := by decide
  members := [("asset", .obj [("index", .int 7), ("params", .obj [("total", .int 1)])])]
  asset := [("index", .int 7), ("params", .obj [("total", .int 1)])]
  asset_eq := rfl
  params_eq := .inr ⟨[("total", .int 1)], rfl, IsInteger.of_lookup rfl, IsInteger.of_absent rfl⟩

/-- An asset whose params are null. -/
def nullParams : AssetPayload where
  assetId := 7
  assetId_range := by decide
  members := [("asset", .obj [("index", .int 7), ("params", .null)])]
  asset := [("index", .int 7), ("params", .null)]
  asset_eq := rfl
  params_eq := .inl rfl

/-- The unit is reported with zero decimals by one route and with none by the other, and its type
    is not that of what is reported; the holders of an asset with null params raise. -/
theorem oneUnit_not_described :
    ¬oneUnit.Described 1 50 none 0 .new ∧
      (∃ token, oneUnit.token = .ok token ∧ token.type = "ASA" ∧
        classifyReported token.totalSupply token.decimals = "ASA-NFT") ∧
      nullParams.holders 1 50 none 0 .new = .error (.unhandled .attributeError) := by
  refine ⟨?_, ?_, ?_⟩
  · intro h
    obtain ⟨n, hn⟩ := (of_described h).1
    cases hn
  · exact ⟨_, rfl, by decide, (classifyReported_some 1 (.int 0)).trans (by decide)⟩
  · rw [AssetPayload.holders_eq]
    rfl

end Algorandscout
