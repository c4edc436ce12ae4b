import Algorandscout.Routes
import Algorandscout.Texts
import Algorandscout.Library.FanOut

namespace Algorandscout

open Library

/-!
# The metadata fan-out

`get_address_token_balances` looks up every asset of a holdings page at once, a few at a time.

* `HoldingsPage`, `Lookups` — a page, and what the lookups give;
* `Resolution`, `response` — the fan-out, and the response once it is complete;
* `ItemOf` — the item of a holding: the metadata of its own asset, or none;
* `resolution_correct` — lookups, bound and response, whatever the order;
* `run_getAddressTokenBalances` — the route responds as the fan-out does.
-/

/-- `RESOLVE_CONCURRENCY`. -/
def resolveConcurrency : ℕ := 8

/-! ### Pages and lookups -/

/-- A holding, with its asset id unless that is absent or null. -/
structure Holding where
  members : Dict
  assetId : Option Int
  assetId_eq : members.get "asset-id" = (assetId.map Json.int).getD .null
  amount_isNumber : IsNumber members "amount"

/-- A page of holdings. -/
structure HoldingsPage where
  members : Dict
  holdings : List Holding
  listed_eq : listed members "assets" = .ok (holdings.map fun h => .obj h.members)

/-- The asset ids of a page, as often as they are held. -/
def HoldingsPage.ids (page : HoldingsPage) : List Int := page.holdings.filterMap (·.assetId)

/-- An order in which the set of the ids may be gone through. -/
structure IdOrder (page : HoldingsPage) where
  ids : List Int
  nodup : ids.Nodup
  mem_iff : ∀ id, id ∈ ids ↔ id ∈ page.ids

/-- A payload about an asset, with the params that are read of it. -/
structure AssetAnswer where
  payload : Json
  params : Dict
  params_eq : resolvedParams payload = .ok (.obj params)
  decimals_isNumber : IsNumber params "decimals"

/-- What the lookup of each asset gives. -/
abbrev Lookups := Int → Except AlgorandError AssetAnswer

/-- The lookup of an asset, as `resolve_one` sees it. -/
def Lookups.outcome (lookups : Lookups) (id : Int) : Outcome := (lookups id).map (·.payload)

/-! ### The fan-out -/

/-- The tasks of `asyncio.gather`, one for each id, and the semaphore. -/
abbrev Resolution := FanOut Int Outcome

/-- The fan-out over the ids, in the order of the set. -/
def resolutionInit {page : HoldingsPage} (order : IdOrder page) : Resolution :=
  .init resolveConcurrency order.ids

/-- What one task does. -/
def resolutionStep (lookups : Lookups) : Resolution → FanOut.Action → Option Resolution :=
  FanOut.step lookups.outcome

/-- The response: the results of the lookups become the metadata of the holdings. -/
def response (page : HoldingsPage) (s : Resolution) : Except PyError (Page MappedHolding) := do
  let params ← resolvedAssets (s.gathered.map fun (id, outcome) => (.num id, outcome))
  mapAccountAssets (.obj page.members) params

/-- The item of a holding: the metadata of its own asset; none, as without resolution, when the
    lookup failed or there is no asset id. -/
structure ItemOf (lookups : Lookups) (h : Holding) (item : MappedHolding) : Prop where
  resolved : ∀ id a, h.assetId = some id → lookups id = .ok a →
    item.token = tokenStub (.int id) a.params ∧
      mapHolding [(.num id, .obj a.params)] (.obj h.members) = .ok item
  failed : ∀ id e, h.assetId = some id → lookups id = .error e →
    mapHolding [] (.obj h.members) = .ok item
  missing : h.assetId = none → mapHolding [] (.obj h.members) = .ok item

/-- What holds of the fan-out after the actions `as`, if the items of the page are `items`. -/
structure ResolvesTo (page : HoldingsPage) (lookups : Lookups) (order : IdOrder page)
    (items : List MappedHolding) (as : List FanOut.Action) (s : Resolution) : Prop where
  inFlight_le : s.inFlight ≤ resolveConcurrency
  lookups_le : ∀ id, s.lookups.count id ≤ if id ∈ page.ids then 1 else 0
  lookups_eq : s.Complete → ∀ id, s.lookups.count id = if id ∈ page.ids then 1 else 0
  response_eq : s.Complete → response page s = .ok ⟨items, nextPage page.members⟩
  exists_step : ¬s.Complete → ∃ a s', resolutionStep lookups s a = some s'
  length_le : as.length ≤ 2 * order.ids.length

/-! ### The metadata -/

/-- The metadata that the lookup of an id gives. -/
def metadataEntry (lookups : Lookups) (id : Int) : Option (Key × Json) :=
  match lookups id with
  | .ok a => some (.num id, .obj a.params)
  | .error _ => none

/-- The metadata that the lookups of some ids give. -/
def metadataOf (lookups : Lookups) (ids : List Int) : AssetParams :=
  ids.filterMap (metadataEntry lookups)

theorem resolvedAssets_eq (lookups : Lookups) (ids : List Int) :
    resolvedAssets (ids.map fun id => (.num id, lookups.outcome id)) =
      .ok (metadataOf lookups ids) := by
  unfold resolvedAssets
  refine bind_eq_ok.mpr ⟨ids.map (metadataEntry lookups), mapM_eq_ok_iff.mpr ?_, ?_⟩
  · rw [List.forall₂_map_left_iff, List.forall₂_map_right_iff, List.forall₂_same]
    intro id _
    unfold Lookups.outcome metadataEntry
    cases lookups id with
    | ok a =>
      show (resolvedParams a.payload >>= _) = _
      rw [a.params_eq]
      rfl
    | error e => rfl
  · rw [List.filterMap_map]
    rfl

/-- Metadata is kept under its own id. -/
theorem metadataEntry_fst {lookups : Lookups} {id : Int} {entry : Key × Json}
    (h : metadataEntry lookups id = some entry) : entry.1 = .num id := by
  unfold metadataEntry at h
  split at h
  · obtain rfl := Option.some.inj h
    rfl
  · cases h

theorem lookup_metadataOf_of_notMem {lookups : Lookups} {ids : List Int} {id : Int}
    (h : id ∉ ids) : (metadataOf lookups ids).lookup (.num id) = none := by
  rw [List.lookup_eq_none_iff]
  intro entry hentry
  obtain ⟨id', hid', hentry⟩ := List.mem_filterMap.mp hentry
  rw [metadataEntry_fst hentry, bne_iff_ne]
  intro heq
  obtain rfl := Key.num.inj heq
  exact h hid'

/-- The metadata of an id that was looked up. -/
theorem lookup_metadataOf {lookups : Lookups} {ids : List Int} {id : Int} (hid : id ∈ ids) :
    (metadataOf lookups ids).lookup (.num id) = (metadataEntry lookups id).map (·.2) := by
  induction ids with
  | nil => cases hid
  | cons id' ids ih =>
    unfold metadataOf at ih ⊢
    rw [List.filterMap_cons]
    by_cases heq : id = id'
    · subst heq
      cases hentry : metadataEntry lookups id with
      | none =>
        by_cases hmem : id ∈ ids
        · rw [ih hmem, hentry]
        · exact lookup_metadataOf_of_notMem hmem
      | some entry =>
        obtain ⟨key, params⟩ := entry
        obtain rfl : key = .num id := metadataEntry_fst hentry
        exact List.lookup_cons_self
    · have hrest := ih ((List.mem_cons.mp hid).resolve_left heq)
      cases hentry : metadataEntry lookups id' with
      | none => exact hrest
      | some entry =>
        obtain ⟨key, params⟩ := entry
        obtain rfl : key = .num id' := metadataEntry_fst hentry
        have hb : (Key.num id == Key.num id') = false := by simpa using heq
        simp only [List.lookup_cons, hb]
        exact hrest

/-! ### The items -/

/-- An item depends on the metadata of its own asset only. -/
theorem mapHolding_congr {params params' : AssetParams} {members : Dict}
    (h : params.metadata (members.get "asset-id") = params'.metadata (members.get "asset-id")) :
    mapHolding params (.obj members) = mapHolding params' (.obj members) := by
  unfold mapHolding
  simp only [Json.asDict_obj, ok_bind, h]

/-- A holding is mapped, whatever its metadata is. -/
theorem exists_mapHolding (h : Holding) {params : AssetParams} {metadata : Dict}
    (hmetadata : params.metadata (h.members.get "asset-id") = .ok (.obj metadata))
    (hdecimals : IsNumber metadata "decimals") :
    ∃ item, mapHolding params (.obj h.members) = .ok item ∧
      item.token = tokenStub (h.members.get "asset-id") metadata := by
  obtain ⟨s, hs, -⟩ := exists_valueDecimal h.amount_isNumber.numeric_get hdecimals.eq_null_or_int
  unfold mapHolding
  simp only [Json.asDict_obj, ok_bind, hmetadata, hs]
  exact ⟨_, rfl, rfl⟩

/-- A holding without metadata. -/
theorem exists_mapHolding_nil (h : Holding) :
    ∃ item, mapHolding [] (.obj h.members) = .ok item := by
  have hmetadata : AssetParams.metadata [] (h.members.get "asset-id") = .ok (.obj []) := by
    rw [h.assetId_eq]
    cases h.assetId with
    | none => rfl
    | some id => rfl
  obtain ⟨item, hitem, -⟩ := exists_mapHolding h hmetadata (.inl rfl)
  exact ⟨item, hitem⟩

/-- Metadata is kept under asset ids only. -/
theorem metadata_null (lookups : Lookups) (ids : List Int) :
    (metadataOf lookups ids).metadata .null = .ok (.obj []) := by
  have hnone : (metadataOf lookups ids).lookup Key.none = none := by
    rw [List.lookup_eq_none_iff]
    intro entry hentry
    obtain ⟨id, -, hentry⟩ := List.mem_filterMap.mp hentry
    rw [metadataEntry_fst hentry]
    rfl
  unfold AssetParams.metadata Json.key
  simp only [ok_bind, hnone]
  rfl

/-- The metadata of an asset that was looked up with others. -/
theorem metadata_int (lookups : Lookups) {ids : List Int} {id : Int} (hid : id ∈ ids) :
    (metadataOf lookups ids).metadata (.int id) =
      .ok (((metadataEntry lookups id).map (·.2)).getD (.obj [])) := by
  unfold AssetParams.metadata Json.key
  rw [← lookup_metadataOf hid]
  rfl

/-- The item of a holding without an asset id. -/
theorem exists_itemOf_none (lookups : Lookups) {h : Holding} (hid : h.assetId = none) :
    ∃ item, ItemOf lookups h item ∧
      ∀ ids, mapHolding (metadataOf lookups ids) (.obj h.members) = .ok item := by
  have hassetId := h.assetId_eq
  rw [hid] at hassetId
  obtain ⟨item, hitem⟩ := exists_mapHolding_nil h
  refine ⟨item, ⟨?_, ?_, fun _ => hitem⟩, fun ids => ?_⟩
  · intro id a hsome
    cases hid.symm.trans hsome
  · intro id e hsome
    cases hid.symm.trans hsome
  · rw [← hitem]
    apply mapHolding_congr
    rw [hassetId]
    exact metadata_null lookups ids

/-- The item of a holding whose asset was resolved. -/
theorem exists_itemOf_ok {lookups : Lookups} {h : Holding} {id : Int} {a : AssetAnswer}
    (hid : h.assetId = some id) (hlookup : lookups id = .ok a) :
    ∃ item, ItemOf lookups h item ∧
      ∀ ids, id ∈ ids → mapHolding (metadataOf lookups ids) (.obj h.members) = .ok item := by
  have hassetId := h.assetId_eq
  rw [hid] at hassetId
  have hmetadata : AssetParams.metadata [(.num id, .obj a.params)] (.int id) =
      .ok (.obj a.params) := by
    unfold AssetParams.metadata Json.key
    simp only [ok_bind, List.lookup_cons_self]
    rfl
  have hown : AssetParams.metadata [(.num id, .obj a.params)] (h.members.get "asset-id") =
      .ok (.obj a.params) := by
    rw [hassetId]
    exact hmetadata
  obtain ⟨item, hitem, htoken⟩ := exists_mapHolding h hown a.decimals_isNumber
  refine ⟨item, ⟨?_, ?_, ?_⟩, fun ids hids => ?_⟩
  · intro id' a' hsome hok
    obtain rfl := Option.some.inj (hid.symm.trans hsome)
    obtain rfl := Except.ok.inj (hlookup.symm.trans hok)
    rw [hassetId] at htoken
    exact ⟨htoken, hitem⟩
  · intro id' e hsome herror
    obtain rfl := Option.some.inj (hid.symm.trans hsome)
    cases hlookup.symm.trans herror
  · intro hnone
    cases hid.symm.trans hnone
  · rw [← hitem]
    apply mapHolding_congr
    rw [hassetId]
    show AssetParams.metadata _ (.int id) = AssetParams.metadata _ (.int id)
    rw [hmetadata, metadata_int lookups hids]
    unfold metadataEntry
    rw [hlookup]
    rfl

/-- The item of a holding whose asset was not resolved. -/
theorem exists_itemOf_error {lookups : Lookups} {h : Holding} {id : Int} {e : AlgorandError}
    (hid : h.assetId = some id) (hlookup : lookups id = .error e) :
    ∃ item, ItemOf lookups h item ∧
      ∀ ids, id ∈ ids → mapHolding (metadataOf lookups ids) (.obj h.members) = .ok item := by
  have hassetId := h.assetId_eq
  rw [hid] at hassetId
  obtain ⟨item, hitem⟩ := exists_mapHolding_nil h
  refine ⟨item, ⟨?_, fun _ _ _ _ => hitem, fun _ => hitem⟩, fun ids hids => ?_⟩
  · intro id' a hsome hok
    obtain rfl := Option.some.inj (hid.symm.trans hsome)
    cases hlookup.symm.trans hok
  · rw [← hitem]
    apply mapHolding_congr
    rw [hassetId]
    show AssetParams.metadata _ (.int id) = AssetParams.metadata [] (.int id)
    rw [metadata_int lookups hids]
    unfold metadataEntry
    rw [hlookup]
    rfl

/-- **The item of a holding**, from the metadata of any ids that its own is among. -/
theorem exists_itemOf (lookups : Lookups) (h : Holding) : ∃ item, ItemOf lookups h item ∧
    ∀ ids, (∀ id, h.assetId = some id → id ∈ ids) →
      mapHolding (metadataOf lookups ids) (.obj h.members) = .ok item := by
  cases hid : h.assetId with
  | none =>
    obtain ⟨item, hitem, hmapped⟩ := exists_itemOf_none lookups hid
    exact ⟨item, hitem, fun ids _ => hmapped ids⟩
  | some id =>
    have hitem : ∃ item, ItemOf lookups h item ∧
        ∀ ids, id ∈ ids → mapHolding (metadataOf lookups ids) (.obj h.members) = .ok item := by
      cases hlookup : lookups id with
      | ok a => exact exists_itemOf_ok hid hlookup
      | error e => exact exists_itemOf_error hid hlookup
    obtain ⟨item, hitem, hmapped⟩ := hitem
    exact ⟨item, hitem, fun ids hids => hmapped ids (hids id rfl)⟩

/-- **The items of a page**, from the metadata of any ids that those of the page are among. -/
theorem exists_items (page : HoldingsPage) (lookups : Lookups) :
    ∃ items, List.Forall₂ (ItemOf lookups) page.holdings items ∧
      ∀ ids, (∀ id ∈ page.ids, id ∈ ids) →
        mapAccountAssets (.obj page.members) (metadataOf lookups ids) =
          .ok ⟨items, nextPage page.members⟩ := by
  choose item hitem hmapped using exists_itemOf lookups
  refine ⟨page.holdings.map item, ?_, fun ids hids => ?_⟩
  · rw [List.forall₂_map_right_iff, List.forall₂_same]
    exact fun h _ => hitem h
  · have hitems : (page.holdings.map fun h => Json.obj h.members).mapM
        (mapHolding (metadataOf lookups ids)) = .ok (page.holdings.map item) := by
      rw [mapM_eq_ok_iff, List.forall₂_map_left_iff, List.forall₂_map_right_iff,
        List.forall₂_same]
      intro h hh
      apply hmapped h ids
      intro id hid
      exact hids id (List.mem_filterMap.mpr ⟨h, hh, hid⟩)
    unfold mapAccountAssets
    simp only [Json.asDict_obj, ok_bind, page.listed_eq, hitems]
    rfl

/-! ### Every order -/

/-- The ids that an order goes through, once each. -/
theorem count_idOrder {page : HoldingsPage} (order : IdOrder page) (id : Int) :
    order.ids.count id = if id ∈ page.ids then 1 else 0 := by
  split_ifs with hmem
  · exact List.count_eq_one_of_mem order.nodup ((order.mem_iff id).mpr hmem)
  · exact List.count_eq_zero_of_not_mem fun h => hmem ((order.mem_iff id).mp h)

/-- When the fan-out is complete, its response has the metadata of all ids of the page. -/
theorem response_of_complete {page : HoldingsPage} {lookups : Lookups} {order : IdOrder page}
    {as : List FanOut.Action} {s : Resolution}
    (hrun : runFrom (resolutionStep lookups) (resolutionInit order) as = some s)
    (hcomplete : s.Complete) :
    response page s = mapAccountAssets (.obj page.members) (metadataOf lookups order.ids) := by
  have hinv : FanOut.Inv lookups.outcome resolveConcurrency order.ids as s := FanOut.inv_run hrun
  have hparams : resolvedAssets (s.gathered.map fun (id, outcome) => (.num id, outcome)) =
      .ok (metadataOf lookups order.ids) := by
    rw [hinv.gathered_eq hcomplete, List.map_map]
    exact resolvedAssets_eq lookups order.ids
  unfold response
  rw [hparams, ok_bind]

/-- **The metadata fan-out.**  Whatever order the set of the ids is gone through in, and whatever
    order the lookups start and finish in, there is one lookup for each asset id of the page, at
    most `RESOLVE_CONCURRENCY` are in flight, and the response is the one page of items, each with
    the metadata of its own asset. -/
theorem resolution_correct (page : HoldingsPage) (lookups : Lookups) :
    ∃ items, List.Forall₂ (ItemOf lookups) page.holdings items ∧
      ∀ (order : IdOrder page) (as : List FanOut.Action) (s : Resolution),
        runFrom (resolutionStep lookups) (resolutionInit order) as = some s →
          ResolvesTo page lookups order items as s := by
  obtain ⟨items, hitems, hmapped⟩ := exists_items page lookups
  refine ⟨items, hitems, fun order as s hrun => ?_⟩
  have hinv : FanOut.Inv lookups.outcome resolveConcurrency order.ids as s := FanOut.inv_run hrun
  constructor
  · exact hinv.inFlight_le
  · intro id
    rw [← count_idOrder order id]
    exact hinv.lookups_subperm.count_le id
  · intro hcomplete id
    rw [← count_idOrder order id]
    exact (hinv.lookups_of_complete hcomplete).count_eq id
  · intro hcomplete
    rw [response_of_complete hrun hcomplete]
    exact hmapped order.ids fun id hid => (order.mem_iff id).mpr hid
  · exact hinv.exists_step (by decide)
  · exact hinv.length_le

/-! ### A page of four holdings -/

/-- Asset 7 twice, a holding without an asset id, and asset 9. -/
def fourHoldings : HoldingsPage where
  members := [("assets", .arr [
    .obj [("asset-id", .int 7), ("amount", .int 1500000)],
    .obj [("asset-id", .null), ("amount", .int 3)],
    .obj [("asset-id", .int 9), ("amount", .int 10)],
    .obj [("asset-id", .int 7), ("amount", .null)]])]
  holdings := [
    ⟨[("asset-id", .int 7), ("amount", .int 1500000)], some 7, rfl, .inr ⟨_, by decide, rfl⟩⟩,
    ⟨[("asset-id", .null), ("amount", .int 3)], none, rfl, .inr ⟨_, by decide, rfl⟩⟩,
    ⟨[("asset-id", .int 9), ("amount", .int 10)], some 9, rfl, .inr ⟨_, by decide, rfl⟩⟩,
    ⟨[("asset-id", .int 7), ("amount", .null)], some 7, rfl, .inl rfl⟩]
  listed_eq := rfl

/-- Asset 7 has six decimals; the lookup of any other fails. -/
def onlySeven : Lookups := fun id =>
  if id = 7 then
    .ok ⟨.obj [("asset", .obj [("params", .obj [("decimals", .int 6)])])], [("decimals", .int 6)],
      rfl, .inr ⟨6, by decide, rfl⟩⟩
  else .error (.notFound "/v2/assets" "https://indexer")

/-- The set of its ids, 9 first. -/
def nineFirst : IdOrder fourHoldings where
  ids := [9, 7]
  nodup := by decide
  mem_iff := by
    intro id
    show id ∈ [9, 7] ↔ id ∈ [7, 9, 7]
    simp only [List.mem_cons, List.not_mem_nil, or_false]
    omega

/-- Both lookups start before one returns, that of 7 first. -/
def sevenFirst : List FanOut.Action := [.finish 0, .finish 1, .start 0, .start 1]

theorem fourHoldings_resolved : ∃ items s,
    List.Forall₂ (ItemOf onlySeven) fourHoldings.holdings items ∧
      runFrom (resolutionStep onlySeven) (resolutionInit nineFirst) sevenFirst = some s ∧
      s.Complete ∧ ResolvesTo fourHoldings onlySeven nineFirst items sevenFirst s := by
  obtain ⟨items, hitems, hresolves⟩ := resolution_correct fourHoldings onlySeven
  refine ⟨items, ⟨8, [(9, .done (onlySeven.outcome 9)), (7, .done (onlySeven.outcome 7))], [9, 7]⟩,
    hitems, rfl, ?_, hresolves nineFirst sevenFirst _ rfl⟩
  intro t ht
  rcases List.mem_cons.mp ht with rfl | ht
  · rfl
  · rcases List.mem_cons.mp ht with rfl | ht
    · rfl
    · cases ht

/-! ### The route -/

/-- An asset id with the key that it makes. -/
def keyed (id : Int) : Key × Json := (.num id, .int id)

theorem heldIds_page (page : HoldingsPage) :
    heldIds (.obj page.members) = .ok (page.ids.map keyed) := by
  unfold heldIds
  simp only [Json.asDict_obj, ok_bind, page.listed_eq]
  refine bind_eq_ok.mpr ⟨page.holdings.map fun h => h.assetId.map keyed, ?_, ?_⟩
  · rw [mapM_eq_ok_iff, List.forall₂_map_left_iff, List.forall₂_map_right_iff, List.forall₂_same]
    intro h _
    have hassetId := h.assetId_eq
    cases hid : h.assetId with
    | none =>
      rw [hid] at hassetId
      simp only [Json.asDict_obj, ok_bind, hassetId]
      rfl
    | some id =>
      rw [hid] at hassetId
      simp only [Json.asDict_obj, ok_bind, hassetId]
      rfl
  · show Except.ok _ = Except.ok _
    rw [List.filterMap_map, HoldingsPage.ids, List.map_filterMap]
    rfl

/-- What the loop over the ids has found. -/
def distinct (ids : List Int) : List Int :=
  ids.foldl (fun found id => if id ∈ found then found else found ++ [id]) []

theorem distinctIds_keyed (ids : List Int) :
    distinctIds (ids.map keyed) = (distinct ids).map keyed := by
  unfold distinctIds distinct
  rw [List.foldl_map, ← List.map_nil (f := keyed)]
  refine List.foldl_hom (List.map keyed) fun found id => ?_
  have hany : (found.map keyed).any (fun entry => entry.1 = (keyed id).1) =
      decide (id ∈ found) := by
    rw [Bool.eq_iff_iff, List.any_eq_true, decide_eq_true_iff]
    constructor
    · rintro ⟨entry, hentry, hkey⟩
      obtain ⟨id', hid', rfl⟩ := List.mem_map.mp hentry
      obtain rfl := Key.num.inj (of_decide_eq_true hkey)
      exact hid'
    · intro hid
      exact ⟨keyed id, List.mem_map_of_mem hid, decide_eq_true rfl⟩
  rw [hany]
  by_cases hid : id ∈ found
  · rw [if_pos (decide_eq_true hid), if_pos hid]
  · rw [if_neg (by simpa using hid), if_neg hid, List.map_append]
    rfl

/-- The loop finds every id once. -/
theorem distinct_spec (ids found : List Int) (hfound : found.Nodup) :
    let all := ids.foldl (fun found id => if id ∈ found then found else found ++ [id]) found
    all.Nodup ∧ ∀ id, id ∈ all ↔ id ∈ found ∨ id ∈ ids := by
  induction ids generalizing found with
  | nil => exact ⟨hfound, fun id => by simp⟩
  | cons id ids ih =>
    simp only [List.foldl_cons]
    split_ifs with hid
    · obtain ⟨hnodup, hmem⟩ := ih found hfound
      refine ⟨hnodup, fun id' => ?_⟩
      rw [hmem, List.mem_cons]
      constructor
      · rintro (h | h)
        · exact .inl h
        · exact .inr (.inr h)
      · rintro (h | rfl | h)
        · exact .inl h
        · exact .inl hid
        · exact .inr h
    · have hnodup' : (found ++ [id]).Nodup := by
        rw [List.nodup_append]
        refine ⟨hfound, List.nodup_singleton id, ?_⟩
        rintro x hx y hy rfl
        exact hid (List.mem_singleton.mp hy ▸ hx)
      obtain ⟨hnodup, hmem⟩ := ih (found ++ [id]) hnodup'
      refine ⟨hnodup, fun id' => ?_⟩
      rw [hmem, List.mem_append, List.mem_singleton, List.mem_cons, or_assoc]

/-- The order that the loop goes through the ids in. -/
def HoldingsPage.distinctOrder (page : HoldingsPage) : IdOrder page where
  ids := distinct page.ids
  nodup := (distinct_spec page.ids [] List.nodup_nil).1
  mem_iff := fun id => by
    rw [distinct, (distinct_spec page.ids [] List.nodup_nil).2]
    exact or_iff_right List.not_mem_nil

section

variable {answer : Call → Outcome} {lookups : Lookups} {now : ℚ} {cache : TTLCache Json}

/-- One lookup after the other. -/
theorem run_askAssets (hanswer : ∀ id, answer (.asset (.int id)) = lookups.outcome id)
    (ids : List Int) :
    (askAssets (ids.map keyed)).run (atOnce now answer) cache =
      (.ok (ids.map fun id => (.num id, lookups.outcome id)), cache) := by
  induction ids with
  | nil => rfl
  | cons id ids ih =>
    show (askUpstream (.asset (.int id)) >>= fun outcome =>
      askAssets (ids.map keyed) >>= fun outcomes => pure ((Key.num id, outcome) :: outcomes)).run
        (atOnce now answer) cache = _
    rw [run_askUpstream_bind, Program.run_bind, ih, hanswer]
    rfl

/-- **The route responds as the fan-out does**, whatever order that takes. -/
theorem run_getAddressTokenBalances {sha512_256 : List UInt8 → Digest} {address : String}
    {limit : Int} {nextToken : Option String} {page : HoldingsPage}
    (hvalid : validateAddress sha512_256 address = .ok address)
    (hpage : answer (.accountAssets address limit nextToken) = .ok (.obj page.members))
    (hanswer : ∀ id, answer (.asset (.int id)) = lookups.outcome id) {order : IdOrder page}
    {as : List FanOut.Action} {s : Resolution}
    (hrun : runFrom (resolutionStep lookups) (resolutionInit order) as = some s)
    (hcomplete : s.Complete) :
    ((getAddressTokenBalances sha512_256 address limit nextToken true).run
      (atOnce now answer) cache).1 = mapping (response page s) := by
  obtain ⟨items, -, hmapped⟩ := exists_items page lookups
  have hresolved : (resolveHoldings (.obj page.members)).run (atOnce now answer) cache =
      (.ok (metadataOf lookups page.distinctOrder.ids), cache) := by
    unfold resolveHoldings
    rw [heldIds_page]
    show Program.run _ (askAssets (distinctIds (page.ids.map keyed)) >>= _) cache = _
    rw [distinctIds_keyed, Program.run_bind, run_askAssets hanswer]
    show Program.run _ (mapped (resolvedAssets _)) cache = _
    rw [resolvedAssets_eq]
    rfl
  unfold getAddressTokenBalances
  rw [hvalid, response_of_complete hrun hcomplete,
    hmapped order.ids fun id hid => (order.mem_iff id).mpr hid]
  show (Program.run _ (upstream _ >>= fun payload => resolveHoldings payload >>= fun params =>
    mapped (mapAccountAssets payload params)) cache).1 = _
  rw [run_upstream_bind, hpage]
  show (Program.run _ (resolveHoldings (.obj page.members) >>= _) cache).1 = _
  rw [Program.run_bind, hresolved]
  show mapping (mapAccountAssets _ _) = _
  rw [hmapped _ fun id hid => (page.distinctOrder.mem_iff id).mpr hid]

end

end Algorandscout
