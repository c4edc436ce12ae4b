import Algorandscout.Health
import Algorandscout.Listings
import Algorandscout.RouteCourses

namespace Algorandscout

open Library

/-!
# The explorer routes

Every route under `/api/v2` that asks an upstream; `getTransaction`, `search` and `stats` have
modules of their own.  Path and query values have passed FastAPI's type checks, so an id is an
integer of any size.

* `getAddress`, `getAddressTransactions`, `getAddressTokenBalances` — the address routes;
* `getBlock`, `getLatestBlock` — the block routes;
* `getToken`, `getTokenHolders`, `getSmartContract` — the routes by id;
* `ApiRequest`, `respond` — a request to any of them, and the route that responds to it.
-/

variable (sha512_256 : List UInt8 → Digest) (keyText : KeyText) (config : AlgorandConfig)

/-- A validator at the start of a route. -/
def validated {α : Type} (x : Except Raised α) : Route α :=
  Program.ofExcept (x.mapError ServiceError.validation)

/-- A mapper at the end of a route. -/
def mapped {α : Type} (x : Except PyError α) : Route α := Program.ofExcept (mapping x)

/-! ### Address routes -/

/-- `get_address`. -/
def getAddress (address : String) (live : Bool) : Route MappedAccount := do
  let _ ← validated (validateAddress sha512_256 address)
  let payload ← upstream (.account address live)
  mapped (mapAccount payload)

/-- `get_address_transactions`. -/
def getAddressTransactions (address : String) (limit : Int)
    (nextToken afterTime beforeTime txType : Option String) (assetId : Option Int) :
    Route (Page MappedTransaction) := do
  let _ ← validated (validateAddress sha512_256 address)
  match assetId with
  | some id => do
    let _ ← validated (validateUint64 (.int id) "asset_id")
  | none => pure ()
  let payload ← upstream
    (.accountTransactions address limit nextToken afterTime beforeTime txType assetId)
  let members ← mapped payload.asDict
  mapped (mapTransactionList payload (members.get "current-round"))

/-- The asset ids of a holdings page, each with the key it makes. -/
def heldIds (payload : Json) : Except PyError (List (Key × Json)) := do
  let members ← payload.asDict
  let ids ← (← listed members "assets").mapM fun holding => do
    let assetId := (← holding.asDict).get "asset-id"
    if assetId.isNull then return none
    return some (← assetId.key, assetId)
  return ids.filterMap id

/-- The distinct ids, each as it came first.  A set has no order that anything depends on. -/
def distinctIds (ids : List (Key × Json)) : List (Key × Json) :=
  ids.foldl (fun found entry =>
    if found.any (·.1 = entry.1) then found else found ++ [entry]) []

/-- `(asset_payload.get("asset", {}) or {}).get("params", {}) or {}`. -/
def resolvedParams (assetPayload : Json) : Except PyError Json := do
  let asset ← (subDict (← assetPayload.asDict) "asset").asDict
  return subDict asset "params"

/-- The lookups of `resolve_one`, all of which are made whatever the others give. -/
def askAssets : List (Key × Json) → Route (List (Key × Outcome))
  | [] => return []
  | (key, assetId) :: ids => do
    let outcome ← askUpstream (.asset assetId)
    let outcomes ← askAssets ids
    return (key, outcome) :: outcomes

/-- What the lookups resolved; a failed one resolves nothing. -/
def resolvedAssets (outcomes : List (Key × Outcome)) : Except PyError AssetParams := do
  let entries ← outcomes.mapM fun (key, outcome) => do
    match outcome with
    | .ok assetPayload => return some (key, ← resolvedParams assetPayload)
    | .error _ => return none
  return entries.filterMap id

/-- The metadata of the holdings of a page. -/
def resolveHoldings (payload : Json) : Route AssetParams := do
  let ids ← mapped (heldIds payload)
  let outcomes ← askAssets (distinctIds ids)
  mapped (resolvedAssets outcomes)

/-- `get_address_token_balances`. -/
def getAddressTokenBalances (address : String) (limit : Int) (nextToken : Option String)
    (resolve : Bool) : Route (Page MappedHolding) := do
  let _ ← validated (validateAddress sha512_256 address)
  let payload ← upstream (.accountAssets address limit nextToken)
  let params ← (if resolve then resolveHoldings payload else pure [])
  mapped (mapAccountAssets payload params)

/-! ### Block routes -/

/-- `get_block`. -/
def getBlock (roundNumber : Int) (includeTransactions : Bool) : Route MappedBlock := do
  let _ ← validated (validateUint64 (.int roundNumber) "round")
  let payload ← getOrFetch "block" (toString roundNumber) (upstream (.block (.int roundNumber)))
  mapped (mapBlock payload includeTransactions)

/-- `get_latest_block`. -/
def getLatestBlock : Route (Page MappedBlock) := do
  let status ← upstream .status
  let members ← mapped status.asDict
  let tip := members.get "last-round"
  if tip.isNull then Program.raise (.http ⟨502, "node did not report a round"⟩)
  else do
    -- The tip is the node's, the block is asked of the indexer.
    let payload ← upstream (.block tip)
    let block ← mapped (mapBlock payload false)
    return ⟨[block], none⟩

/-! ### Token and contract routes -/

/-- `get_token`. -/
def getToken (assetId : Int) : Route MappedAsset := do
  let _ ← validated (validateUint64 (.int assetId) "asset_id")
  let payload ← getOrFetch "asset" (toString assetId) (upstream (.asset (.int assetId)))
  mapped (mapAsset payload)

/-- `((await c.asset(asset_id)).get("asset", {}) or {}).get("params", {}).get("decimals")`. -/
def resolvedDecimals (assetPayload : Json) : Except PyError Json := do
  let asset ← (subDict (← assetPayload.asDict) "asset").asDict
  -- Unlike above, a null `params` is not taken for an absent one.
  let params ← (asset.get "params" (.obj [])).asDict
  return params.get "decimals"

/-- The decimals of an asset, null when its lookup fails. -/
def resolveDecimals (assetId : Int) : Route Json := do
  match ← askUpstream (.asset (.int assetId)) with
  | .ok assetPayload => mapped (resolvedDecimals assetPayload)
  | .error _ => return .null

/-- `get_token_holders`. -/
def getTokenHolders (assetId : Int) (limit : Int) (nextToken : Option String) (resolve : Bool) :
    Route (Page MappedHolder) := do
  let _ ← validated (validateUint64 (.int assetId) "asset_id")
  let payload ← upstream (.assetBalances assetId limit nextToken)
  let decimals ← (if resolve then resolveDecimals assetId else pure .null)
  mapped (mapAssetHolders payload decimals)

/-- `get_smart_contract`. -/
def getSmartContract (appId : Int) : Route MappedApplication := do
  let _ ← validated (validateUint64 (.int appId) "app_id")
  let payload ← getOrFetch "application" (toString appId) (upstream (.application appId))
  mapped (mapApplication keyText payload)

/-! ### Requests -/

/-- A request to an explorer route, with its path and query values. -/
inductive ApiRequest where
  | stats
  | address (address : String) (live : Bool)
  | addressTransactions (address : String) (limit : Int)
      (nextToken afterTime beforeTime txType : Option String) (assetId : Option Int)
  | addressTokenBalances (address : String) (limit : Int) (nextToken : Option String)
      (resolve : Bool)
  | transaction (txid : String)
  | block (roundNumber : Int) (includeTransactions : Bool)
  | latestBlock
  | token (assetId : Int)
  | tokenHolders (assetId : Int) (limit : Int) (nextToken : Option String) (resolve : Bool)
  | smartContract (appId : Int)
  | search (q : String) (limit : Int)

/-- The response of an explorer route. -/
inductive ApiResponse where
  | stats (body : Stats)
  | address (body : MappedAccount)
  | transactions (body : Page MappedTransaction)
  | holdings (body : Page MappedHolding)
  | transaction (body : MappedTransaction)
  | block (body : MappedBlock)
  | blocks (body : Page MappedBlock)
  | token (body : MappedAsset)
  | holders (body : Page MappedHolder)
  | smartContract (body : MappedApplication)
  | search (body : SearchResponse)

/-- The route that responds to a request. -/
def respond : ApiRequest → Route ApiResponse
  | .stats => .stats <$> stats config
  | .address address live => .address <$> getAddress sha512_256 address live
  | .addressTransactions address limit nextToken afterTime beforeTime txType assetId =>
    .transactions <$> getAddressTransactions sha512_256 address limit nextToken afterTime
      beforeTime txType assetId
  | .addressTokenBalances address limit nextToken resolve =>
    .holdings <$> getAddressTokenBalances sha512_256 address limit nextToken resolve
  | .transaction txid => .transaction <$> getTransaction txid
  | .block roundNumber includeTransactions =>
    .block <$> getBlock roundNumber includeTransactions
  | .latestBlock => .blocks <$> getLatestBlock
  | .token assetId => .token <$> getToken assetId
  | .tokenHolders assetId limit nextToken resolve =>
    .holders <$> getTokenHolders assetId limit nextToken resolve
  | .smartContract appId => .smartContract <$> getSmartContract keyText appId
  | .search q limit => .search <$> search keyText q limit

end Algorandscout
