import Algorandscout.Transaction

namespace Algorandscout

open Library

/-!
# Pages and blocks

The mappers of `mapping.py` that read more than one record.

* `mapAccountAssets` — holdings, with the metadata that was resolved for them;
* `mapAssetHolders` — holders of one asset;
* `mapBlock` — a block;
* `mapTransactionList` — transactions, their confirmations counted from the chain tip.
-/

/-! ### Pages -/

/-- A page of items, and the `next_token` of the page after it. -/
structure Page (Item : Type) where
  items : List Item
  nextPageParams : Option Json

/-- `_next_page`. -/
def nextPage (payload : Dict) : Option Json :=
  let token := payload.get "next-token"
  if token.truthy then some token else none

/-- `payload.get(key, []) or []`, as a loop goes through it. -/
def listed (payload : Dict) (key : String) : Except PyError (List Json) :=
  ((payload.get key (.arr [])).or (.arr [])).iter

/-! ### Holdings -/

/-- A dict key: equal keys are one key, so a bool is the number it stands for. -/
inductive Key where
  | none
  | num (n : Int)
  | text (s : String)
  deriving DecidableEq, Repr

/-- The dict key a value makes; a list or a dict makes none. -/
def Json.key : Json → Except PyError Key
  | .null => .ok .none
  | .bool b => .ok (.num (if b then 1 else 0))
  | .int n => .ok (.num n)
  | .str s => .ok (.text s)
  | .arr _ => .error .typeError
  | .obj _ => .error .typeError

/-- Resolved ASA metadata, keyed by asset id. -/
abbrev AssetParams := List (Key × Json)

/-- `params.get(asset_id, {})`. -/
def AssetParams.metadata (params : AssetParams) (assetId : Json) : Except PyError Json := do
  return (params.lookup (← assetId.key)).getD (.obj [])

structure TokenStub where
  address : Option String
  assetId : Json
  name : Json
  symbol : Json
  decimals : Json
  totalSupply : Option String
  type : String

/-- `_token_stub`. -/
def tokenStub (assetId : Json) (params : Dict) : TokenStub :=
  let total := params.get "total"
  { address := if assetId.isNull then none else some assetId.pyStr
    assetId
    name := params.get "name"
    symbol := params.get "unit-name"
    decimals := params.get "decimals"
    totalSupply := if total.isNull then none else some total.pyStr
    type := classifyAsset params }

structure MappedHolding where
  token : TokenStub
  value : String
  valueDecimal : Option String
  isFrozen : Json
  optedInAtRound : Json
  deleted : Json

/-- `decimal_string(amount, decimals) if decimals is not None else None`. -/
def valueDecimal (amount decimals : Json) : Except PyError (Option String) :=
  if decimals.isNull then .ok none else decimalString amount decimals

/-- One holding. -/
def mapHolding (params : AssetParams) (holding : Json) : Except PyError MappedHolding := do
  let members ← holding.asDict
  let assetId := members.get "asset-id"
  let metadata ← (← params.metadata assetId).asDict
  let amount := members.get "amount" (.int 0)
  let valueDecimal ← valueDecimal amount (metadata.get "decimals")
  return {
    token := tokenStub assetId metadata
    value := amount.pyStr
    valueDecimal
    isFrozen := members.get "is-frozen" (.bool false)
    optedInAtRound := members.get "opted-in-at-round"
    deleted := members.get "deleted" (.bool false) }

/-- `map_account_assets`. -/
def mapAccountAssets (payload : Json) (params : AssetParams) :
    Except PyError (Page MappedHolding) := do
  let members ← payload.asDict
  let items ← (← listed members "assets").mapM (mapHolding params)
  return ⟨items, nextPage members⟩

/-! ### Holders -/

structure MappedHolder where
  /-- The `hash` of `address`. -/
  addressHash : Json
  value : String
  valueDecimal : Option String
  isFrozen : Json
  deleted : Json

/-- One holder. -/
def mapHolder (decimals balance : Json) : Except PyError MappedHolder := do
  let members ← balance.asDict
  let amount := members.get "amount" (.int 0)
  let valueDecimal ← valueDecimal amount decimals
  return {
    addressHash := members.get "address"
    value := amount.pyStr
    valueDecimal
    isFrozen := members.get "is-frozen" (.bool false)
    deleted := members.get "deleted" (.bool false) }

/-- `map_asset_holders`. -/
def mapAssetHolders (payload decimals : Json) : Except PyError (Page MappedHolder) := do
  let members ← payload.asDict
  let items ← (← listed members "balances").mapM (mapHolder decimals)
  return ⟨items, nextPage members⟩

/-! ### Blocks -/

structure MappedBlock where
  height : Json
  parentHash : Json
  timestamp : Option String
  timestampUnix : Json
  /-- Also the `hash` of `miner`. -/
  proposer : Json
  transactionsCount : ℕ
  transactionsRoot : Json
  seed : Json
  genesisId : Json
  feesCollected : Json
  feesCollectedDecimal : Option String
  proposerPayout : Json
  bonus : Json
  rewards : Json
  upgradeState : Json
  isFinal : Bool
  /-- There when asked for. -/
  transactions : Option (List MappedTransaction)

/-- `len(x)`. -/
def Json.len : Json → Except PyError ℕ
  | .arr items => .ok items.length
  | .obj members => .ok members.length
  | .str s => .ok s.length
  | _ => .error .typeError

/-- `map_block`. -/
def mapBlock (payload : Json) (includeTransactions : Bool) : Except PyError MappedBlock := do
  let members ← payload.asDict
  let transactions := (members.get "transactions" (.arr [])).or (.arr [])
  let timestamp ← iso (members.get "timestamp")
  let transactionsCount ← transactions.len
  let feesCollectedDecimal ← decimalString (members.get "fees-collected") (.int algoDecimals)
  let mapped ← if includeTransactions then
      some <$> (transactions.iter >>= List.mapM mapTransaction)
    else pure none
  return {
    -- The indexer gives the parent's hash only, so the block's own is not reported.
    height := members.get "round"
    parentHash := members.get "previous-block-hash"
    timestamp
    timestampUnix := members.get "timestamp"
    proposer := members.get "proposer"
    transactionsCount
    transactionsRoot := members.get "transactions-root"
    seed := members.get "seed"
    genesisId := members.get "genesis-id"
    feesCollected := members.get "fees-collected"
    feesCollectedDecimal
    proposerPayout := members.get "proposer-payout"
    bonus := members.get "bonus"
    rewards := members.get "rewards"
    upgradeState := members.get "upgrade-state"
    isFinal := true
    transactions := mapped }

/-! ### Transactions -/

/-- One transaction of a page; unlike `get_transaction`, the list asks whether the tip and the
    round are null, not whether they are zero. -/
def listedTransaction (chainTip tx : Json) : Except PyError MappedTransaction := do
  let mapped ← mapTransaction tx
  if chainTip.isNull || mapped.blockNumber.isNull then return mapped
  let confirmations := max 0 ((← chainTip.asInt) - (← mapped.blockNumber.asInt))
  return { mapped with confirmations := some confirmations }

/-- `map_transaction_list`. -/
def mapTransactionList (payload chainTip : Json) : Except PyError (Page MappedTransaction) := do
  let members ← payload.asDict
  let items ← (← listed members "transactions").mapM (listedTransaction chainTip)
  return ⟨items, nextPage members⟩

end Algorandscout
