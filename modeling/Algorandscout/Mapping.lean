import Algorandscout.Python.Text
import Mathlib.Algebra.Group.Int.Defs

namespace Algorandscout

/-!
# Indexer payloads to response objects

The pure mappers of `mapping.py`.  A response object is a structure with the members of the
source's dict under their names; members that are null in every response (no gas, no nonce, no
source code, ..) are left out.  A member copied from the payload is `Json`, so `null` and
whatever else the payload holds stay distinct.

* `iso`, `decimalString`, `clean` — the primitives;
* `mapAccount`, `mapAsset`, `mapApplication` — three of the mappers; `map_transaction` has a
  module of its own.
-/

def algoDecimals : ℕ := 6

def zeroAddress : String := "AAAAAAAAAAAAAAAAAAAAAAAAAAAAAAAAAAAAAAAAAAAAAAAAAAAAY5HFKQ"

/-! ### Primitives -/

/-- `str(n).rjust(width, "0")`. -/
def padDigits (n width : ℕ) : List Char :=
  let digits := (toString n).toList
  List.replicate (width - digits.length) '0' ++ digits

/-- Year, month and day of the `z`-th day after 1970-01-01 in the Gregorian calendar, by
    400-year eras that start in March. -/
def civilFromDays (z : Int) : Int × ℕ × ℕ :=
  -- Day 0 becomes 0000-03-01, so that a leap day is the last one of its year.
  let shifted := z + 719468
  let era := shifted / 146097
  let dayOfEra := (shifted % 146097).toNat
  let yearOfEra := (dayOfEra - dayOfEra / 1460 + dayOfEra / 36524 - dayOfEra / 146096) / 365
  let dayOfYear := dayOfEra - (365 * yearOfEra + yearOfEra / 4 - yearOfEra / 100)
  let mp := (5 * dayOfYear + 2) / 153
  let day := dayOfYear - (153 * mp + 2) / 5 + 1
  let month := if mp < 10 then mp + 3 else mp - 9
  let year := (yearOfEra : Int) + era * 400 + (if month ≤ 2 then 1 else 0)
  (year, month, day)

/-- `datetime.fromtimestamp(t, tz=utc).isoformat().replace("+00:00", "Z")`. -/
def isoformat (t : Int) : String :=
  let (year, month, day) := civilFromDays (t / 86400)
  let second := (t % 86400).toNat
  String.ofList (padDigits year.toNat 4 ++ '-' :: padDigits month 2 ++ '-' :: padDigits day 2 ++
    'T' :: padDigits (second / 3600) 2 ++ ':' :: padDigits (second / 60 % 60) 2 ++
    ':' :: padDigits (second % 60) 2 ++ ['Z'])

/-- The timestamps of the years 1 and 9999 that a `datetime` can hold. -/
def minTimestamp : Int := -62135596800

def maxTimestamp : Int := 253402300799

/-- `iso`. -/
def iso (timestamp : Json) : Except PyError (Option String) :=
  if timestamp.isNull then .ok none
  else do
    let t ← timestamp.asInt
    -- The conversion to a machine integer fails first, then the one to a year.
    if t < -2 ^ 63 ∨ 2 ^ 63 ≤ t then throw .overflowError
    if t < minTimestamp ∨ maxTimestamp < t then throw .valueError
    return some (isoformat t)

/-- What `decimal_string` makes of the digits of an integer, once `str` has written them. -/
def renderDecimal (amount : Int) (decimals : ℕ) : String :=
  let sign : List Char := if amount < 0 then ['-'] else []
  -- At least one digit stands before the point.
  let digits := padDigits amount.natAbs (decimals + 1)
  let whole := digits.take (digits.length - decimals)
  let frac := (digits.drop (digits.length - decimals)).reverse.dropWhile (· == '0') |>.reverse
  String.ofList (sign ++ whole ++ if frac.isEmpty then [] else '.' :: frac)

/-- `decimal_string`. -/
def decimalString (amount decimals : Json) : Except PyError (Option String) :=
  if amount.isNull then .ok none
  else do
    let d ← decimals.asInt
    -- Without decimals the amount is not looked at: whatever it is, `str` renders it.
    if d ≤ 0 then return some (← Text.str amount)
    let n ← amount.asInt
    -- `str(abs(amount))`, of which only the digits count.
    if ¬Text.Writable n then throw .valueError
    return some (renderDecimal n d.toNat)

/-- An amount of the native coin. -/
theorem decimalString_algo (n : Int) :
    decimalString (.int n) (.int algoDecimals) =
      if Text.Writable n then .ok (some (renderDecimal n algoDecimals))
      else .error .valueError := by
  show (if ¬Text.Writable n then _ else _) = _
  rw [ite_not]
  rfl

/-- `_clean`: the all-zero address means unset. -/
def clean (address : Json) : Json :=
  if address.isNull || address.eqStr zeroAddress then .null else address

/-- A dict member that is itself a dict: `(d.get(key, {}) or {})`. -/
def subDict (d : Dict) (key : String) : Json := (d.get key (.obj [])).or (.obj [])

example : isoformat 0 = "1970-01-01T00:00:00Z" := by decide

example : isoformat 1709210096 = "2024-02-29T12:34:56Z" := by decide

example : renderDecimal (-1500000) 6 = "-1.5" := by decide

/-! ### Accounts -/

structure AccountCounters where
  assetsHeld : Json
  assetsCreated : Json
  appsOptedIn : Json
  appsCreated : Json
  boxes : Json
  boxBytes : Json

/-- The response of the account route. -/
structure MappedAccount where
  hash : Json
  hashFormat : String
  coinBalance : String
  coinBalanceDecimal : Option String
  isContract : Bool
  status : Json
  signatureType : Json
  rekeyedTo : Json
  minBalance : Json
  createdAtRound : Json
  deleted : Json
  counters : AccountCounters
  asOfRound : Json

/-- `map_account`. -/
def mapAccount (payload : Json) : Except PyError MappedAccount := do
  let payloadDict ← payload.asDict
  -- The indexer wraps the account; without the wrapper the payload is the account.
  let account ← ((payloadDict.get "account" payload).or (.obj [])).asDict
  let totalCreatedApps := (account.get "total-created-apps" (.int 0)).or (.int 0)
  let amount := account.get "amount" (.int 0)
  let coinBalanceDecimal ← decimalString amount (.int algoDecimals)
  let apps ← totalCreatedApps.asInt
  return {
    hash := account.get "address"
    hashFormat := "base32-ed25519"
    coinBalance := amount.pyStr
    coinBalanceDecimal
    isContract := apps > 0
    status := account.get "status"
    signatureType := account.get "sig-type"
    rekeyedTo := clean (account.get "auth-addr")
    minBalance := account.get "min-balance"
    createdAtRound := account.get "created-at-round"
    deleted := account.get "deleted" (.bool false)
    counters := {
      assetsHeld := account.get "total-assets-opted-in" (.int 0)
      assetsCreated := account.get "total-created-assets" (.int 0)
      appsOptedIn := account.get "total-apps-opted-in" (.int 0)
      appsCreated := totalCreatedApps
      boxes := account.get "total-boxes" (.int 0)
      boxBytes := account.get "total-box-bytes" (.int 0) }
    asOfRound := (payloadDict.get "current-round").or (account.get "round") }

/-! ### Assets -/

/-- `classify_asset`. -/
def classifyAsset (params : Dict) : String :=
  let total := params.get "total"
  let decimals := params.get "decimals"
  if total.eqInt 1 && decimals.eqInt 0 then "ASA-NFT"
  else
    match total with
    | .int n => if 1 < n && decimals.eqInt 0 && n ≤ 10000 then "ASA-NFT-EDITION" else "ASA"
    | _ => "ASA"

structure AssetRoles where
  creator : Json
  manager : Json
  reserve : Json
  freeze : Json
  clawback : Json

/-- The response of the token route. -/
structure MappedAsset where
  address : String
  assetId : Json
  name : Json
  symbol : Json
  decimals : Json
  type : String
  totalSupply : Option String
  totalSupplyDecimal : Option String
  url : Json
  metadataHash : Json
  defaultFrozen : Json
  createdAtRound : Json
  destroyedAtRound : Json
  deleted : Json
  roles : AssetRoles
  clawbackEnabled : Bool
  freezeEnabled : Bool
  asOfRound : Json

/-- `map_asset`. -/
def mapAsset (payload : Json) : Except PyError MappedAsset := do
  let payloadDict ← payload.asDict
  let asset ← ((payloadDict.get "asset" payload).or (.obj [])).asDict
  let params ← (subDict asset "params").asDict
  let total := params.get "total"
  let decimals := params.get "decimals" (.int 0)
  let totalSupplyDecimal ← decimalString total decimals
  return {
    address := (asset.get "index").pyStr
    assetId := asset.get "index"
    name := params.get "name"
    symbol := params.get "unit-name"
    decimals
    type := classifyAsset params
    totalSupply := if total.isNull then none else some total.pyStr
    totalSupplyDecimal
    url := params.get "url"
    metadataHash := params.get "metadata-hash"
    defaultFrozen := params.get "default-frozen" (.bool false)
    createdAtRound := asset.get "created-at-round"
    destroyedAtRound := asset.get "destroyed-at-round"
    deleted := asset.get "deleted" (.bool false)
    roles := {
      creator := params.get "creator"
      manager := clean (params.get "manager")
      reserve := clean (params.get "reserve")
      freeze := clean (params.get "freeze")
      clawback := clean (params.get "clawback") }
    clawbackEnabled := !(clean (params.get "clawback")).isNull
    freezeEnabled := !(clean (params.get "freeze")).isNull
    asOfRound := payloadDict.get "current-round" }

/-! ### Applications -/

structure StateEntry where
  keyB64 : Json
  key : Option String
  type : String
  value : Json

/-- The response of the smart-contract route. -/
structure MappedApplication where
  address : String
  appId : Json
  creatorAddressHash : Json
  isContract : Bool
  language : String
  approvalProgram : Json
  clearStateProgram : Json
  extraProgramPages : Json
  createdAtRound : Json
  deletedAtRound : Json
  deleted : Json
  globalSchema : Json
  localSchema : Json
  globalState : List StateEntry
  asOfRound : Json

/-- The text that a base64 state key decodes to, if it is printable UTF-8: any failure of the
    decode is caught. -/
abbrev KeyText := Json → Option String

/-- `_decode_state_entry`. -/
def decodeStateEntry (keyText : KeyText) (entry : Json) : Except PyError StateEntry := do
  let entryDict ← entry.asDict
  let rawKey := entryDict.get "key" (.str "")
  let value ← (subDict entryDict "value").asDict
  let isBytes := (value.get "type").eqInt 1
  return {
    keyB64 := rawKey
    key := keyText rawKey
    type := if isBytes then "bytes" else "uint"
    value := if isBytes then value.get "bytes" else value.get "uint" }

/-- `map_application`. -/
def mapApplication (keyText : KeyText) (payload : Json) : Except PyError MappedApplication := do
  let payloadDict ← payload.asDict
  let app ← ((payloadDict.get "application" payload).or (.obj [])).asDict
  let params ← (subDict app "params").asDict
  let globalState ← ((params.get "global-state" (.arr [])).or (.arr [])).asList
  let entries ← globalState.mapM (decodeStateEntry keyText)
  return {
    address := (app.get "id").pyStr
    appId := app.get "id"
    creatorAddressHash := params.get "creator"
    isContract := true
    language := "TEAL/AVM"
    approvalProgram := params.get "approval-program"
    clearStateProgram := params.get "clear-state-program"
    extraProgramPages := params.get "extra-program-pages" (.int 0)
    createdAtRound := app.get "created-at-round"
    deletedAtRound := app.get "deleted-at-round"
    deleted := app.get "deleted" (.bool false)
    globalSchema := params.get "global-state-schema"
    localSchema := params.get "local-state-schema"
    globalState := entries
    asOfRound := payloadDict.get "current-round" }

end Algorandscout
