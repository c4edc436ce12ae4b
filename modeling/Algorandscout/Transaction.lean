import Algorandscout.Mapping
import Algorandscout.Library.Fallible

namespace Algorandscout

open Library

/-!
# `map_transaction`

The transaction mapper and its three helpers.  A record may hold inner records under
`inner-txns`, at every depth; the mapper is applied to each.

* `mapFields` — the mapper on one record, its inner records aside;
* `mapTransaction` — the mapper, with `mapTransaction_obj` as its equation;
* `records`, `MappedTransaction.all` — the nodes of a raw and of a mapped tree, in pre-order;
* `mapTransaction_nodes` — the mapper maps the tree node by node, so what holds of one record
  and its output holds of all of them.
-/

/-- Algorand transaction type → the sub-object the indexer nests its detail under. -/
def txTypeDetailKey : List (String × String) :=
  [("pay", "payment-transaction"), ("axfer", "asset-transfer-transaction"),
    ("acfg", "asset-config-transaction"), ("afrz", "asset-freeze-transaction"),
    ("appl", "application-transaction"), ("keyreg", "keyreg-transaction"),
    ("stpf", "state-proof-transaction"), ("hb", "heartbeat-transaction")]

/-- Human-readable labels for each transaction type. -/
def txTypeLabel : List (String × String) :=
  [("pay", "Payment"), ("axfer", "Asset Transfer"), ("acfg", "Asset Configuration"),
    ("afrz", "Asset Freeze"), ("appl", "Application Call"), ("keyreg", "Key Registration"),
    ("stpf", "State Proof"), ("hb", "Heartbeat")]

/-- `table.get(tx_type or "", default)`; a list or a dict is no dict key. -/
def lookupType (table : List (String × String)) (txType : Json) :
    Except PyError (Option String) :=
  match txType.or (.str "") with
  | .str s => .ok (table.lookup s)
  | .arr _ => .error .typeError
  | .obj _ => .error .typeError
  | _ => .ok none

theorem lookupType_str (table : List (String × String)) (t : String) :
    lookupType table (.str t) = .ok (table.lookup t) := by
  -- `tx_type or ""` of a string is the string, the empty one included.
  have hor : (Json.str t).or (.str "") = .str t := by
    by_cases ht : t = "" <;> simp [Json.or, ht]
  unfold lookupType
  rw [hor]

/-- Every type has the one key that the table lists for it. -/
theorem lookup_txTypeDetailKey {t key : String} (h : (t, key) ∈ txTypeDetailKey) :
    txTypeDetailKey.lookup t = some key := by
  have hall : ∀ entry ∈ txTypeDetailKey, txTypeDetailKey.lookup entry.1 = some entry.2 := by decide
  exact hall (t, key) h

/-! ### Response objects -/

structure TokenTransfer where
  assetId : Json
  /-- `from`. -/
  fromAddress : Json
  /-- `to`. -/
  toAddress : Json
  amount : String
  closeTo : Json
  isClawback : Bool

/-- `closes_asset_holding` is there for an asset transfer only. -/
structure Close where
  closesAccount : Bool
  closesAssetHolding : Option Bool
  closeRemainderTo : Json
  closeAmount : String
  closeAmountDecimal : Option String
  valueTotal : String
  valueTotalDecimal : Option String
  assetId : Json

structure MappedTransaction where
  hash : Json
  blockNumber : Json
  timestamp : Option String
  timestampUnix : Json
  /-- The `hash` of `from`. -/
  fromHash : Json
  /-- The `hash` of `to`, which is null without a counterparty. -/
  toHash : Option Json
  value : String
  valueDecimal : Option String
  close : Option Close
  closesAccount : Bool
  valueTotal : String
  fee : String
  feeDecimal : Option String
  status : String
  method : Json
  txType : Json
  /-- Filled by the callers: chain tip − confirmed round. -/
  confirmations : Option Int
  position : Json
  note : Json
  group : Json
  rekeyTo : Json
  signatureType : Option String
  firstValid : Json
  lastValid : Json
  tokenTransfer : Option TokenTransfer
  createdAssetIndex : Json
  createdApplicationIndex : Json
  logs : Json
  internalTransactionsCount : ℕ
  internalTransactions : List MappedTransaction
  /-- The raw sub-object under its key. -/
  algorand : Option (String × Json)

/-! ### The helpers -/

/-- `x + y` of the values JSON can hold. -/
def pyAdd (x y : Json) : Except PyError Json :=
  match x, y with
  | .str s, .str t => .ok (.str (s ++ t))
  | .arr xs, .arr ys => .ok (.arr (xs ++ ys))
  | _, _ => do return .int ((← x.asInt) + (← y.asInt))

/-- `_extract_movement`: counterparty, native value, token transfer. -/
def extractMovement (txType detail : Json) :
    Except PyError (Json × Json × Option TokenTransfer) := do
  if txType.eqStr "pay" then
    let d ← detail.asDict
    return (d.get "receiver", d.get "amount" (.int 0), none)
  if txType.eqStr "axfer" then
    let d ← detail.asDict
    -- A clawback moves funds from the holder that the sub-object names as `sender`.
    let transfer := {
      assetId := d.get "asset-id"
      fromAddress := (d.get "sender").or .null
      toAddress := d.get "receiver"
      amount := (d.get "amount" (.int 0)).pyStr
      closeTo := clean (d.get "close-to")
      isClawback := (d.get "sender").truthy }
    return (d.get "receiver", .int 0, some transfer)
  if txType.eqStr "appl" then
    let appId := (← detail.asDict).get "application-id"
    return (if appId.truthy then .str appId.pyStr else .null, .int 0, none)
  if txType.eqStr "acfg" then
    let assetId := (← detail.asDict).get "asset-id"
    return (if assetId.truthy then .str assetId.pyStr else .null, .int 0, none)
  if txType.eqStr "afrz" then
    return ((← detail.asDict).get "address", .int 0, none)
  return (.null, .int 0, none)

/-- `_extract_close`. -/
def extractClose (txType detail : Json) (tx : Dict) : Except PyError (Option Close) := do
  if txType.eqStr "pay" then
    let d ← detail.asDict
    let target := clean (d.get "close-remainder-to")
    if !target.truthy then return none
    let amount := (d.get "amount" (.int 0)).or (.int 0)
    -- The amount swept is in the sub-object; only when absent there, at the top level.
    let closeAmount := (d.get "close-amount" (tx.get "closing-amount" (.int 0))).or (.int 0)
    let closeAmountDecimal ← decimalString closeAmount (.int algoDecimals)
    -- The total is computed, so it can be too long for `str`.
    let total ← pyAdd amount closeAmount
    let valueTotal ← Text.str total
    let valueTotalDecimal ← decimalString total (.int algoDecimals)
    return some {
      closesAccount := true
      closesAssetHolding := none
      closeRemainderTo := target
      closeAmount := closeAmount.pyStr
      closeAmountDecimal
      valueTotal
      valueTotalDecimal
      assetId := .null }
  if txType.eqStr "axfer" then
    let d ← detail.asDict
    let target := clean (d.get "close-to")
    if !target.truthy then return none
    let amount := (d.get "amount" (.int 0)).or (.int 0)
    let closeAmount := (d.get "close-amount" (.int 0)).or (.int 0)
    let total ← pyAdd amount closeAmount
    let valueTotal ← Text.str total
    return some {
      -- It ends the opt-in to the asset, not the account.
      closesAccount := false
      closesAssetHolding := some true
      closeRemainderTo := target
      closeAmount := closeAmount.pyStr
      closeAmountDecimal := none
      valueTotal
      valueTotalDecimal := none
      assetId := d.get "asset-id" }
  return none

theorem extractMovement_pay {detail : Json} {r : Json × Json × Option TokenTransfer}
    (h : extractMovement (.str "pay") detail = .ok r) :
    ∃ d : Dict, detail = .obj d ∧ r = (d.get "receiver", d.get "amount" (.int 0), none) := by
  cases detail with
  | obj d => exact ⟨d, rfl, (Except.ok.inj h).symm⟩
  | _ => cases h

theorem extractMovement_axfer {detail : Json} {r : Json × Json × Option TokenTransfer}
    (h : extractMovement (.str "axfer") detail = .ok r) :
    ∃ d : Dict, detail = .obj d ∧ r = (d.get "receiver", .int 0, some {
      assetId := d.get "asset-id"
      fromAddress := (d.get "sender").or .null
      toAddress := d.get "receiver"
      amount := (d.get "amount" (.int 0)).pyStr
      closeTo := clean (d.get "close-to")
      isClawback := (d.get "sender").truthy }) := by
  cases detail with
  | obj d => exact ⟨d, rfl, (Except.ok.inj h).symm⟩
  | _ => cases h

/-- What is read of the sub-object of a payment. -/
theorem extractMovement_pay_obj (d : Dict) : extractMovement (.str "pay") (.obj d) =
    .ok (d.get "receiver", d.get "amount" (.int 0), none) := rfl

/-- What is read of the sub-object of an asset transfer. -/
theorem extractMovement_axfer_obj (d : Dict) : extractMovement (.str "axfer") (.obj d) =
    .ok (d.get "receiver", .int 0, some {
      assetId := d.get "asset-id"
      fromAddress := (d.get "sender").or .null
      toAddress := d.get "receiver"
      amount := (d.get "amount" (.int 0)).pyStr
      closeTo := clean (d.get "close-to")
      isClawback := (d.get "sender").truthy }) := rfl

/-- Only payments and asset transfers move value. -/
theorem extractMovement_other {txType detail : Json} {r : Json × Json × Option TokenTransfer}
    (hpay : txType.eqStr "pay" = false) (haxfer : txType.eqStr "axfer" = false)
    (h : extractMovement txType detail = .ok r) : r.2 = (.int 0, none) := by
  unfold extractMovement at h
  simp only [hpay, haxfer, Bool.false_eq_true, ↓reduceIte] at h
  split_ifs at h
  · obtain ⟨d, -, h⟩ := bind_eq_ok.mp h
    rw [← Except.ok.inj h]
  · obtain ⟨d, -, h⟩ := bind_eq_ok.mp h
    rw [← Except.ok.inj h]
  · obtain ⟨d, -, h⟩ := bind_eq_ok.mp h
    rw [← Except.ok.inj h]
  · rw [← Except.ok.inj h]

/-- The close of a payment that sweeps an integer amount to the target. -/
def paymentClose (target : Json) (amount closeAmount : Int) : Close := {
  closesAccount := true
  closesAssetHolding := none
  closeRemainderTo := target
  closeAmount := toString closeAmount
  closeAmountDecimal := some (renderDecimal closeAmount algoDecimals)
  valueTotal := toString (amount + closeAmount)
  valueTotalDecimal := some (renderDecimal (amount + closeAmount) algoDecimals)
  assetId := .null }

/-- The close of an asset transfer that sweeps an integer amount to the target. -/
def transferClose (target assetId : Json) (amount closeAmount : Int) : Close := {
  closesAccount := false
  closesAssetHolding := some true
  closeRemainderTo := target
  closeAmount := toString closeAmount
  closeAmountDecimal := none
  valueTotal := toString (amount + closeAmount)
  valueTotalDecimal := none
  assetId }

section

variable (target assetId : Json) (amount closeAmount : Int)

@[simp] theorem paymentClose_closeRemainderTo :
    (paymentClose target amount closeAmount).closeRemainderTo = target := rfl
@[simp] theorem paymentClose_closeAmount :
    (paymentClose target amount closeAmount).closeAmount = toString closeAmount := rfl
@[simp] theorem paymentClose_valueTotal :
    (paymentClose target amount closeAmount).valueTotal = toString (amount + closeAmount) := rfl

@[simp] theorem transferClose_closeRemainderTo :
    (transferClose target assetId amount closeAmount).closeRemainderTo = target := rfl
@[simp] theorem transferClose_closeAmount :
    (transferClose target assetId amount closeAmount).closeAmount = toString closeAmount := rfl
@[simp] theorem transferClose_valueTotal :
    (transferClose target assetId amount closeAmount).valueTotal =
      toString (amount + closeAmount) := rfl

end

/-- **The close of a payment** with amounts that are read as integers: `str` has to write what is
    swept, and the total. -/
theorem extractClose_pay {d tx : Dict} {amount closeAmount : Int}
    (hamount : (d.get "amount" (.int 0)).or (.int 0) = .int amount)
    (hclose : (d.get "close-amount" (tx.get "closing-amount" (.int 0))).or (.int 0) =
      .int closeAmount) :
    extractClose (.str "pay") (.obj d) tx =
      if (clean (d.get "close-remainder-to")).truthy then
        if Text.Writable closeAmount ∧ Text.Writable (amount + closeAmount) then
          .ok (some (paymentClose (clean (d.get "close-remainder-to")) amount closeAmount))
        else .error .valueError
      else .ok none := by
  have htotal : pyAdd (.int amount) (.int closeAmount) = .ok (.int (amount + closeAmount)) := rfl
  unfold extractClose
  simp only [Json.eqStr, beq_self_eq_true, ↓reduceIte, Json.asDict_obj, ok_bind, hamount, hclose,
    decimalString_algo, Text.str_int, htotal]
  cases (clean (d.get "close-remainder-to")).truthy with
  | false => rfl
  | true =>
    by_cases hswept : Text.Writable closeAmount
    · by_cases hsum : Text.Writable (amount + closeAmount)
      · simp only [hswept, hsum, ↓reduceIte, and_self, ok_bind]
        rfl
      · simp only [hswept, hsum, ↓reduceIte, and_false, ok_bind]
        rfl
    · simp only [hswept, ↓reduceIte, false_and]
      rfl

/-- **The close of an asset transfer** with amounts that are read as integers: `str` has to write
    the total. -/
theorem extractClose_axfer {d tx : Dict} {amount closeAmount : Int}
    (hamount : (d.get "amount" (.int 0)).or (.int 0) = .int amount)
    (hclose : (d.get "close-amount" (.int 0)).or (.int 0) = .int closeAmount) :
    extractClose (.str "axfer") (.obj d) tx =
      if (clean (d.get "close-to")).truthy then
        if Text.Writable (amount + closeAmount) then
          .ok (some (transferClose (clean (d.get "close-to")) (d.get "asset-id") amount
            closeAmount))
        else .error .valueError
      else .ok none := by
  have hne : ("axfer" == "pay") = false := by decide
  have htotal : pyAdd (.int amount) (.int closeAmount) = .ok (.int (amount + closeAmount)) := rfl
  unfold extractClose
  simp only [Json.eqStr, hne, Bool.false_eq_true, beq_self_eq_true, ↓reduceIte, Json.asDict_obj,
    ok_bind, hamount, hclose, Text.str_int, htotal]
  cases (clean (d.get "close-to")).truthy with
  | false => rfl
  | true =>
    by_cases hsum : Text.Writable (amount + closeAmount)
    · simp only [hsum, ↓reduceIte, ok_bind]
      rfl
    · simp only [hsum, ↓reduceIte]
      rfl

/-- What a close of a payment is, when there is one. -/
theorem eq_of_extractClose_pay {d tx : Dict} {amount closeAmount : Int} {close : Option Close}
    (hamount : (d.get "amount" (.int 0)).or (.int 0) = .int amount)
    (hclose : (d.get "close-amount" (tx.get "closing-amount" (.int 0))).or (.int 0) =
      .int closeAmount)
    (h : extractClose (.str "pay") (.obj d) tx = .ok close) :
    close = if (clean (d.get "close-remainder-to")).truthy then
      some (paymentClose (clean (d.get "close-remainder-to")) amount closeAmount) else none := by
  rw [extractClose_pay hamount hclose] at h
  split_ifs at h ⊢
  · exact (Except.ok.inj h).symm
  · exact (Except.ok.inj h).symm

/-- What a close of an asset transfer is, when there is one. -/
theorem eq_of_extractClose_axfer {d tx : Dict} {amount closeAmount : Int} {close : Option Close}
    (hamount : (d.get "amount" (.int 0)).or (.int 0) = .int amount)
    (hclose : (d.get "close-amount" (.int 0)).or (.int 0) = .int closeAmount)
    (h : extractClose (.str "axfer") (.obj d) tx = .ok close) :
    close = if (clean (d.get "close-to")).truthy then
      some (transferClose (clean (d.get "close-to")) (d.get "asset-id") amount closeAmount)
      else none := by
  rw [extractClose_axfer hamount hclose] at h
  split_ifs at h ⊢
  · exact (Except.ok.inj h).symm
  · exact (Except.ok.inj h).symm

/-- Only payments and asset transfers close. -/
theorem extractClose_other {txType : Json} (detail : Json) (tx : Dict)
    (hpay : txType.eqStr "pay" = false) (haxfer : txType.eqStr "axfer" = false) :
    extractClose txType detail tx = .ok none := by
  unfold extractClose
  simp only [hpay, haxfer, Bool.false_eq_true, ↓reduceIte]
  rfl

/-- What the close of a payment depends on. -/
theorem extractClose_pay_congr {d d' tx tx' : Dict}
    (htarget : clean (d.get "close-remainder-to") = clean (d'.get "close-remainder-to"))
    (hamount : (d.get "amount" (.int 0)).or (.int 0) = (d'.get "amount" (.int 0)).or (.int 0))
    (hclose : (d.get "close-amount" (tx.get "closing-amount" (.int 0))).or (.int 0) =
      (d'.get "close-amount" (tx'.get "closing-amount" (.int 0))).or (.int 0)) :
    extractClose (.str "pay") (.obj d) tx = extractClose (.str "pay") (.obj d') tx' := by
  unfold extractClose
  simp only [Json.eqStr, beq_self_eq_true, ↓reduceIte, Json.asDict_obj, ok_bind, htarget, hamount,
    hclose]

/-- What the close of an asset transfer depends on. -/
theorem extractClose_axfer_congr {d d' tx tx' : Dict}
    (htarget : clean (d.get "close-to") = clean (d'.get "close-to"))
    (hamount : (d.get "amount" (.int 0)).or (.int 0) = (d'.get "amount" (.int 0)).or (.int 0))
    (hclose : (d.get "close-amount" (.int 0)).or (.int 0) =
      (d'.get "close-amount" (.int 0)).or (.int 0))
    (hasset : d.get "asset-id" = d'.get "asset-id") :
    extractClose (.str "axfer") (.obj d) tx = extractClose (.str "axfer") (.obj d') tx' := by
  have hne : ("axfer" == "pay") = false := by decide
  unfold extractClose
  simp only [Json.eqStr, hne, Bool.false_eq_true, beq_self_eq_true, ↓reduceIte, Json.asDict_obj,
    ok_bind, htarget, hamount, hclose, hasset]

/-- `_signature_type`. -/
def signatureType (signature : Json) : Except PyError (Option String) := do
  if ← Json.pyIn "sig" signature then return some "ed25519"
  if ← Json.pyIn "multisig" signature then return some "multisig"
  if ← Json.pyIn "logicsig" signature then return some "logicsig"
  return none

/-! ### The mapper -/

/-- `str(value) if value is not None else "0"`. -/
def valueString (value : Json) : String := if value.isNull then "0" else value.pyStr

/-- `decimal_string(value, ALGO_DECIMALS)` for a payment, null for anything else. -/
def nativeDecimal (txType value : Json) : Except PyError (Option String) :=
  if txType.eqStr "pay" && !value.isNull then decimalString value (.int algoDecimals)
  else .ok none

/-- `map_transaction` on one record; the inner records are mapped by the caller. -/
def mapFields (tx : Dict) : Except PyError MappedTransaction := do
  let txType := tx.get "tx-type"
  let detailKey := (← lookupType txTypeDetailKey txType).getD ""
  let detail := subDict tx detailKey
  let confirmed := tx.get "confirmed-round"
  let (toAddress, value, tokenTransfer) ← extractMovement txType detail
  let close ← extractClose txType detail tx
  let timestamp ← iso (tx.get "round-time")
  let valueDecimal ← nativeDecimal txType value
  let feeDecimal ← decimalString (tx.get "fee" (.int 0)) (.int algoDecimals)
  let label ← lookupType txTypeLabel txType
  let signatureType ← signatureType (subDict tx "signature")
  return {
    hash := tx.get "id"
    blockNumber := confirmed
    timestamp
    timestampUnix := tx.get "round-time"
    fromHash := tx.get "sender"
    toHash := if toAddress.truthy then some toAddress else none
    value := valueString value
    valueDecimal
    close
    closesAccount := (close.map (·.closesAccount)).getD false
    -- What a close reports as its total, in whatever unit that is.
    valueTotal := (close.map (·.valueTotal)).getD (valueString value)
    fee := (tx.get "fee" (.int 0)).pyStr
    feeDecimal
    status := if confirmed.truthy then "ok" else "pending"
    method := (label.map Json.str).getD txType
    txType
    confirmations := none
    position := tx.get "intra-round-offset"
    note := tx.get "note"
    group := tx.get "group"
    rekeyTo := clean (tx.get "rekey-to")
    signatureType
    firstValid := tx.get "first-valid"
    lastValid := tx.get "last-valid"
    tokenTransfer
    createdAssetIndex := tx.get "created-asset-index"
    createdApplicationIndex := tx.get "created-application-index"
    logs := tx.get "logs"
    internalTransactionsCount := 0
    internalTransactions := []
    algorand := if detailKey ≠ "" && detail.truthy then some (detailKey, detail) else none }

/-- What `mapFields` makes `m` of: the sub-object under the type's key, and what the helpers
    read out of it. -/
structure FieldsOf (tx : Dict) (m : MappedTransaction) (detailKey : Option String)
    (counterparty value : Json) : Prop where
  detailKey_eq : lookupType txTypeDetailKey (tx.get "tx-type") = .ok detailKey
  movement_eq : extractMovement (tx.get "tx-type") (subDict tx (detailKey.getD "")) =
    .ok (counterparty, value, m.tokenTransfer)
  close_eq : extractClose (tx.get "tx-type") (subDict tx (detailKey.getD "")) tx = .ok m.close
  txType_eq : m.txType = tx.get "tx-type"
  blockNumber_eq : m.blockNumber = tx.get "confirmed-round"
  status_eq : m.status = if (tx.get "confirmed-round").truthy then "ok" else "pending"
  fromHash_eq : m.fromHash = tx.get "sender"
  toHash_eq : m.toHash = if counterparty.truthy then some counterparty else none
  value_eq : m.value = valueString value
  valueTotal_eq : m.valueTotal = (m.close.map (·.valueTotal)).getD (valueString value)
  fee_eq : m.fee = (tx.get "fee" (.int 0)).pyStr

/-- What the mapper reads is in the record; the confirmations are left to its caller. -/
theorem mapFields_spec {tx : Dict} {m : MappedTransaction} (h : mapFields tx = .ok m) :
    m.confirmations = none ∧
      ∃ detailKey counterparty value, FieldsOf tx m detailKey counterparty value := by
  unfold mapFields at h
  obtain ⟨detailKey, hkey, h⟩ := bind_eq_ok.mp h
  obtain ⟨⟨counterparty, value, transfer⟩, hmovement, h⟩ := bind_eq_ok.mp h
  simp only at h
  obtain ⟨close, hclose, h⟩ := bind_eq_ok.mp h
  obtain ⟨timestamp, -, h⟩ := bind_eq_ok.mp h
  obtain ⟨valueDecimal, -, h⟩ := bind_eq_ok.mp h
  obtain ⟨feeDecimal, -, h⟩ := bind_eq_ok.mp h
  obtain ⟨label, -, h⟩ := bind_eq_ok.mp h
  obtain ⟨signature, -, h⟩ := bind_eq_ok.mp h
  obtain rfl := Except.ok.inj h
  exact ⟨rfl, detailKey, counterparty, value, hkey, hmovement, hclose, rfl, rfl, rfl, rfl, rfl,
    rfl, rfl, rfl⟩

theorem fieldsOf_mapFields {tx : Dict} {m : MappedTransaction} (h : mapFields tx = .ok m) :
    ∃ detailKey counterparty value, FieldsOf tx m detailKey counterparty value :=
  (mapFields_spec h).2

/-- The inner records: `tx.get("inner-txns", []) or []`, about to be iterated over. -/
def innerTxns (tx : Dict) : Except PyError (List Json) :=
  ((tx.get "inner-txns" (.arr [])).or (.arr [])).asList

/-- An inner record is smaller than the record that holds it. -/
theorem sizeOf_lt_of_innerTxns {tx : Dict} {inner : List Json} (h : innerTxns tx = .ok inner)
    {i : Json} (hi : i ∈ inner) : sizeOf i < sizeOf (Json.obj tx) := by
  unfold innerTxns at h
  rw [Json.get_or_default] at h
  rcases Json.asList_or_eq_ok h with rfl | hget
  · exact absurd hi List.not_mem_nil
  · cases hlookup : tx.lookup "inner-txns" with
    | none =>
      rw [Dict.get_of_lookup_none hlookup] at hget
      cases hget
    | some x =>
      rw [Dict.get_of_lookup hlookup] at hget
      exact Json.sizeOf_lt_of_lookup (hget ▸ hlookup) hi

/-- `map_transaction`. -/
def mapTransaction (tx : Json) : Except PyError MappedTransaction :=
  match tx with
  | .obj members => do
    let mapped ← mapFields members
    -- The equation tells the termination proof where the inner records come from.
    match _hinner : innerTxns members with
    | .error e => .error e
    | .ok inner => do
      let internal ← inner.attach.mapM fun ⟨i, _⟩ => mapTransaction i
      return { mapped with
        internalTransactionsCount := inner.length
        internalTransactions := internal }
  | _ => .error .attributeError
termination_by sizeOf tx
decreasing_by exact sizeOf_lt_of_innerTxns ‹_› ‹_›

/-- The mapper on a dict. -/
theorem mapTransaction_obj (tx : Dict) : mapTransaction (.obj tx) = do
    let mapped ← mapFields tx
    let inner ← innerTxns tx
    let internal ← inner.mapM mapTransaction
    return { mapped with
      internalTransactionsCount := inner.length
      internalTransactions := internal } := by
  rw [mapTransaction]
  cases mapFields tx with
  | error e => rfl
  | ok mapped =>
    simp only [bind, Except.bind]
    split
    · next e h => rw [h]
    · next inner h =>
      rw [h, List.mapM_subtype fun i _ => rfl, List.unattach_attach]

/-- The mapper on a record without inner records. -/
theorem mapTransaction_leaf {tx : Dict} (hinner : innerTxns tx = .ok []) :
    mapTransaction (.obj tx) = do
      let mapped ← mapFields tx
      return { mapped with internalTransactionsCount := 0, internalTransactions := [] } := by
  rw [mapTransaction_obj, hinner]
  rfl

/-! ### Trees -/

/-- The inner records of a record; none where they cannot be read. -/
def innerRecords : Json → List Json
  | .obj tx => match innerTxns tx with
    | .ok inner => inner
    | .error _ => []
  | _ => []

theorem innerRecords_obj {tx : Dict} {inner : List Json} (h : innerTxns tx = .ok inner) :
    innerRecords (.obj tx) = inner := by
  unfold innerRecords
  simp only [h]

theorem sizeOf_lt_of_innerRecords {tx i : Json} (hi : i ∈ innerRecords tx) :
    sizeOf i < sizeOf tx := by
  cases tx with
  | obj members =>
    cases h : innerTxns members with
    | error e => simp [innerRecords, h] at hi
    | ok inner =>
      rw [innerRecords_obj h] at hi
      exact sizeOf_lt_of_innerTxns h hi
  | _ => simp [innerRecords] at hi

/-- The record and its inner records at every depth, in pre-order. -/
def records (tx : Json) : List Json :=
  tx :: (innerRecords tx).attach.flatMap fun ⟨i, _⟩ => records i
termination_by sizeOf tx
decreasing_by exact sizeOf_lt_of_innerRecords ‹_›

/-- An internal transaction is smaller than the one that holds it. -/
theorem MappedTransaction.sizeOf_lt {m i : MappedTransaction} (h : i ∈ m.internalTransactions) :
    sizeOf i < sizeOf m := by
  have hlt := List.sizeOf_lt_of_mem h
  cases m
  simp only [MappedTransaction.mk.sizeOf_spec] at hlt ⊢
  omega

/-- The transaction and its internal ones at every depth, in pre-order. -/
def MappedTransaction.all (m : MappedTransaction) : List MappedTransaction :=
  m :: m.internalTransactions.flatMap fun i => all i
termination_by sizeOf m
decreasing_by exact MappedTransaction.sizeOf_lt ‹_›

/-- Induction over a tree of records. -/
theorem tree_induction {P : Json → Prop} (h : ∀ tx, (∀ i ∈ innerRecords tx, P i) → P tx)
    (tx : Json) : P tx := by
  induction hn : sizeOf tx using Nat.strongRecOn generalizing tx with
  | _ n ih =>
    subst hn
    exact h tx fun i hi => ih (sizeOf i) (sizeOf_lt_of_innerRecords hi) i rfl

/-- The nodes of a tree: the root, then the trees below it. -/
theorem records_eq (tx : Json) : records tx = tx :: (innerRecords tx).flatMap records := by
  rw [records]
  congr 1
  show (innerRecords tx).attach.flatMap (fun i => records i.1) = _
  rw [List.flatMap_subtype fun i _ => rfl, List.unattach_attach]

/-- A record without inner records is its only node. -/
theorem records_leaf {tx : Dict} (hinner : innerTxns tx = .ok []) :
    records (.obj tx) = [.obj tx] := by
  rw [records_eq, innerRecords_obj hinner]
  rfl

theorem MappedTransaction.all_eq (m : MappedTransaction) :
    m.all = m :: m.internalTransactions.flatMap MappedTransaction.all := by
  rw [MappedTransaction.all]

/-- The output `m` is what the mapper makes of the record `tx`, its inner records aside. -/
def MappedFrom (tx : Json) (m : MappedTransaction) : Prop :=
  ∃ members mapped, tx = .obj members ∧ mapFields members = .ok mapped ∧
    m = { mapped with
      internalTransactionsCount := (innerRecords tx).length
      internalTransactions := m.internalTransactions }

theorem MappedFrom.fieldsOf {tx : Json} {m : MappedTransaction} (h : MappedFrom tx m) :
    ∃ members detailKey counterparty value,
      tx = .obj members ∧ FieldsOf members m detailKey counterparty value := by
  obtain ⟨members, mapped, htx, hmapped, hm⟩ := h
  obtain ⟨detailKey, counterparty, value, hfields⟩ := fieldsOf_mapFields hmapped
  refine ⟨members, detailKey, counterparty, value, htx, ?_⟩
  -- The inner transactions are none of the fields.
  rw [hm]
  exact ⟨hfields.detailKey_eq, hfields.movement_eq, hfields.close_eq, hfields.txType_eq,
    hfields.blockNumber_eq, hfields.status_eq, hfields.fromHash_eq, hfields.toHash_eq,
    hfields.value_eq, hfields.valueTotal_eq, hfields.fee_eq⟩

/-- The inner records of the record `tx` can be iterated over. -/
def InnerReadable (tx : Json) : Prop :=
  ∃ members inner, tx = .obj members ∧ innerTxns members = .ok inner

/-- **One level of the mapper.** -/
theorem mapTransaction_eq_ok_iff {tx : Json} {m : MappedTransaction} :
    mapTransaction tx = .ok m ↔
      MappedFrom tx m ∧ InnerReadable tx ∧
        (innerRecords tx).mapM mapTransaction = .ok m.internalTransactions := by
  constructor
  · intro h
    cases tx with
    | obj members =>
      rw [mapTransaction_obj, bind_eq_ok] at h
      obtain ⟨mapped, hmapped, h⟩ := h
      obtain ⟨inner, hinner, h⟩ := bind_eq_ok.mp h
      obtain ⟨internal, hinternal, h⟩ := bind_eq_ok.mp h
      have hrecords := innerRecords_obj hinner
      obtain rfl := Except.ok.inj h
      refine ⟨⟨members, mapped, rfl, hmapped, ?_⟩, ⟨members, inner, rfl, hinner⟩, ?_⟩
      · rw [hrecords]
      · rw [hrecords]
        exact hinternal
    | _ => simp [mapTransaction] at h
  · rintro ⟨⟨members, mapped, rfl, hmapped, hm⟩, ⟨members', inner, heq, hinner⟩, hinternal⟩
    obtain rfl := Json.obj.inj heq
    rw [innerRecords_obj hinner] at hm hinternal
    rw [mapTransaction_obj, hmapped]
    show (innerTxns members >>= _) = _
    rw [hinner]
    show (inner.mapM mapTransaction >>= _) = _
    rw [hinternal, hm]
    rfl

/-- **The mapper maps the tree node by node.** -/
theorem mapTransaction_nodes {tx : Json} {m : MappedTransaction} (h : mapTransaction tx = .ok m) :
    List.Forall₂ MappedFrom (records tx) m.all := by
  induction tx using tree_induction generalizing m with
  | h tx ih =>
    obtain ⟨hroot, -, hinner⟩ := mapTransaction_eq_ok_iff.mp h
    rw [records_eq, MappedTransaction.all_eq]
    -- Below the root, each inner tree is mapped to the inner tree in its place.
    refine .cons hroot ?_
    exact forall₂_flatMap (mapM_eq_ok_iff.mp hinner) fun i hi mi hmi => ih i hi hmi

/-- **The mapper succeeds when it does on every node.** -/
theorem exists_mapTransaction_eq_ok {tx : Json}
    (h : ∀ r ∈ records tx, InnerReadable r ∧
      ∃ members mapped, r = .obj members ∧ mapFields members = .ok mapped) :
    ∃ m, mapTransaction tx = .ok m := by
  induction tx using tree_induction with
  | h tx ih =>
    rw [records_eq] at h
    obtain ⟨hread, members, mapped, hobj, hmapped⟩ := h tx List.mem_cons_self
    -- The nodes below an inner record are nodes of the tree.
    have hinner : ∀ i ∈ innerRecords tx, ∃ mi, mapTransaction i = .ok mi := by
      intro i hi
      apply ih i hi
      intro r hr
      exact h r (List.mem_cons_of_mem _ (List.mem_flatMap.mpr ⟨i, hi, hr⟩))
    obtain ⟨internal, hinternal⟩ := exists_mapM_eq_ok hinner
    refine ⟨{ mapped with
      internalTransactionsCount := (innerRecords tx).length
      internalTransactions := internal }, ?_⟩
    exact mapTransaction_eq_ok_iff.mpr ⟨⟨members, mapped, hobj, hmapped, rfl⟩, hread, hinternal⟩

end Algorandscout
