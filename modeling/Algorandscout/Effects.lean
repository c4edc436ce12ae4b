import Algorandscout.Totals

namespace Algorandscout

open Library

/-!
# Ledger movements through `map_transaction`

What a transaction moves, read off the raw record, and what a client can read off the mapped
one.

* `effects` — fees and transfers of a raw tree, in pre-order;
* `WellFormed` — the records the indexer sends: a known type with its sub-object, amounts that
  are not negative, optional addresses absent when unset;
* `Shown` — the members of a mapped tree that tell its movements, besides a label on each node;
* `recover_shown` — with `tx_type` as the label, the list of movements is recovered;
* `movements_not_recoverable` — without a label it is not: a payment of nothing shows what an
  asset freeze shows.
-/

/-! ### Movements of a raw tree -/

/-- A ledger movement; `asset` is `none` for the native coin. -/
inductive Effect where
  | fee (sender : Json) (amount : Int)
  | transfer (asset : Option Json) (debited credited : Json) (amount : Int)

/-- What a payment moves besides the fee. -/
def paymentEffects (tx : Dict) : List Effect :=
  let d := typedDetail tx "payment-transaction"
  .transfer none (tx.get "sender") (d.get "receiver") (amountOf d "amount") ::
    if isSet d "close-remainder-to" then
      [.transfer none (tx.get "sender") (d.get "close-remainder-to") (sweptAmount tx d)]
    else []

/-- What an asset transfer moves besides the fee.  A clawback debits the sender that the
    sub-object names. -/
def assetTransferEffects (tx : Dict) : List Effect :=
  let d := typedDetail tx "asset-transfer-transaction"
  let asset := some (d.get "asset-id")
  let debited := if isSet d "sender" then d.get "sender" else tx.get "sender"
  .transfer asset debited (d.get "receiver") (amountOf d "amount") ::
    if isSet d "close-to" then
      [.transfer asset debited (d.get "close-to") (amountOf d "close-amount")]
    else []

/-- What one record moves, its inner records aside: the other known types move the fee only. -/
def recordEffects (tx : Dict) : List Effect :=
  .fee (tx.get "sender") (amountOf tx "fee") ::
    if (tx.get "tx-type").eqStr "pay" then paymentEffects tx
    else if (tx.get "tx-type").eqStr "axfer" then assetTransferEffects tx
    else []

/-- The same for a node of a tree. -/
def ownEffects : Json → List Effect
  | .obj tx => recordEffects tx
  | _ => []

/-- What a transaction moves, its inner transactions at every depth included, in pre-order. -/
def effects (tx : Json) : List Effect := (records tx).flatMap ownEffects

/-! ### Well-formed records -/

/-- An amount: absent, or an integer that is not negative. -/
def IsAmount (d : Dict) (key : String) : Prop :=
  ∀ x, d.lookup key = some x → ∃ n : ℕ, x = .int n

/-- An address that must be there. -/
def IsAddress (d : Dict) (key : String) : Prop :=
  ∃ s, d.lookup key = some (.str s) ∧ s ≠ ""

/-- An address that is absent when unset, so it is neither empty nor the all-zero address. -/
def IsOptionalAddress (d : Dict) (key : String) : Prop :=
  ∀ x, d.lookup key = some x → ∃ s, x = .str s ∧ s ≠ "" ∧ s ≠ zeroAddress

/-- The sub-object `d` of the payment `tx`. -/
structure WellFormedPayment (tx d : Dict) : Prop where
  receiver : IsAddress d "receiver"
  amount : IsAmount d "amount"
  closeRemainderTo : IsOptionalAddress d "close-remainder-to"
  closeAmount : IsAmount d "close-amount"
  closingAmount : IsAmount tx "closing-amount"

/-- The sub-object `d` of an asset transfer. -/
structure WellFormedAssetTransfer (d : Dict) : Prop where
  receiver : IsAddress d "receiver"
  amount : IsAmount d "amount"
  sender : IsOptionalAddress d "sender"
  closeTo : IsOptionalAddress d "close-to"
  closeAmount : IsAmount d "close-amount"

/-- A record of a known type with its sub-object. -/
structure WellFormedRecord (tx : Dict) : Prop where
  typed : ∃ t key d, tx.lookup "tx-type" = some (.str t) ∧ (t, key) ∈ txTypeDetailKey ∧
    tx.lookup key = some (.obj d)
  fee : IsAmount tx "fee"
  payment : tx.get "tx-type" = .str "pay" →
    WellFormedPayment tx (typedDetail tx "payment-transaction")
  assetTransfer : tx.get "tx-type" = .str "axfer" →
    WellFormedAssetTransfer (typedDetail tx "asset-transfer-transaction")

/-- Every record of the tree is well-formed. -/
def WellFormed (tx : Json) : Prop :=
  ∀ r ∈ records tx, ∃ members, r = .obj members ∧ WellFormedRecord members

theorem IsAmount.isInteger {d : Dict} {key : String} (h : IsAmount d key) : IsInteger d key := by
  intro x hx
  obtain ⟨n, hn⟩ := h x hx
  exact ⟨n, hn⟩

/-- Whether an optional address is set shows in the value that is read for it. -/
theorem get_of_isOptionalAddress {d : Dict} {key : String} (h : IsOptionalAddress d key) :
    clean (d.get key) = d.get key ∧ (d.get key).truthy = isSet d key ∧
      (d.get key).isNull = !isSet d key := by
  unfold Dict.get isSet clean
  cases hlookup : d.lookup key with
  | none => exact ⟨rfl, rfl, rfl⟩
  | some x =>
    obtain ⟨s, rfl, hne, hzero⟩ := h x hlookup
    refine ⟨?_, ?_, rfl⟩
    · simp [Json.isNull, Json.eqStr, hzero]
    · simp [hne]

/-! ### What a client is shown -/

/-- The members of a mapped tree that tell its movements, with a `label` on each node. -/
structure Shown (Label : Type) where
  label : Label
  /-- `from`. -/
  fromHash : Json
  /-- `to`. -/
  toHash : Option Json
  value : String
  fee : String
  tokenTransfer : Option TokenTransfer
  close : Option Close
  internalTransactions : List (Shown Label)

/-- What a mapped transaction shows. -/
def MappedTransaction.shown {Label : Type} (label : MappedTransaction → Label)
    (m : MappedTransaction) : Shown Label := {
  label := label m
  fromHash := m.fromHash
  toHash := m.toHash
  value := m.value
  fee := m.fee
  tokenTransfer := m.tokenTransfer
  close := m.close
  internalTransactions := m.internalTransactions.map fun i => shown label i }
termination_by sizeOf m
decreasing_by exact MappedTransaction.sizeOf_lt ‹_›

namespace Shown

/-- The movements of one node whose label is its `tx_type`. -/
def ownMovements (s : Shown Json) : List Effect :=
  .fee s.fromHash (parseAmount s.fee) ::
    if s.label.eqStr "pay" then
      .transfer none s.fromHash (s.toHash.getD .null) (parseAmount s.value) ::
        s.close.toList.map fun c =>
          .transfer none s.fromHash c.closeRemainderTo (parseAmount c.closeAmount)
    -- Of the other types only an asset transfer shows a transfer.
    else s.tokenTransfer.toList.flatMap fun t =>
      let debited := if t.fromAddress.isNull then s.fromHash else t.fromAddress
      .transfer (some t.assetId) debited t.toAddress (parseAmount t.amount) ::
        s.close.toList.map fun c =>
          .transfer (some t.assetId) debited c.closeRemainderTo (parseAmount c.closeAmount)

theorem sizeOf_lt {Label : Type} [SizeOf Label] {s i : Shown Label}
    (h : i ∈ s.internalTransactions) : sizeOf i < sizeOf s := by
  have hlt := List.sizeOf_lt_of_mem h
  cases s
  simp only [Shown.mk.sizeOf_spec] at hlt ⊢
  omega

/-- **The movements of a mapped tree**, from what it shows. -/
def recover (s : Shown Json) : List Effect :=
  s.ownMovements ++ s.internalTransactions.flatMap fun i => recover i
termination_by sizeOf s
decreasing_by exact sizeOf_lt ‹_›

end Shown

/-- The movements of a mapped tree are those of its nodes. -/
theorem recover_shown_eq (m : MappedTransaction) :
    (m.shown (·.txType)).recover = m.all.flatMap fun n => (n.shown (·.txType)).ownMovements := by
  induction m using MappedTransaction.all.induct with
  | case1 m ih =>
    have hinner : (m.shown (·.txType)).internalTransactions =
        m.internalTransactions.map (·.shown (·.txType)) := by
      rw [MappedTransaction.shown]
    rw [Shown.recover, hinner, MappedTransaction.all_eq, List.flatMap_cons, List.flatMap_map,
      List.flatMap_assoc]
    congr 1
    apply List.flatMap_congr
    intro i hi
    exact ih i hi

/-! ### One record -/

/-- The movements that a mapped record shows, in its own members. -/
theorem ownMovements_shown (m : MappedTransaction) :
    (m.shown (·.txType)).ownMovements =
      .fee m.fromHash (parseAmount m.fee) ::
        if m.txType.eqStr "pay" then
          .transfer none m.fromHash (m.toHash.getD .null) (parseAmount m.value) ::
            m.close.toList.map fun c =>
              .transfer none m.fromHash c.closeRemainderTo (parseAmount c.closeAmount)
        else m.tokenTransfer.toList.flatMap fun t =>
          let debited := if t.fromAddress.isNull then m.fromHash else t.fromAddress
          .transfer (some t.assetId) debited t.toAddress (parseAmount t.amount) ::
            m.close.toList.map fun c =>
              .transfer (some t.assetId) debited c.closeRemainderTo
                (parseAmount c.closeAmount) := by
  rw [MappedTransaction.shown]
  rfl

/-- A required address is read as a string that is true. -/
theorem get_of_isAddress {d : Dict} {key : String} (h : IsAddress d key) :
    (d.get key).truthy = true := by
  obtain ⟨s, hlookup, hne⟩ := h
  rw [Dict.get_of_lookup hlookup, Json.truthy_str]
  simpa using hne

section Record

variable {tx : Dict} {m : MappedTransaction} {detailKey : Option String} {counterparty value : Json}

/-- A payment shows both of its movements. -/
theorem FieldsOf.payment_movements (hfields : FieldsOf tx m detailKey counterparty value)
    (htype : tx.get "tx-type" = .str "pay")
    (hwf : WellFormedPayment tx (typedDetail tx "payment-transaction")) :
    (.transfer none m.fromHash (m.toHash.getD .null) (parseAmount m.value) ::
      m.close.toList.map fun c =>
        .transfer none m.fromHash c.closeRemainderTo (parseAmount c.closeAmount)) =
      paymentEffects tx := by
  obtain ⟨hto, hvalue, -, hclose⟩ := hfields.payment htype rfl hwf.amount.isInteger
    hwf.closeAmount.isInteger hwf.closingAmount.isInteger
  obtain ⟨hclean, htruthy, -⟩ := get_of_isOptionalAddress hwf.closeRemainderTo
  rw [hclean, htruthy] at hclose
  rw [hfields.fromHash_eq, hfields.toHash_eq, hto, get_of_isAddress hwf.receiver, hvalue, hclose]
  unfold paymentEffects
  cases hset : isSet (typedDetail tx "payment-transaction") "close-remainder-to" with
  | false => simp [hset]
  | true => simp [hset]

/-- An asset transfer shows both of its movements, and whom they debit. -/
theorem FieldsOf.assetTransfer_movements (hfields : FieldsOf tx m detailKey counterparty value)
    (htype : tx.get "tx-type" = .str "axfer")
    (hwf : WellFormedAssetTransfer (typedDetail tx "asset-transfer-transaction")) :
    (m.tokenTransfer.toList.flatMap fun t =>
      let debited := if t.fromAddress.isNull then m.fromHash else t.fromAddress
      .transfer (some t.assetId) debited t.toAddress (parseAmount t.amount) ::
        m.close.toList.map fun c =>
          .transfer (some t.assetId) debited c.closeRemainderTo (parseAmount c.closeAmount)) =
      assetTransferEffects tx := by
  obtain ⟨-, htransfer, hclose⟩ := hfields.assetTransfer htype rfl hwf.amount.isInteger
    hwf.closeAmount.isInteger
  obtain ⟨hclean, htruthy, -⟩ := get_of_isOptionalAddress hwf.closeTo
  obtain ⟨-, hsender, hsenderNull⟩ := get_of_isOptionalAddress hwf.sender
  rw [hclean, htruthy] at hclose
  rw [htransfer, hfields.fromHash_eq, hclose]
  unfold assetTransferEffects Json.or
  -- A clawback names the account it debits, any other transfer debits the sender.
  cases hset : isSet (typedDetail tx "asset-transfer-transaction") "sender" with
  | false =>
    cases hclosing : isSet (typedDetail tx "asset-transfer-transaction") "close-to" with
    | false => simp [hsender, hset, hclosing]
    | true => simp [hsender, hset, hclosing]
  | true =>
    cases hclosing : isSet (typedDetail tx "asset-transfer-transaction") "close-to" with
    | false => simp [hsender, hsenderNull, hset, hclosing]
    | true => simp [hsender, hsenderNull, hset, hclosing]

/-- **A mapped record shows what the record moves.** -/
theorem FieldsOf.ownMovements_eq (hfields : FieldsOf tx m detailKey counterparty value)
    (hwf : WellFormedRecord tx) :
    (m.shown (·.txType)).ownMovements = recordEffects tx := by
  have hfee : parseAmount m.fee = amountOf tx "fee" := by
    rw [hfields.fee_eq, get_of_isInteger hwf.fee.isInteger, Json.pyStr_int]
    exact parseAmount_repr _
  rw [ownMovements_shown, hfee, hfields.txType_eq]
  unfold recordEffects
  rw [← hfields.fromHash_eq]
  congr 1
  by_cases hpay : (tx.get "tx-type").eqStr "pay" = true
  · rw [if_pos hpay, if_pos hpay]
    have htype := Json.eqStr_iff.mp hpay
    exact hfields.payment_movements htype (hwf.payment htype)
  · rw [if_neg hpay, if_neg hpay]
    by_cases haxfer : (tx.get "tx-type").eqStr "axfer" = true
    · rw [if_pos haxfer]
      have htype := Json.eqStr_iff.mp haxfer
      exact hfields.assetTransfer_movements htype (hwf.assetTransfer htype)
    · rw [if_neg haxfer]
      obtain ⟨-, htransfer, -⟩ := hfields.other (mt Json.eqStr_iff.mpr hpay)
        (mt Json.eqStr_iff.mpr haxfer)
      rw [htransfer]
      rfl

/-- The numbers of a record are not too long for `str`, which writes the fee, the amounts and, of a
    close, the total with what is swept. -/
structure WritableRecord (tx : Dict) : Prop where
  fee : Text.Writable (amountOf tx "fee")
  amounts : ∀ key ∈ ["payment-transaction", "asset-transfer-transaction"],
    ∀ swept ∈ [amountOf (typedDetail tx key) "close-amount", amountOf tx "closing-amount"],
      Text.Writable (amountOf (typedDetail tx key) "amount") ∧ Text.Writable swept ∧
        Text.Writable (amountOf (typedDetail tx key) "amount" + swept)

/-- What the mapper needs besides, to give an answer at all: a time that a date can hold, a
    signature that can be searched, inner records that can be iterated over, numbers that `str`
    writes. -/
structure RenderableRecord (tx : Dict) : Prop where
  roundTime : tx.get "round-time" = .null ∨
    ∃ t, tx.get "round-time" = .int t ∧ minTimestamp ≤ t ∧ t ≤ maxTimestamp
  signature : tx.get "signature" = .null ∨ ∃ d, tx.get "signature" = .obj d
  innerTxns : tx.get "inner-txns" = .null ∨ ∃ items, tx.get "inner-txns" = .arr items
  numbers : WritableRecord tx

theorem WritableRecord.payment (h : WritableRecord tx) {d : Dict}
    (hd : typedDetail tx "payment-transaction" = d) :
    Text.Writable (amountOf d "amount") ∧ Text.Writable (sweptAmount tx d) ∧
      Text.Writable (amountOf d "amount" + sweptAmount tx d) := by
  subst hd
  apply h.amounts _ (by decide)
  unfold sweptAmount
  split_ifs
  · exact List.mem_cons_self
  · exact List.mem_cons_of_mem _ List.mem_cons_self

theorem WritableRecord.assetTransfer (h : WritableRecord tx) {d : Dict}
    (hd : typedDetail tx "asset-transfer-transaction" = d) :
    Text.Writable (amountOf d "amount" + amountOf d "close-amount") := by
  subst hd
  exact (h.amounts _ (by decide) _ List.mem_cons_self).2.2

theorem RenderableRecord.exists_iso (h : RenderableRecord tx) :
    ∃ timestamp, iso (tx.get "round-time") = .ok timestamp := by
  rcases h.roundTime with hnull | ⟨t, ht, hmin, hmax⟩
  · exact ⟨none, by rw [hnull]; rfl⟩
  · refine ⟨some (isoformat t), ?_⟩
    unfold minTimestamp at hmin
    unfold maxTimestamp at hmax
    have hmachine : ¬(t < -2 ^ 63 ∨ 2 ^ 63 ≤ t) := by omega
    have hyears : ¬(t < minTimestamp ∨ maxTimestamp < t) := by
      unfold minTimestamp maxTimestamp
      omega
    rw [ht]
    unfold iso
    simp only [Json.isNull_int, Bool.false_eq_true, ↓reduceIte, Json.asInt_int, ok_bind,
      hmachine, hyears]
    rfl

theorem RenderableRecord.exists_subDict (h : RenderableRecord tx) :
    ∃ d, subDict tx "signature" = .obj d := by
  unfold subDict
  rw [Json.get_or_default]
  rcases h.signature with hnull | ⟨d, hobj⟩
  · rw [hnull]
    exact ⟨[], rfl⟩
  · rw [hobj]
    cases d with
    | nil => exact ⟨[], rfl⟩
    | cons entry d => exact ⟨entry :: d, rfl⟩

theorem RenderableRecord.exists_innerTxns (h : RenderableRecord tx) :
    ∃ inner, Algorandscout.innerTxns tx = .ok inner := by
  unfold Algorandscout.innerTxns
  rw [Json.get_or_default]
  rcases h.innerTxns with hnull | ⟨items, harr⟩
  · rw [hnull]
    exact ⟨[], rfl⟩
  · rw [harr]
    cases items with
    | nil => exact ⟨[], rfl⟩
    | cons item items => exact ⟨item :: items, rfl⟩

/-- The helpers answer on a dict. -/
theorem exists_extractMovement (txType : Json) (d : Dict) :
    ∃ r, extractMovement txType (.obj d) = .ok r := by
  unfold extractMovement
  split_ifs
  all_goals exact ⟨_, rfl⟩

theorem exists_signatureType (signature : Dict) :
    ∃ r, signatureType (.obj signature) = .ok r := by
  unfold signatureType
  simp only [Json.pyIn, ok_bind]
  split_ifs
  all_goals exact ⟨_, rfl⟩

theorem exists_extractClose {d : Dict} {txType : Json}
    (hpay : txType = .str "pay" → WellFormedPayment tx d ∧ Text.Writable (sweptAmount tx d) ∧
      Text.Writable (amountOf d "amount" + sweptAmount tx d))
    (haxfer : txType = .str "axfer" → WellFormedAssetTransfer d ∧
      Text.Writable (amountOf d "amount" + amountOf d "close-amount")) :
    ∃ close, extractClose txType (.obj d) tx = .ok close := by
  by_cases htypePay : txType = .str "pay"
  · obtain ⟨hwf, hwritable⟩ := hpay htypePay
    rw [htypePay, extractClose_pay (or_of_isInteger hwf.amount.isInteger)
      (or_closeAmount hwf.closeAmount.isInteger hwf.closingAmount.isInteger), if_pos hwritable]
    split_ifs
    · exact ⟨_, rfl⟩
    · exact ⟨_, rfl⟩
  · by_cases htypeAxfer : txType = .str "axfer"
    · obtain ⟨hwf, hwritable⟩ := haxfer htypeAxfer
      rw [htypeAxfer, extractClose_axfer (or_of_isInteger hwf.amount.isInteger)
        (or_of_isInteger hwf.closeAmount.isInteger), if_pos hwritable]
      split_ifs
      · exact ⟨_, rfl⟩
      · exact ⟨_, rfl⟩
    · have hpayFalse := Bool.eq_false_iff.mpr (mt Json.eqStr_iff.mp htypePay)
      have haxferFalse := Bool.eq_false_iff.mpr (mt Json.eqStr_iff.mp htypeAxfer)
      exact ⟨_, extractClose_other _ tx hpayFalse haxferFalse⟩

/-- The value of a payment is an integer, which has a decimal form. -/
theorem exists_nativeDecimal {txType : Json} {d : Dict} {r : Json × Json × Option TokenTransfer}
    (hamount : txType = .str "pay" →
      IsInteger d "amount" ∧ Text.Writable (amountOf d "amount"))
    (hmovement : extractMovement txType (.obj d) = .ok r) :
    ∃ decimal, nativeDecimal txType r.2.1 = .ok decimal := by
  unfold nativeDecimal
  by_cases hpay : txType = .str "pay"
  · subst hpay
    obtain ⟨read, hread, rfl⟩ := extractMovement_pay hmovement
    obtain rfl := Json.obj.inj hread
    show ∃ decimal, (if _ && !(d.get "amount" (.int 0)).isNull then
      decimalString (d.get "amount" (.int 0)) (.int algoDecimals) else _) = .ok decimal
    obtain ⟨hinteger, hwritable⟩ := hamount rfl
    rw [get_of_isInteger hinteger, decimalString_algo, if_pos hwritable]
    exact ⟨_, rfl⟩
  · have hpayFalse := Bool.eq_false_iff.mpr (mt Json.eqStr_iff.mp hpay)
    simp [hpayFalse]

/-- The mapper answers on a well-formed record that it can render. -/
theorem exists_mapFields (hwf : WellFormedRecord tx) (hrender : RenderableRecord tx) :
    ∃ m, mapFields tx = .ok m := by
  obtain ⟨t, key, d, hlookup, hkey, hdetail⟩ := hwf.typed
  have htype : tx.get "tx-type" = .str t := Dict.get_of_lookup hlookup _
  -- The mapper looks for the sub-object under the one key of the type, where it is.
  have hkeyOf := lookup_txTypeDetailKey hkey
  have hsub := subDict_of_lookup hdetail
  have htyped := typedDetail_of_subDict hsub
  obtain ⟨⟨counterparty, value, transfer⟩, hmovement⟩ := exists_extractMovement (.str t) d
  have hpayment : Json.str t = .str "pay" → WellFormedPayment tx d ∧
      typedDetail tx "payment-transaction" = d := by
    intro hpay
    obtain rfl : t = "pay" := Json.str.inj hpay
    obtain rfl : "payment-transaction" = key := Option.some.inj hkeyOf
    exact ⟨htyped ▸ hwf.payment htype, htyped⟩
  have hclose : ∃ close, extractClose (.str t) (.obj d) tx = .ok close := by
    apply exists_extractClose
    · intro hpay
      obtain ⟨hwfPayment, htypedPayment⟩ := hpayment hpay
      exact ⟨hwfPayment, (hrender.numbers.payment htypedPayment).2⟩
    · intro haxfer
      obtain rfl : t = "axfer" := Json.str.inj haxfer
      obtain rfl : "asset-transfer-transaction" = key := Option.some.inj hkeyOf
      exact ⟨htyped ▸ hwf.assetTransfer htype, hrender.numbers.assetTransfer htyped⟩
  obtain ⟨close, hclose⟩ := hclose
  have hdecimal : ∃ decimal, nativeDecimal (.str t) value = .ok decimal := by
    apply exists_nativeDecimal _ hmovement
    intro hpay
    obtain ⟨hwfPayment, htypedPayment⟩ := hpayment hpay
    exact ⟨hwfPayment.amount.isInteger, (hrender.numbers.payment htypedPayment).1⟩
  obtain ⟨decimal, hdecimal⟩ := hdecimal
  obtain ⟨timestamp, hiso⟩ := hrender.exists_iso
  obtain ⟨signature, hsignature⟩ := hrender.exists_subDict
  obtain ⟨kind, hkind⟩ := exists_signatureType signature
  unfold mapFields
  simp only [htype, lookupType_str, hkeyOf, ok_bind, Option.getD_some, hsub, hmovement, hclose,
    hiso, hdecimal, get_of_isInteger hwf.fee.isInteger, decimalString_algo,
    if_pos hrender.numbers.fee, hsignature, hkind]
  exact ⟨_, rfl⟩

end Record

/-! ### The whole tree -/

/-- Every record of the tree can be rendered. -/
def Renderable (tx : Json) : Prop :=
  ∀ r ∈ records tx, ∃ members, r = .obj members ∧ RenderableRecord members

/-- **The movements of a transaction are recovered from what its mapped form shows**, `tx_type`
    on each node included; and a transaction that can be rendered has a mapped form. -/
theorem recover_shown (tx : Json) (hwf : WellFormed tx) :
    (∀ m, mapTransaction tx = .ok m → (m.shown (·.txType)).recover = effects tx) ∧
      (Renderable tx → ∃ m, mapTransaction tx = .ok m) := by
  constructor
  · intro m hm
    rw [recover_shown_eq]
    unfold effects
    -- The two trees correspond node by node, so one node is all there is to compare.
    refine (flatMap_eq_of_forall₂ (mapTransaction_nodes hm) ?_).symm
    intro r hr n hn
    obtain ⟨members, detailKey, counterparty, value, rfl, hfields⟩ := hn.fieldsOf
    obtain ⟨members', heq, hrecord⟩ := hwf _ hr
    obtain rfl := Json.obj.inj heq
    exact (hfields.ownMovements_eq hrecord).symm
  · intro hrender
    apply exists_mapTransaction_eq_ok
    intro r hr
    obtain ⟨members, rfl, hrecord⟩ := hwf r hr
    obtain ⟨members', heq, hrenderRecord⟩ := hrender _ hr
    obtain rfl := Json.obj.inj heq
    obtain ⟨inner, hinner⟩ := hrenderRecord.exists_innerTxns
    obtain ⟨m, hm⟩ := exists_mapFields hrecord hrenderRecord
    exact ⟨⟨members, inner, rfl, hinner⟩, members, m, rfl, hm⟩

/-- An absent member is an amount. -/
theorem IsAmount.of_absent {d : Dict} {key : String} (h : d.lookup key = none) :
    IsAmount d key := Dict.forall_of_lookup_none h

theorem IsAmount.of_lookup {d : Dict} {key : String} {n : ℕ} (h : d.lookup key = some (.int n)) :
    IsAmount d key := Dict.forall_of_lookup h ⟨n, rfl⟩

theorem IsOptionalAddress.of_lookup {d : Dict} {key s : String}
    (h : d.lookup key = some (.str s)) (hne : s ≠ "") (hzero : s ≠ zeroAddress) :
    IsOptionalAddress d key := Dict.forall_of_lookup h ⟨s, rfl, hne, hzero⟩

theorem IsOptionalAddress.of_absent {d : Dict} {key : String} (h : d.lookup key = none) :
    IsOptionalAddress d key := Dict.forall_of_lookup_none h

/-- A record is well-formed once its sub-object is, for the two types that move value. -/
theorem WellFormedRecord.of_typed {tx : Dict} (t key : String) {d : Dict}
    (htype : tx.lookup "tx-type" = some (.str t)) (hkey : (t, key) ∈ txTypeDetailKey)
    (hdetail : tx.lookup key = some (.obj d)) (hfee : IsAmount tx "fee")
    (hpayment : t = "pay" → WellFormedPayment tx (typedDetail tx "payment-transaction"))
    (hassetTransfer : t = "axfer" →
      WellFormedAssetTransfer (typedDetail tx "asset-transfer-transaction")) :
    WellFormedRecord tx := by
  have hget : tx.get "tx-type" = .str t := Dict.get_of_lookup htype _
  refine ⟨⟨t, key, d, htype, hkey, hdetail⟩, hfee, ?_, ?_⟩
  · intro hpay
    exact hpayment (Json.str.inj (hget.symm.trans hpay))
  · intro haxfer
    exact hassetTransfer (Json.str.inj (hget.symm.trans haxfer))

/-- A tree of one record is well-formed when the record is. -/
theorem WellFormed.of_leaf {tx : Dict} (hinner : innerTxns tx = .ok [])
    (h : WellFormedRecord tx) : WellFormed (.obj tx) := by
  intro r hr
  rw [records_leaf hinner, List.mem_singleton] at hr
  exact ⟨tx, hr, h⟩

/-- The call and the payment inside it show the fees and both movements of the close. -/
theorem callThatCloses_recovered : ∃ m, mapTransaction (.obj callThatCloses) = .ok m ∧
    (m.shown (·.txType)).recover = [
      .fee (.str "A") 2000,
      .fee (.str "S") 1000,
      .transfer none (.str "S") (.str "R") 100,
      .transfer none (.str "S") (.str "CLOSER") 42] := by
  have hpayment : WellFormedPayment closingPayment
      (typedDetail closingPayment "payment-transaction") := {
    receiver := ⟨"R", rfl, by decide⟩
    amount := IsAmount.of_lookup (n := 100) rfl
    closeRemainderTo := IsOptionalAddress.of_lookup (s := "CLOSER") rfl (by decide) (by decide)
    closeAmount := IsAmount.of_absent rfl
    closingAmount := IsAmount.of_lookup (n := 42) rfl }
  have hclosing : WellFormedRecord closingPayment :=
    .of_typed "pay" "payment-transaction" rfl (by decide) rfl
      (IsAmount.of_lookup (n := 1000) rfl) (fun _ => hpayment) (fun h => absurd h (by decide))
  have hcall : WellFormedRecord callThatCloses :=
    .of_typed "appl" "application-transaction" rfl (by decide) rfl
      (IsAmount.of_lookup (n := 2000) rfl) (fun h => absurd h (by decide))
      (fun h => absurd h (by decide))
  have hwf : WellFormed (.obj callThatCloses) := by
    unfold WellFormed
    rw [records_callThatCloses]
    simp [hcall, hclosing]
  have hrender : Renderable (.obj callThatCloses) := by
    unfold Renderable
    rw [records_callThatCloses]
    have hcallRender : RenderableRecord callThatCloses :=
      ⟨.inl rfl, .inl rfl, .inr ⟨_, rfl⟩, by decide, by decide⟩
    have hclosingRender : RenderableRecord closingPayment :=
      ⟨.inl rfl, .inl rfl, .inl rfl, by decide, by decide⟩
    simp [hcallRender, hclosingRender]
  obtain ⟨m, hm⟩ := (recover_shown _ hwf).2 hrender
  refine ⟨m, hm, ?_⟩
  rw [(recover_shown _ hwf).1 m hm]
  unfold effects
  rw [records_callThatCloses]
  rfl

/-! ### Without the type -/

/-- A payment of nothing to `R`. -/
def paymentOfNothing : Dict :=
  [("tx-type", .str "pay"), ("sender", .str "S"), ("fee", .int 1000),
    ("payment-transaction", .obj [("receiver", .str "R"), ("amount", .int 0)])]

/-- A freeze of what `R` holds of an asset. -/
def freezeOfHolding : Dict :=
  [("tx-type", .str "afrz"), ("sender", .str "S"), ("fee", .int 1000),
    ("asset-freeze-transaction", .obj
      [("address", .str "R"), ("asset-id", .int 31566704), ("new-freeze-status", .bool true)])]

theorem shown_paymentOfNothing_eq : ∃ m m',
    mapTransaction (.obj paymentOfNothing) = .ok m ∧
      mapTransaction (.obj freezeOfHolding) = .ok m' ∧
      m.shown (fun _ => ()) = m'.shown (fun _ => ()) := by
  refine ⟨_, _, mapTransaction_leaf rfl, mapTransaction_leaf rfl, ?_⟩
  rw [MappedTransaction.shown, MappedTransaction.shown]
  rfl

/-- **Without `tx_type` the movements cannot be recovered**: the two records show the same, and
    only one of them moves anything but the fee. -/
theorem movements_not_recoverable : ¬ ∃ recover : Shown Unit → List Effect,
    ∀ tx m, WellFormed tx → mapTransaction tx = .ok m →
      recover (m.shown fun _ => ()) = effects tx := by
  intro ⟨recover, hrecover⟩
  have hpaymentLeaf : innerTxns paymentOfNothing = .ok [] := rfl
  have hfreezeLeaf : innerTxns freezeOfHolding = .ok [] := rfl
  have hpayment : WellFormedRecord paymentOfNothing :=
    .of_typed "pay" "payment-transaction" rfl (by decide) rfl
      (IsAmount.of_lookup (n := 1000) rfl)
      (fun _ => {
        receiver := ⟨"R", rfl, by decide⟩
        amount := IsAmount.of_lookup (n := 0) rfl
        closeRemainderTo := IsOptionalAddress.of_absent rfl
        closeAmount := IsAmount.of_absent rfl
        closingAmount := IsAmount.of_absent rfl })
      (fun h => absurd h (by decide))
  have hfreeze : WellFormedRecord freezeOfHolding :=
    .of_typed "afrz" "asset-freeze-transaction" rfl (by decide) rfl
      (IsAmount.of_lookup (n := 1000) rfl) (fun h => absurd h (by decide))
      (fun h => absurd h (by decide))
  obtain ⟨m, m', hm, hm', hshown⟩ := shown_paymentOfNothing_eq
  have heffects : effects (.obj paymentOfNothing) = effects (.obj freezeOfHolding) := by
    rw [← hrecover _ m (.of_leaf hpaymentLeaf hpayment) hm,
      ← hrecover _ m' (.of_leaf hfreezeLeaf hfreeze) hm', hshown]
  unfold effects at heffects
  rw [records_leaf hpaymentLeaf, records_leaf hfreezeLeaf] at heffects
  -- Two movements against one.
  exact absurd (congrArg List.length heffects) (by decide)

end Algorandscout
