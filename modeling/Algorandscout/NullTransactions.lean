import Algorandscout.NullRecords

namespace Algorandscout

open Library

/-!
# Null numbers of transactions

When a null number of a transaction is as good as an absent one, and the same for all five mappers.

* `RecordTexts`, `mapFields_strings` — when no `None` is in the response to a record;
* `mapTransaction_nulls` — transactions;
* `null_is_absent_iff` — all five mappers;
* `null_balance_is_none` — a null that is not as good as an absent number.
-/

/-! ### Texts -/

/-- The members of a record that are copied. -/
def txCopied : List String :=
  ["id", "confirmed-round", "round-time", "sender", "tx-type", "intra-round-offset", "note",
    "group", "rekey-to", "first-valid", "last-valid", "created-asset-index",
    "created-application-index", "logs"]

/-- **The records in the response to which there is no `None`**: the numbers that are rendered as
    they stand are not null, and no text that is copied is `None`. -/
structure RecordTexts (tx : Dict) : Prop where
  fee : ¬NullAt tx "fee"
  transfer : tx.get "tx-type" = .str "axfer" →
    ¬NullAt (typedDetail tx "asset-transfer-transaction") "amount"
  copied : ∀ key ∈ txCopied, (tx.get key).NoNone
  detail : ∀ key, lookupType txTypeDetailKey (tx.get "tx-type") = .ok (some key) →
    (subDict tx key).NoNone

section

variable {tx : Dict} {key : Option String} {x : Json}

/-- What is rendered of the value of a record. -/
theorem valueString_ne_none {value : Json} (h : value.Numeric) : "None" ≠ valueString value := by
  rcases h with rfl | ⟨n, -, rfl⟩
  · decide
  · exact (toString_ne_none n).symm

theorem iso_ne_none {s : Option String} (h : iso x = .ok s) : s ≠ some "None" := by
  unfold iso at h
  split_ifs at h
  · obtain rfl := Except.ok.inj h
    exact fun h => nomatch h
  · obtain ⟨t, -, h⟩ := bind_eq_ok.mp h
    split_ifs at h
    · cases h
    · cases h
    · cases h
    · obtain rfl := Except.ok.inj h
      exact fun h => isoformat_ne_none t (Option.some.inj h)

theorem signatureType_ne_none {s : Option String} (h : signatureType x = .ok s) :
    s ≠ some "None" := by
  unfold signatureType at h
  obtain ⟨sig, -, h⟩ := bind_eq_ok.mp h
  split_ifs at h
  · obtain rfl := Except.ok.inj h
    decide
  · obtain ⟨multisig, -, h⟩ := bind_eq_ok.mp h
    split_ifs at h
    · obtain rfl := Except.ok.inj h
      decide
    · obtain ⟨logicsig, -, h⟩ := bind_eq_ok.mp h
      split_ifs at h
      · obtain rfl := Except.ok.inj h
        decide
      · obtain rfl := Except.ok.inj h
        decide

/-- No label is the text; without a label the type is shown. -/
theorem method_noNone {label : Option String} (h : lookupType txTypeLabel x = .ok label)
    (hx : x.NoNone) : ((label.map Json.str).getD x).NoNone := by
  cases label with
  | none => exact hx
  | some label =>
    obtain ⟨t, -, hmem⟩ := mem_of_lookupType_eq h
    have hrow : ∀ entry ∈ txTypeLabel, entry.2 ≠ "None" := by decide
    exact noNone_str.mpr (hrow _ hmem)

/-- A target or a counterparty, when there is no text in what it is read of. -/
theorem pyStr_noNone {x : Json} (htruthy : x.truthy = true) (h : x.NoNone) : "None" ≠ x.pyStr := by
  intro heq
  rcases pyStr_eq_none_iff.mp heq.symm with rfl | rfl
  · cases htruthy
  · exact noNone_str.mp h rfl

/-- The texts of an asset transfer. -/
theorem transfer_texts {d : Dict} (hamount : IsNumber d "amount") (hd : (Json.obj d).NoNone) :
    "None" ∉ TokenTransfer.strings {
      assetId := d.get "asset-id"
      fromAddress := (d.get "sender").or .null
      toAddress := d.get "receiver"
      amount := (d.get "amount" (.int 0)).pyStr
      closeTo := clean (d.get "close-to")
      isClawback := (d.get "sender").truthy } ↔ ¬NullAt d "amount" := by
  unfold TokenTransfer.strings
  rw [none_notMem_textsOf, List.mem_singleton, ← ne_eq, ne_comm, hamount.pyStr_ne_none_iff]
  apply and_iff_left
  simp only [List.forall_mem_cons, List.not_mem_nil, false_implies, implies_true, and_true,
    noNone_clean, noNone_or noNone_null]
  exact ⟨noNone_get hd _, noNone_get hd _, noNone_get hd _, noNone_get hd _⟩

/-- The counterparty is read of the sub-object. -/
theorem counterparty_noNone {txType : Json} {d : Dict} {r : Json × Json × Option TokenTransfer}
    (hr : extractMovement txType (.obj d) = .ok r) (hd : (Json.obj d).NoNone) : r.1.NoNone := by
  have hid : ∀ key, (d.get key).truthy = true → (Json.str (d.get key).pyStr).NoNone :=
    fun key htruthy => noNone_str.mpr (pyStr_noNone htruthy (noNone_get hd key)).symm
  unfold extractMovement at hr
  simp only [Json.asDict_obj, ok_bind] at hr
  split_ifs at hr with hpay haxfer happl happId hacfg hassetId hafrz
  · obtain rfl := Except.ok.inj hr
    exact noNone_get hd _
  · obtain rfl := Except.ok.inj hr
    exact noNone_get hd _
  · obtain rfl := Except.ok.inj hr
    exact hid _ happId
  · obtain rfl := Except.ok.inj hr
    exact noNone_null
  · obtain rfl := Except.ok.inj hr
    exact hid _ hassetId
  · obtain rfl := Except.ok.inj hr
    exact noNone_null
  · obtain rfl := Except.ok.inj hr
    exact noNone_get hd _
  · obtain rfl := Except.ok.inj hr
    exact noNone_null

/-- **The texts of what moves**, when there is none in the sub-object; the value is a number. -/
theorem extractMovement_texts (h : NumberRecord tx) {r : Json × Json × Option TokenTransfer}
    (hkey : lookupType txTypeDetailKey (tx.get "tx-type") = .ok key)
    (hr : extractMovement (tx.get "tx-type") (subDict tx (key.getD "")) = .ok r) :
    r.2.1.Numeric ∧
      ((∀ k, key = some k → (subDict tx k).NoNone) → r.1.NoNone ∧
        ("None" ∉ r.2.2.toList.flatMap TokenTransfer.strings ↔
          (tx.get "tx-type" = .str "axfer" →
            ¬NullAt (typedDetail tx "asset-transfer-transaction") "amount"))) := by
  have hto : (∀ k, key = some k → (subDict tx k).NoNone) → r.1.NoNone := by
    intro hdetail
    cases key with
    | none =>
      rw [extractMovement_unknown hkey] at hr
      obtain rfl := Except.ok.inj hr
      exact noNone_null
    | some k =>
      obtain ⟨-, d, hd⟩ := h.exists_subDict hkey
      have hd' := hdetail k rfl
      rw [hd] at hd'
      rw [Option.getD_some, hd] at hr
      exact counterparty_noNone hr hd'
  rcases lookupType_cases hkey with ⟨htype, rfl⟩ | ⟨htype, rfl⟩ | ⟨hpay, haxfer, -⟩
  · obtain ⟨d, hd, hamount, -⟩ := h.exists_amounts "payment-transaction" (by decide)
    rw [htype, Option.getD_some, hd, extractMovement_pay_obj] at hr
    obtain rfl := Except.ok.inj hr
    refine ⟨hamount.numeric_get, fun hdetail => ⟨hto hdetail, iff_of_true List.not_mem_nil ?_⟩⟩
    rw [htype]
    exact fun h => absurd h (by simp)
  · obtain ⟨d, hd, hamount, -⟩ := h.exists_amounts "asset-transfer-transaction" (by decide)
    rw [typedDetail_of_subDict hd]
    rw [htype, Option.getD_some, hd, extractMovement_axfer_obj] at hr
    obtain rfl := Except.ok.inj hr
    refine ⟨.inr ⟨0, by decide, rfl⟩, fun hdetail => ⟨hto hdetail, ?_⟩⟩
    have hd' := hdetail _ rfl
    rw [hd] at hd'
    rw [Option.toList_some, List.flatMap_singleton, transfer_texts hamount hd', htype]
    simp
  · have hnone := extractMovement_other hpay haxfer hr
    rw [hnone]
    refine ⟨.inr ⟨0, by decide, rfl⟩, fun hdetail => ⟨hto hdetail, iff_of_true List.not_mem_nil ?_⟩⟩
    intro htype
    rw [htype] at haxfer
    exact absurd haxfer (by decide)

/-- The texts of a close. -/
theorem paymentClose_texts {target : Json} (h : target.NoNone) (amount closeAmount : Int) :
    "None" ∉ (paymentClose target amount closeAmount).strings := by
  unfold Close.strings paymentClose
  rw [none_notMem_textsOf]
  refine ⟨?_, ?_⟩
  · simp only [List.mem_append, List.mem_cons, List.not_mem_nil, or_false, Option.toList_some,
      not_or]
    exact ⟨⟨⟨(toString_ne_none _).symm, (toString_ne_none _).symm⟩,
      (renderDecimal_ne_none _ _).symm⟩, (renderDecimal_ne_none _ _).symm⟩
  · simp [h]

theorem transferClose_texts {target assetId : Json} (h : target.NoNone) (hasset : assetId.NoNone)
    (amount closeAmount : Int) :
    "None" ∉ (transferClose target assetId amount closeAmount).strings := by
  unfold Close.strings transferClose
  rw [none_notMem_textsOf]
  refine ⟨?_, ?_⟩
  · simp only [List.mem_append, List.mem_cons, List.not_mem_nil, or_false, Option.toList_none,
      not_or]
    exact ⟨(toString_ne_none _).symm, (toString_ne_none _).symm⟩
  · simp [h, hasset]

/-- **There is a close of every record or none**, without the text in it. -/
theorem exists_extractClose_texts (h : NumberRecord tx)
    (hkey : lookupType txTypeDetailKey (tx.get "tx-type") = .ok key) :
    ∃ close, extractClose (tx.get "tx-type") (subDict tx (key.getD "")) tx = .ok close ∧
      ((∀ k, key = some k → (subDict tx k).NoNone) →
        "None" ∉ close.toList.flatMap Close.strings) := by
  rcases lookupType_cases hkey with ⟨htype, rfl⟩ | ⟨htype, rfl⟩ | ⟨hpay, haxfer, -⟩
  · obtain ⟨d, hd, hamount, hclose⟩ := h.exists_amounts "payment-transaction" (by decide)
    obtain ⟨-, hwritable⟩ := h.renderable.numbers.payment (typedDetail_of_subDict hd)
    rw [htype, Option.getD_some, hd,
      extractClose_pay hamount.get_or (get_or_closeAmount hclose h.closingAmount),
      if_pos hwritable, ← apply_ite Except.ok]
    refine ⟨_, rfl, fun hdetail => ?_⟩
    have hd' := hdetail _ rfl
    rw [hd] at hd'
    split_ifs
    · rw [Option.toList_some, List.flatMap_singleton]
      exact paymentClose_texts ((noNone_clean _).mpr (noNone_get hd' _)) _ _
    · exact List.not_mem_nil
  · obtain ⟨d, hd, hamount, hclose⟩ := h.exists_amounts "asset-transfer-transaction" (by decide)
    have hwritable := h.renderable.numbers.assetTransfer (typedDetail_of_subDict hd)
    rw [htype, Option.getD_some, hd, extractClose_axfer hamount.get_or hclose.get_or,
      if_pos hwritable, ← apply_ite Except.ok]
    refine ⟨_, rfl, fun hdetail => ?_⟩
    have hd' := hdetail _ rfl
    rw [hd] at hd'
    split_ifs
    · rw [Option.toList_some, List.flatMap_singleton]
      exact transferClose_texts ((noNone_clean _).mpr (noNone_get hd' _)) (noNone_get hd' _) _ _
    · exact List.not_mem_nil
  · exact ⟨none, extractClose_other _ _ hpay haxfer, fun _ => List.not_mem_nil⟩

theorem NumberRecord.exists_lookupType (h : NumberRecord tx) (table : List (String × String)) :
    ∃ value, lookupType table (tx.get "tx-type") = .ok value := by
  rcases h.txType with hnull | ⟨t, ht⟩
  · rw [hnull]
    exact ⟨_, rfl⟩
  · rw [ht, lookupType_str]
    exact ⟨_, rfl⟩

theorem NumberRecord.exists_extractMovement (h : NumberRecord tx)
    (hkey : lookupType txTypeDetailKey (tx.get "tx-type") = .ok key) :
    ∃ r, extractMovement (tx.get "tx-type") (subDict tx (key.getD "")) = .ok r := by
  cases key with
  | none => exact ⟨_, extractMovement_unknown hkey _⟩
  | some k =>
    obtain ⟨-, d, hd⟩ := h.exists_subDict hkey
    rw [Option.getD_some, hd]
    exact Algorandscout.exists_extractMovement _ d

/-- `value_decimal` of a number. -/
theorem exists_nativeDecimal_number (txType : Json) {value : Json} (h : value.Numeric) :
    ∃ s, nativeDecimal txType value = .ok s ∧ s ≠ some "None" := by
  unfold nativeDecimal
  split_ifs
  · exact exists_decimalString h algoDecimals
  · exact ⟨none, rfl, fun h => nomatch h⟩

/-- The total of a close is among its texts. -/
theorem valueTotal_ne_none {close : Option Close} {value : Json}
    (hclose : "None" ∉ close.toList.flatMap Close.strings) (hvalue : "None" ≠ valueString value) :
    "None" ≠ (close.map (·.valueTotal)).getD (valueString value) := by
  cases close with
  | none => exact hvalue
  | some c =>
    rw [Option.toList_some, List.flatMap_singleton, Close.strings, none_notMem_textsOf] at hclose
    intro heq
    apply hclose.1
    show "None" ∈ [c.closeAmount, c.valueTotal] ++ _ ++ _
    simp [show "None" = c.valueTotal from heq]

/-- The raw sub-object, when it is shown. -/
theorem raw_noNone_iff (hkey : lookupType txTypeDetailKey (tx.get "tx-type") = .ok key) :
    (∀ x ∈ ((if key.getD "" ≠ "" && (subDict tx (key.getD "")).truthy then
        some (key.getD "", subDict tx (key.getD "")) else none).map (·.2)).toList, x.NoNone) ↔
      ∀ k, key = some k → (subDict tx k).NoNone := by
  cases key with
  | none =>
    exact iff_of_true (fun _ h => nomatch h) (fun _ h => nomatch h)
  | some k =>
    obtain ⟨t, -, hmem⟩ := mem_of_lookupType hkey
    have hne : ∀ entry ∈ txTypeDetailKey, entry.2 ≠ "" := by decide
    have hkne : decide (k ≠ "") = true := decide_eq_true (hne _ hmem)
    rw [Option.getD_some, hkne, Bool.true_and]
    simp only [Option.some.injEq, forall_eq']
    split_ifs with htruthy
    · simp
    · rw [Bool.not_eq_true] at htruthy
      exact iff_of_true (fun _ h => nomatch h) (noNone_of_not_truthy htruthy)

/-- What is copied, the label of the type aside. -/
theorem copied_noNone_iff {method : Json} (hmethod : (tx.get "tx-type").NoNone → method.NoNone) :
    (∀ x ∈ [tx.get "id", tx.get "confirmed-round", tx.get "round-time", tx.get "sender", method,
        tx.get "tx-type", tx.get "intra-round-offset", tx.get "note", tx.get "group",
        clean (tx.get "rekey-to"), tx.get "first-valid", tx.get "last-valid",
        tx.get "created-asset-index", tx.get "created-application-index", tx.get "logs"],
      x.NoNone) ↔ ∀ key ∈ txCopied, (tx.get key).NoNone := by
  unfold txCopied
  simp only [List.forall_mem_cons, List.not_mem_nil, false_implies, implies_true, and_true,
    noNone_clean]
  tauto

/-- **The texts of the response to a record.** -/
theorem mapFields_strings (h : NumberRecord tx) :
    ∃ m, mapFields tx = .ok m ∧ ("None" ∉ m.ownStrings ↔ RecordTexts tx) := by
  obtain ⟨key, hkey⟩ := h.exists_lookupType txTypeDetailKey
  obtain ⟨⟨counterparty, value, transfer⟩, hmovement⟩ := h.exists_extractMovement hkey
  obtain ⟨close, hclose, hcloseTexts⟩ := exists_extractClose_texts h hkey
  obtain ⟨timestamp, htimestamp⟩ := h.renderable.exists_iso
  obtain ⟨hvalue, hmovementTexts⟩ := extractMovement_texts h hkey hmovement
  obtain ⟨valueDecimal, hvalueDecimal, hvalueNone⟩ :=
    exists_nativeDecimal_number (tx.get "tx-type") hvalue
  obtain ⟨feeDecimal, hfeeDecimal, hfeeNone⟩ := exists_decimalString h.fee.numeric_get algoDecimals
  obtain ⟨label, hlabel⟩ := h.exists_lookupType txTypeLabel
  obtain ⟨signature, hsignature⟩ := h.renderable.exists_subDict
  obtain ⟨kind, hkind⟩ := exists_signatureType signature
  unfold mapFields
  simp only [hkey, hmovement, hclose, htimestamp, hvalueDecimal, hfeeDecimal, hlabel, hsignature,
    hkind, ok_bind]
  refine ⟨_, rfl, ?_⟩
  have hraw := raw_noNone_iff hkey
  have hmethod := method_noNone hlabel
  rw [MappedTransaction.none_notMem_ownStrings]
  constructor
  · rintro ⟨⟨hwritten, -⟩, ⟨hcopied, -, hrawTexts⟩, -, htransfer⟩
    have hdetail := hraw.mp hrawTexts
    have hfee : (tx.get "fee" (.int 0)).pyStr ≠ "None" := (hwritten _ (by simp)).symm
    refine ⟨h.fee.pyStr_ne_none_iff.mp hfee, (hmovementTexts hdetail).2.mp htransfer,
      (copied_noNone_iff hmethod).mp hcopied, ?_⟩
    intro k hk
    exact hdetail k (Except.ok.inj (hkey.symm.trans hk))
  · rintro ⟨hfee, htransfer, hcopied, htexts⟩
    have hdetail : ∀ k, key = some k → (subDict tx k).NoNone := by
      rintro k rfl
      exact htexts k hkey
    obtain ⟨hto, htransferTexts⟩ := hmovementTexts hdetail
    have hclose := hcloseTexts hdetail
    have hvalueString := valueString_ne_none hvalue
    refine ⟨⟨?_, ?_⟩, ⟨(copied_noNone_iff hmethod).mpr hcopied, ?_, hraw.mpr hdetail⟩, hclose,
      htransferTexts.mpr htransfer⟩
    · simp only [List.forall_mem_cons, List.not_mem_nil, false_implies, implies_true, and_true]
      refine ⟨hvalueString, valueTotal_ne_none hclose hvalueString,
        (h.fee.pyStr_ne_none_iff.mpr hfee).symm, ?_⟩
      split_ifs <;> decide
    · simp only [List.forall_mem_cons, List.not_mem_nil, false_implies, implies_true, and_true]
      exact ⟨iso_ne_none htimestamp, hvalueNone, hfeeNone, signatureType_ne_none hkind⟩
    · show ∀ x ∈ (if counterparty.truthy then some counterparty else none).toList, x.NoNone
      split_ifs
      · simpa using hto
      · exact fun _ h => absurd h List.not_mem_nil

end

/-- There is no `None` in the response to any record of the tree. -/
def TreeTexts (tx : Json) : Prop :=
  ∀ members : Dict, .obj members ∈ records tx → RecordTexts members

/-- **The texts of the response to a tree.** -/
theorem mapTransaction_strings {tx : Json} (h : NumberTree tx) :
    ∃ m, mapTransaction tx = .ok m ∧ ("None" ∉ m.strings ↔ TreeTexts tx) := by
  obtain ⟨m, hm⟩ : ∃ m, mapTransaction tx = .ok m := by
    apply exists_mapTransaction_eq_ok
    intro r hr
    obtain ⟨members, rfl, hrecord⟩ := h r hr
    obtain ⟨inner, hinner⟩ := hrecord.renderable.exists_innerTxns
    obtain ⟨m, hm, -⟩ := mapFields_strings hrecord
    exact ⟨⟨members, inner, rfl, hinner⟩, members, m, rfl, hm⟩
  refine ⟨m, hm, ?_⟩
  -- The two trees correspond node by node.
  have hnodes := forall_iff_of_forall₂ (mapTransaction_nodes hm)
    (P := fun r => ∀ members : Dict, r = .obj members → RecordTexts members)
    (Q := fun n => "None" ∉ n.ownStrings) (by
      rintro r hr n ⟨members, mapped, rfl, hmapped, hn⟩
      obtain ⟨members', heq, hrecord⟩ := h _ hr
      obtain rfl := Json.obj.inj heq
      obtain ⟨m', hm', htexts⟩ := mapFields_strings hrecord
      obtain rfl := Except.ok.inj (hmapped.symm.trans hm')
      have hsame : n.ownStrings = mapped.ownStrings := by
        rw [hn]
        rfl
      rw [hsame, htexts]
      constructor
      · exact fun h => h members rfl
      · rintro h members' heq
        obtain rfl := Json.obj.inj heq
        exact h)
  unfold MappedTransaction.strings TreeTexts
  rw [List.mem_flatMap]
  simp only [not_exists, not_and]
  rw [← hnodes]
  constructor
  · exact fun h members hmem => h _ hmem members rfl
  · rintro h r hr members rfl
    exact h members hr

/-- **Transactions.** -/
theorem mapTransaction_nulls (c : Choice) {tx : Json} (h : NumberTree tx) :
    AsAbsent MappedTransaction.strings (fun m m' => m.withoutRaw = m'.withoutRaw)
      (mapTransaction tx) (mapTransaction (dropTx c tx)) ↔ TreeTexts tx ∧ ¬c.Spoils tx := by
  obtain ⟨m, hm, htexts⟩ := mapTransaction_strings h
  have hagrees := mapTransaction_dropNulls c tx h
  rw [hm] at hagrees
  cases hdropped : mapTransaction (dropTx c tx) with
  | error e =>
    rw [hdropped] at hagrees
    exact hagrees.elim
  | ok m' =>
    rw [hdropped] at hagrees
    have hsame : m.withoutRaw = m'.withoutRaw ↔ ¬c.Spoils tx := hagrees
    rw [← htexts, ← hsame, hm]
    constructor
    · rintro ⟨m₁, m₂, hm₁, hm₂, hsame, hnone⟩
      obtain rfl := Except.ok.inj hm₁
      obtain rfl := Except.ok.inj hm₂
      exact ⟨hnone, hsame⟩
    · rintro ⟨hnone, hsame⟩
      exact ⟨m, m', rfl, rfl, hsame, hnone⟩

/-- **When a null number is as good as an absent one**, for each of the five mappers. -/
theorem null_is_absent_iff (account : AccountPayload) (page : HoldingsPage) (metadata : Metadata)
    (holders : HoldersPage) (decimals : Option Int) (token : TokenPayload) (tx : Json)
    (htx : NumberTree tx) (chosen chosenParams : String → Bool) (chosenItems : ℕ → String → Bool)
    (chosenMetadata : Key → String → Bool) (c : Choice) :
    (AsAbsent MappedAccount.strings (· = ·) (mapAccount (.obj account.members))
        (mapAccount (dropAccount chosen (.obj account.members))) ↔ account.NumbersThere) ∧
      (AsAbsent (Page.strings MappedHolding.strings) (· = ·)
          (mapAccountAssets (.obj page.members) metadata.params)
          (mapAccountAssets (dropItems "assets" chosenItems (.obj page.members))
            (metadata.dropNulls chosenMetadata)) ↔
        (∀ h ∈ page.holdings, h.NumbersThere metadata) ∧
          (page.members.get "next-token").NoNone) ∧
      (AsAbsent (Page.strings MappedHolder.strings) (· = ·)
          (mapAssetHolders (.obj holders.members) ((decimals.map Json.int).getD .null))
          (mapAssetHolders (dropItems "balances" chosenItems (.obj holders.members))
            ((decimals.map Json.int).getD .null)) ↔
        (∀ balance ∈ holders.balances, HolderNumbersThere balance) ∧
          (holders.members.get "next-token").NoNone) ∧
      (AsAbsent MappedAsset.strings (· = ·) (mapAsset (.obj token.members))
        (mapAsset (dropAsset chosen chosenParams (.obj token.members))) ↔
          token.NumbersThere chosenParams) ∧
      (AsAbsent MappedTransaction.strings (fun m m' => m.withoutRaw = m'.withoutRaw)
        (mapTransaction tx) (mapTransaction (dropTx c tx)) ↔ TreeTexts tx ∧ ¬c.Spoils tx) :=
  ⟨mapAccount_nulls account chosen,
    mapAccountAssets_nulls page metadata chosenItems chosenMetadata,
    mapAssetHolders_nulls holders decimals chosenItems,
    token.mapAsset_nulls chosen chosenParams, mapTransaction_nulls c htx⟩

/-! ### Payloads with nulls -/

/-- An account whose amount is null. -/
def nullBalance : Dict := [("account", .obj [("address", .str "A"), ("amount", .null)])]

/-- **Its balance is the text `None`.** -/
theorem null_balance_is_none :
    ¬AsAbsent MappedAccount.strings (· = ·) (mapAccount (.obj nullBalance))
      (mapAccount (dropAccount (fun _ => true) (.obj nullBalance))) := by
  rintro ⟨m, m', hm, -, -, hnone⟩
  have hbalance : m.coinBalance = "None" := by
    obtain rfl := Except.ok.inj hm
    rfl
  apply hnone
  unfold MappedAccount.strings textsOf
  simp [hbalance]

/-- An account with a fee, which it has no use for. -/
def someAccount : AccountPayload where
  members := [("account", .obj [("address", .str "A"), ("amount", .int 5), ("fee", .null)])]
  account := [("address", .str "A"), ("amount", .int 5), ("fee", .null)]
  account_eq := rfl
  amount_isNumber := .inr ⟨5, by decide, rfl⟩
  apps_isNumber := .inl rfl

/-- A holding of asset 7. -/
def someHoldings : HoldingsPage where
  members := [("assets", .arr [.obj [("asset-id", .int 7), ("amount", .int 3), ("total", .null)]])]
  holdings := [⟨[("asset-id", .int 7), ("amount", .int 3), ("total", .null)], some 7, rfl,
    .inr ⟨3, by decide, rfl⟩⟩]
  listed_eq := rfl

/-- Metadata of asset 7 without numbers. -/
def someMetadata : Metadata where
  entries := [(.num 7, [("total", .null), ("decimals", .null)])]
  isNumber := by
    intro entry hentry
    rw [List.mem_singleton.mp hentry]
    exact ⟨.inl rfl, .inl rfl⟩

/-- A holder. -/
def someHolders : HoldersPage where
  members := [("balances", .arr [.obj [("address", .str "A"), ("amount", .int 3)]])]
  balances := [[("address", .str "A"), ("amount", .int 3)]]
  listed_eq := rfl
  amount_isNumber := by
    intro balance hbalance
    rw [List.mem_singleton.mp hbalance]
    exact .inr ⟨3, by decide, rfl⟩

/-- An asset without a total. -/
def someToken : TokenPayload where
  members := [("asset", .obj [("index", .int 7), ("params", .obj [("total", .null)])])]
  asset := [("index", .int 7), ("params", .obj [("total", .null)])]
  params := [("total", .null)]
  asset_eq := rfl
  params_eq := rfl
  index_isNumber := .inr ⟨7, by decide, rfl⟩
  total_isNumber := .inl rfl
  decimals_isNumber := .inl rfl

/-- A payment that closes nothing. -/
def somePayment : Dict :=
  [("tx-type", .str "pay"), ("fee", .int 1000), ("closing-amount", .null),
    ("payment-transaction", .obj [("receiver", .str "R"), ("amount", .int 5),
      ("close-amount", .null)])]

theorem numberRecord_somePayment : NumberRecord somePayment where
  txType := .inr ⟨"pay", rfl⟩
  detail := by
    unfold detailKeys
    simp only [txTypeDetailKey, List.map_cons, List.map_nil, List.forall_mem_cons]
    exact ⟨⟨_, rfl⟩, ⟨_, rfl⟩, ⟨_, rfl⟩, ⟨_, rfl⟩, ⟨_, rfl⟩, ⟨_, rfl⟩, ⟨_, rfl⟩, ⟨_, rfl⟩,
      fun _ h => nomatch h⟩
  fee := .inr ⟨1000, by decide, rfl⟩
  closingAmount := .inl rfl
  amounts := by
    simp only [List.forall_mem_cons]
    exact ⟨⟨.inr ⟨5, by decide, rfl⟩, .inl rfl⟩, ⟨.inl rfl, .inl rfl⟩, fun _ h => nomatch h⟩
  renderable := ⟨.inl rfl, .inl rfl, .inl rfl, by decide, by decide⟩

/-- Choose every null of the record. -/
def everyNull : Choice := .node (fun _ => true) (fun _ _ => true) fun _ => .keep

/-- **Nulls that are as good as absent numbers.** -/
theorem some_nulls_are_absent :
    AsAbsent MappedAccount.strings (· = ·) (mapAccount (.obj someAccount.members))
        (mapAccount (dropAccount (fun _ => true) (.obj someAccount.members))) ∧
      AsAbsent (Page.strings MappedHolding.strings) (· = ·)
        (mapAccountAssets (.obj someHoldings.members) someMetadata.params)
        (mapAccountAssets (dropItems "assets" (fun _ _ => true) (.obj someHoldings.members))
          (someMetadata.dropNulls fun _ _ => true)) ∧
      AsAbsent (Page.strings MappedHolder.strings) (· = ·)
        (mapAssetHolders (.obj someHolders.members) (.int 6))
        (mapAssetHolders (dropItems "balances" (fun _ _ => true) (.obj someHolders.members))
          (.int 6)) ∧
      AsAbsent MappedAsset.strings (· = ·) (mapAsset (.obj someToken.members))
        (mapAsset (dropAsset (fun _ => true) (fun _ => true) (.obj someToken.members))) ∧
      AsAbsent MappedTransaction.strings (fun m m' => m.withoutRaw = m'.withoutRaw)
        (mapTransaction (.obj somePayment))
        (mapTransaction (dropTx everyNull (.obj somePayment))) := by
  have hrecords : records (.obj somePayment) = [.obj somePayment] := records_leaf rfl
  have hnumbers : NumberTree (.obj somePayment) := by
    intro r hr
    rw [hrecords, List.mem_singleton] at hr
    exact ⟨somePayment, hr, numberRecord_somePayment⟩
  obtain ⟨haccount, hholdings, hholders, htoken, htx⟩ := null_is_absent_iff someAccount someHoldings
    someMetadata someHolders (some 6) someToken (.obj somePayment) hnumbers (fun _ => true)
    (fun _ => true) (fun _ _ => true) (fun _ _ => true) everyNull
  refine ⟨haccount.mpr ⟨?_, ?_, ?_⟩, hholdings.mpr ⟨?_, ?_⟩, hholders.mpr ⟨?_, ?_⟩,
    htoken.mpr ⟨?_, ?_, ?_, ?_, ?_⟩, htx.mpr ⟨?_, ?_⟩⟩
  · exact fun h => nomatch h
  · unfold Json.NoNone
    decide
  · exact noNone_null
  · intro h hh
    rw [List.mem_singleton.mp hh]
    refine ⟨fun h => (nomatch h), ?_, ?_⟩
    · unfold Json.NoNone
      decide
    · unfold Json.NoNone
      decide
  · exact noNone_null
  · intro balance hbalance
    rw [List.mem_singleton.mp hbalance]
    refine ⟨fun h => (nomatch h), ?_⟩
    unfold Json.NoNone
    decide
  · exact noNone_null
  · exact fun h => nomatch h
  · exact fun h => nomatch h
  · unfold Json.NoNone
    decide
  · unfold Json.NoNone
    decide
  · exact noNone_null
  · intro members hmem
    rw [hrecords, List.mem_singleton] at hmem
    obtain rfl := Json.obj.inj hmem
    refine ⟨fun h => (nomatch h), fun htype => ?_, ?_, ?_⟩
    · exact absurd (Json.str.inj htype) (by decide)
    · unfold Json.NoNone
      decide
    · intro key hkey
      obtain rfl : "payment-transaction" = key := Option.some.inj (Except.ok.inj hkey)
      unfold Json.NoNone
      decide
  · unfold everyNull Choice.Spoils
    rintro (hspoils | ⟨i, r, hr, -⟩)
    · rcases hspoils with ⟨-, hnull⟩ | ⟨-, -, hnull⟩ | ⟨-, htarget, -⟩ | ⟨htype, -⟩
      · cases hnull
      · cases hnull
      · cases htarget
      · exact absurd (Json.str.inj htype) (by decide)
    · cases hr

end Algorandscout
