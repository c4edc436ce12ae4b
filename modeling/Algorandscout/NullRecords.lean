import Algorandscout.Effects
import Algorandscout.Nulls
import Algorandscout.Unset

namespace Algorandscout

open Library

/-!
# Records without their nulls

A transaction record, its typed sub-object and its inner records, with and without the numbers in
them that are null.

* `NumberRecord`, `NumberTree` — the records the mapper returns on, their numbers null or not;
* `dropTx` — delete chosen null members, in a record and in its inner records;
* `Spoils` — the deleted nulls that change the response to a record;
* `mapFields_dropNulls`, `mapTransaction_dropNulls` — a record, and a tree of records: nothing
  else changes it.
-/

/-! ### Records -/

/-- The keys of the typed sub-objects. -/
def detailKeys : List String := txTypeDetailKey.map (·.2)

/-- A record as the mapper expects it, except that its numbers may be null. -/
structure NumberRecord (tx : Dict) : Prop where
  txType : tx.get "tx-type" = .null ∨ ∃ t, tx.get "tx-type" = .str t
  detail : ∀ key ∈ detailKeys, ∃ d, subDict tx key = .obj d
  fee : IsNumber tx "fee"
  closingAmount : IsNumber tx "closing-amount"
  amounts : ∀ key ∈ ["payment-transaction", "asset-transfer-transaction"],
    IsNumber (typedDetail tx key) "amount" ∧ IsNumber (typedDetail tx key) "close-amount"
  renderable : RenderableRecord tx

/-- The sub-object that the mapper reads. -/
theorem NumberRecord.exists_subDict {tx : Dict} (h : NumberRecord tx) {key : String}
    (hkey : lookupType txTypeDetailKey (tx.get "tx-type") = .ok (some key)) :
    key ∈ detailKeys ∧ ∃ d, subDict tx key = .obj d := by
  obtain ⟨t, -, hmem⟩ := mem_of_lookupType hkey
  have hlisted : key ∈ detailKeys := List.mem_map.mpr ⟨(t, key), hmem, rfl⟩
  exact ⟨hlisted, h.detail key hlisted⟩

/-- The sub-object of a record that moves something, with its amounts. -/
theorem NumberRecord.exists_amounts {tx : Dict} (h : NumberRecord tx) (key : String)
    (hkey : key ∈ ["payment-transaction", "asset-transfer-transaction"]) :
    ∃ d, subDict tx key = .obj d ∧ IsNumber d "amount" ∧ IsNumber d "close-amount" := by
  have hrow : ∀ key ∈ ["payment-transaction", "asset-transfer-transaction"], key ∈ detailKeys := by
    decide
  obtain ⟨d, hd⟩ := h.detail key (hrow key hkey)
  have hamounts := h.amounts key hkey
  rw [typedDetail_of_subDict hd] at hamounts
  exact ⟨d, hd, hamounts⟩

/-- Every record of the tree is such a record. -/
def NumberTree (tx : Json) : Prop :=
  ∀ r ∈ records tx, ∃ members, r = .obj members ∧ NumberRecord members

/-- The numeric members of a record and of its typed sub-object. -/
def txNumbers : TxMembers where
  top := numericMembers
  detail key := if key ∈ detailKeys then numericMembers else []

/-- Delete chosen null members of a record; `inner` edits its inner records. -/
def dropRecord (top : String → Bool) (detail : String → String → Bool) (inner : ℕ → Json → Json)
    (tx : Dict) : Dict :=
  editRecord none txNumbers (fun key => top key && (tx.get key).isNull)
    (fun key member => detail key member && ((typedDetail tx key).get member).isNull) inner tx

/-- Delete chosen null members, in the record and in its inner records. -/
def dropTx : Choice → Json → Json
  | .node top detail inner, .obj tx =>
    .obj (dropRecord top detail (fun i r => dropTx (inner i) r) tx)
  | _, x => x

section

variable {tx : Dict} {top : String → Bool} {detail : String → String → Bool}
  {inner : ℕ → Json → Json}

/-- What is no number is read as before. -/
theorem get_dropRecord {key : String} (htop : key ∉ numericMembers) (hinner : key ≠ "inner-txns")
    (hdetail : key ∉ detailKeys) (default : Json) :
    (dropRecord top detail inner tx).get key default = tx.get key default :=
  get_editRecord htop hinner (if_neg hdetail) tx default

/-- A number is read as before, unless it is null and deleted. -/
theorem get_number_dropRecord {key : String} (hmem : key ∈ numericMembers) (default : Json) :
    (dropRecord top detail inner tx).get key default =
      (tx.dropNulls top).get key default := by
  have hrow : ∀ key ∈ numericMembers, key ≠ "inner-txns" ∧ key ∉ detailKeys := by decide
  obtain ⟨hinner, hdetail⟩ := hrow key hmem
  unfold Dict.get dropRecord Dict.dropNulls
  rw [Dict.lookup_edit]
  by_cases hdropped : top key && (tx.get key).isNull
  · rw [lookup_editRecord, if_pos ⟨hmem, hdropped⟩, if_pos ⟨hmem, hdropped⟩]
  · rw [lookup_editRecord_of_not (fun h => hdropped h.2) hinner (if_neg hdetail),
      if_neg fun h => hdropped h.2]

/-- The sub-object without the nulls. -/
theorem subDict_dropRecord {key : String} (hkey : key ∈ detailKeys) {d : Dict}
    (hd : subDict tx key = .obj d) :
    subDict (dropRecord top detail inner tx) key = .obj (d.dropNulls (detail key)) := by
  have hrow : ∀ key ∈ detailKeys, key ∉ numericMembers ∧ key ≠ "inner-txns" := by decide
  obtain ⟨htop, hinner⟩ := hrow key hkey
  have hnames : txNumbers.detail key = numericMembers := if_pos hkey
  unfold dropRecord
  rw [subDict_editRecord htop hinner, hd, typedDetail_of_subDict hd, hnames]
  rfl

theorem signature_dropRecord :
    subDict (dropRecord top detail inner tx) "signature" = subDict tx "signature" := by
  unfold subDict
  rw [get_dropRecord (by decide) (by decide) (by decide)]

end

/-! ### What deleting changes -/

/-- A null fee is deleted: it is the text `None`, an absent one is zero. -/
def DropsFee (top : String → Bool) (tx : Dict) : Prop := top "fee" = true ∧ NullAt tx "fee"

/-- The null amount of a payment is deleted: it has no decimal value, an absent one has. -/
def DropsPayment (detail : String → String → Bool) (tx : Dict) : Prop :=
  tx.get "tx-type" = .str "pay" ∧ detail "payment-transaction" "amount" = true ∧
    NullAt (typedDetail tx "payment-transaction") "amount"

/-- The null close amount of a closing payment is deleted: it hides the one of the record. -/
def DropsClose (detail : String → String → Bool) (tx : Dict) : Prop :=
  tx.get "tx-type" = .str "pay" ∧
    (clean ((typedDetail tx "payment-transaction").get "close-remainder-to")).truthy = true ∧
    detail "payment-transaction" "close-amount" = true ∧
    NullAt (typedDetail tx "payment-transaction") "close-amount" ∧
    (tx.get "closing-amount").truthy = true

/-- The null amount of an asset transfer is deleted: it is the text `None`, an absent one is
    zero. -/
def DropsTransfer (detail : String → String → Bool) (tx : Dict) : Prop :=
  tx.get "tx-type" = .str "axfer" ∧ detail "asset-transfer-transaction" "amount" = true ∧
    NullAt (typedDetail tx "asset-transfer-transaction") "amount"

/-- **The deleted nulls that change the response to a record.** -/
def Spoils (top : String → Bool) (detail : String → String → Bool) (tx : Dict) : Prop :=
  DropsFee top tx ∨ DropsPayment detail tx ∨ DropsClose detail tx ∨ DropsTransfer detail tx

/-- A payment without a close. -/
theorem extractClose_pay_none {d : Dict} (tx : Dict)
    (htarget : (clean (d.get "close-remainder-to")).truthy = false) :
    extractClose (.str "pay") (.obj d) tx = .ok none := by
  unfold extractClose
  simp only [Json.eqStr, beq_self_eq_true, ↓reduceIte, Json.asDict_obj, ok_bind, htarget]
  rfl

/-- A record without a typed sub-object moves nothing. -/
theorem extractMovement_unknown {txType : Json}
    (hkey : lookupType txTypeDetailKey txType = .ok none) (detail : Json) :
    extractMovement txType detail = .ok (.null, .int 0, none) := by
  have hne : ∀ t ∈ ["pay", "axfer", "appl", "acfg", "afrz"], txType.eqStr t = false := by
    intro t ht
    have hlisted : ∀ t ∈ ["pay", "axfer", "appl", "acfg", "afrz"],
        txTypeDetailKey.lookup t ≠ none := by
      decide
    rw [Bool.eq_false_iff]
    intro heq
    rw [Json.eqStr_iff.mp heq, lookupType_str] at hkey
    exact hlisted t ht (Except.ok.inj hkey)
  unfold extractMovement
  simp (disch := decide) only [hne, Bool.false_eq_true, ↓reduceIte]
  rfl

/-- Nothing numeric is read of the other sub-objects. -/
theorem extractMovement_dropNulls_of_other {txType : Json} (hpay : txType.eqStr "pay" = false)
    (haxfer : txType.eqStr "axfer" = false) (chosen : String → Bool) (d : Dict) :
    extractMovement txType (.obj (d.dropNulls chosen)) = extractMovement txType (.obj d) := by
  unfold extractMovement
  simp only [hpay, haxfer, Bool.false_eq_true, ↓reduceIte, Json.asDict_obj, ok_bind,
    Dict.get_dropNulls]

/-- A null that is rendered as it stands is not rendered as an absent one. -/
theorem get_dropNulls_cases (d : Dict) (key : String) (hmem : key ∈ numericMembers)
    (chosen : String → Bool) :
    (d.get key (.int 0) = (d.dropNulls chosen).get key (.int 0) ∧
        ¬(chosen key = true ∧ NullAt d key)) ∨
      (d.get key (.int 0) = .null ∧ (d.dropNulls chosen).get key (.int 0) = .int 0 ∧
        chosen key = true ∧ NullAt d key) := by
  by_cases hdropped : chosen key = true ∧ NullAt d key
  · obtain ⟨hchosen, hnull⟩ := hdropped
    exact .inr ⟨Dict.get_of_lookup hnull _, Dict.get_dropNulls_of_null hmem hchosen hnull _,
      hchosen, hnull⟩
  · exact .inl ⟨(Dict.get_dropNulls_of_not hdropped _).symm, hdropped⟩

/-- `d.get(key, 0) or 0` reads a null as an absent number. -/
theorem get_or_dropNulls (chosen : String → Bool) (d : Dict) (key : String) :
    ((d.dropNulls chosen).get key (.int 0)).or (.int 0) = (d.get key (.int 0)).or (.int 0) := by
  rw [Json.get_or_default, Json.get_or_default, Dict.get_dropNulls]

/-- `d.get(key, 0) or 0` of a number. -/
theorem IsNumber.get_or {d : Dict} {key : String} (h : IsNumber d key) :
    (d.get key (.int 0)).or (.int 0) = .int (amountOf d key) := by
  rw [Json.get_or_default]
  unfold amountOf
  cases hlookup : d.lookup key with
  | none =>
    rw [Dict.get_of_lookup_none hlookup]
    rfl
  | some x =>
    unfold IsNumber at h
    rw [Dict.get_of_lookup hlookup] at h ⊢
    rcases h with rfl | ⟨n, -, rfl⟩
    · rfl
    · exact Json.or_int_zero n

section

variable {tx : Dict} {top : String → Bool} {detail : String → String → Bool}
  {inner : ℕ → Json → Json} {key : Option String}

/-- **What moves**, with and without the nulls. -/
theorem extractMovement_dropNulls (h : NumberRecord tx)
    (hkey : lookupType txTypeDetailKey (tx.get "tx-type") = .ok key) :
    Agrees (fun a b => a.1 = b.1 ∧ (a.2.2 = b.2.2 ↔ ¬DropsTransfer detail tx) ∧
        ((a.2.1 = b.2.1 ∧ ¬DropsPayment detail tx) ∨
          (a.2.1 = .null ∧ b.2.1 = .int 0 ∧ DropsPayment detail tx)))
      (extractMovement (tx.get "tx-type") (subDict tx (key.getD "")))
      (extractMovement (tx.get "tx-type")
        (subDict (dropRecord top detail inner tx) (key.getD ""))) := by
  unfold DropsTransfer DropsPayment
  have hread : ∀ k ∈ detailKeys, ∃ d : Dict, subDict tx k = .obj d ∧ typedDetail tx k = d ∧
      subDict (dropRecord top detail inner tx) k = .obj (d.dropNulls (detail k)) := by
    intro k hk
    obtain ⟨d, hd⟩ := h.detail k hk
    exact ⟨d, hd, typedDetail_of_subDict hd, subDict_dropRecord hk hd⟩
  rcases lookupType_cases hkey with ⟨htype, rfl⟩ | ⟨htype, rfl⟩ | ⟨hpay, haxfer, -⟩
  · obtain ⟨d, hd, htyped, hdropped⟩ := hread "payment-transaction" (by decide)
    show Agrees _ (extractMovement _ (subDict _ "payment-transaction"))
      (extractMovement _ (subDict _ "payment-transaction"))
    rw [htype, hd, hdropped, htyped, extractMovement_pay_obj, extractMovement_pay_obj]
    refine ⟨(Dict.get_dropNulls _ _ _).symm, iff_of_true rfl fun h => absurd h.1 (by simp), ?_⟩
    rcases get_dropNulls_cases d "amount" (by decide)
      (detail "payment-transaction") with ⟨heq, hnot⟩ | ⟨hnull, hzero, hchosen⟩
    · exact .inl ⟨heq, fun h => hnot h.2⟩
    · exact .inr ⟨hnull, hzero, rfl, hchosen⟩
  · obtain ⟨d, hd, htyped, hdropped⟩ := hread "asset-transfer-transaction" (by decide)
    show Agrees _ (extractMovement _ (subDict _ "asset-transfer-transaction"))
      (extractMovement _ (subDict _ "asset-transfer-transaction"))
    rw [htype, hd, hdropped, htyped, extractMovement_axfer_obj, extractMovement_axfer_obj]
    simp only [Dict.get_dropNulls]
    refine ⟨rfl, ?_, .inl ⟨rfl, fun h => absurd h.1 (by simp)⟩⟩
    rcases get_dropNulls_cases d "amount" (by decide)
      (detail "asset-transfer-transaction") with ⟨heq, hnot⟩ | ⟨hnull, hzero, hchosen⟩
    · rw [heq]
      exact iff_of_true rfl fun h => hnot h.2
    · rw [hnull, hzero]
      refine iff_of_false ?_ (fun h => h ⟨trivial, hchosen⟩)
      intro heq
      have hamount : "None" = "0" := congrArg TokenTransfer.amount (Option.some.inj heq)
      exact absurd hamount (by decide)
  · have hnotPay : tx.get "tx-type" ≠ .str "pay" := by
      intro htype
      rw [htype] at hpay
      exact absurd hpay (by decide)
    have hnotAxfer : tx.get "tx-type" ≠ .str "axfer" := by
      intro htype
      rw [htype] at haxfer
      exact absurd haxfer (by decide)
    have hsame : extractMovement (tx.get "tx-type") (subDict tx (key.getD "")) =
        extractMovement (tx.get "tx-type")
          (subDict (dropRecord top detail inner tx) (key.getD "")) := by
      cases key with
      | none => rw [extractMovement_unknown hkey, extractMovement_unknown hkey]
      | some k =>
        obtain ⟨d, hd, -, hdropped⟩ := hread k (h.exists_subDict hkey).1
        rw [Option.getD_some, hd, hdropped,
          extractMovement_dropNulls_of_other hpay haxfer]
    rw [← hsame]
    exact Agrees.refl (fun a => ⟨rfl, iff_of_true rfl fun h => hnotAxfer h.1,
      .inl ⟨rfl, fun h => hnotPay h.1⟩⟩) _

/-- The close amount of a payment is read in one of two places. -/
theorem get_or_closeAmount {d : Dict} (hclose : IsNumber d "close-amount")
    (hclosing : IsNumber tx "closing-amount") :
    (d.get "close-amount" (tx.get "closing-amount" (.int 0))).or (.int 0) =
      .int (sweptAmount tx d) := by
  unfold sweptAmount isSet
  cases hlookup : d.lookup "close-amount" with
  | none =>
    rw [Dict.get_of_lookup_none hlookup]
    exact hclosing.get_or
  | some x =>
    have hn := hclose.get_or
    rw [Dict.get_of_lookup hlookup] at hn ⊢
    exact hn

/-- A close amount that is kept is read as before. -/
theorem closeAmount_dropNulls {d : Dict} {chosen : String → Bool}
    (h : ¬(chosen "close-amount" = true ∧ NullAt d "close-amount" ∧
      (tx.get "closing-amount").truthy = true)) :
    (d.get "close-amount" (tx.get "closing-amount" (.int 0))).or (.int 0) =
      ((d.dropNulls chosen).get "close-amount"
        ((dropRecord top detail inner tx).get "closing-amount" (.int 0))).or (.int 0) := by
  have hclosing : ((dropRecord top detail inner tx).get "closing-amount" (.int 0)).or (.int 0) =
      (tx.get "closing-amount" (.int 0)).or (.int 0) := by
    rw [get_number_dropRecord (by decide)]
    exact get_or_dropNulls top tx "closing-amount"
  by_cases hdropped : chosen "close-amount" = true ∧ NullAt d "close-amount"
  · obtain ⟨hchosen, hnull⟩ := hdropped
    have hfalse : (tx.get "closing-amount").truthy = false :=
      Bool.eq_false_iff.mpr fun htruthy => h ⟨hchosen, hnull, htruthy⟩
    rw [Dict.get_dropNulls_of_null (by decide) hchosen hnull, Dict.get_of_lookup hnull, hclosing,
      Json.get_or_default, Json.or_of_not_truthy _ hfalse]
    rfl
  · rw [Dict.get_dropNulls_of_not hdropped]
    cases hlookup : d.lookup "close-amount" with
    | none =>
      rw [Dict.get_of_lookup_none hlookup, Dict.get_of_lookup_none hlookup]
      exact hclosing.symm
    | some x => rw [Dict.get_of_lookup hlookup, Dict.get_of_lookup hlookup]

/-- **The close of a payment**, with and without the nulls. -/
theorem extractClose_pay_dropNulls {d : Dict} (chosen : String → Bool)
    (hd : typedDetail tx "payment-transaction" = d) (hamount : IsNumber d "amount")
    (hclosing : IsNumber tx "closing-amount") (hnumbers : WritableRecord tx) :
    Agrees (fun x y => x = y ↔ ¬((clean (d.get "close-remainder-to")).truthy = true ∧
        chosen "close-amount" = true ∧ NullAt d "close-amount" ∧
          (tx.get "closing-amount").truthy = true))
      (extractClose (.str "pay") (.obj d) tx)
      (extractClose (.str "pay") (.obj (d.dropNulls chosen))
        (dropRecord top detail inner tx)) := by
  by_cases htarget : (clean (d.get "close-remainder-to")).truthy = true
  · by_cases hspoils : chosen "close-amount" = true ∧ NullAt d "close-amount" ∧
        (tx.get "closing-amount").truthy = true
    · -- The null is read as zero, and what stands behind it is not zero.
      obtain ⟨hchosen, hnull, htruthy⟩ := hspoils
      have hamount' := get_or_dropNulls chosen d "amount"
      rw [hamount.get_or] at hamount'
      have hzero : (d.get "close-amount" (tx.get "closing-amount" (.int 0))).or (.int 0) =
          .int 0 := by
        rw [Dict.get_of_lookup hnull]
        rfl
      have hhidden : ((d.dropNulls chosen).get "close-amount"
          ((dropRecord top detail inner tx).get "closing-amount" (.int 0))).or (.int 0) =
            .int (amountOf tx "closing-amount") := by
        rw [Dict.get_dropNulls_of_null (by decide) hchosen hnull,
          get_number_dropRecord (by decide), get_or_dropNulls, hclosing.get_or]
      have hswept : amountOf d "close-amount" = 0 := by
        unfold amountOf
        rw [hnull]
      have hwritable := hnumbers.amounts "payment-transaction" (by decide)
      rw [hd, hswept] at hwritable
      rw [extractClose_pay hamount.get_or hzero, extractClose_pay hamount' hhidden,
        Dict.get_dropNulls, if_pos htarget, if_pos htarget,
        if_pos (hwritable 0 List.mem_cons_self).2,
        if_pos (hwritable _ (List.mem_cons_of_mem _ List.mem_cons_self)).2]
      refine iff_of_false ?_ (fun h => h ⟨htarget, hchosen, hnull, htruthy⟩)
      intro heq
      have hdigits : toString (0 : Int) = toString (amountOf tx "closing-amount") :=
        congrArg Close.closeAmount (Option.some.inj heq)
      have hparsed := congrArg parseAmount hdigits
      rw [parseAmount_toString, parseAmount_toString] at hparsed
      -- A zero is as false as a null.
      have hor := hclosing.get_or
      rw [Json.get_or_default, Json.or_of_truthy _ htruthy, ← hparsed] at hor
      rw [hor] at htruthy
      exact absurd htruthy (by decide)
    · rw [← extractClose_pay_congr (by rw [Dict.get_dropNulls]) (get_or_dropNulls chosen d _).symm
        (closeAmount_dropNulls hspoils)]
      apply Agrees.refl
      exact fun _ => iff_of_true rfl fun h => hspoils h.2
  · have hnone : (clean (d.get "close-remainder-to")).truthy = false :=
      Bool.eq_false_iff.mpr htarget
    have hnone' : (clean ((d.dropNulls chosen).get "close-remainder-to")).truthy = false := by
      rw [Dict.get_dropNulls]
      exact hnone
    rw [extractClose_pay_none _ hnone, extractClose_pay_none _ hnone']
    exact iff_of_true rfl fun h => htarget h.1

/-- **What closes**, with and without the nulls. -/
theorem extractClose_dropNulls (h : NumberRecord tx)
    (hkey : lookupType txTypeDetailKey (tx.get "tx-type") = .ok key) :
    Agrees (fun x y => x = y ↔ ¬DropsClose detail tx)
      (extractClose (tx.get "tx-type") (subDict tx (key.getD "")) tx)
      (extractClose (tx.get "tx-type")
        (subDict (dropRecord top detail inner tx) (key.getD ""))
        (dropRecord top detail inner tx)) := by
  unfold DropsClose
  rcases lookupType_cases hkey with ⟨htype, rfl⟩ | ⟨htype, rfl⟩ | ⟨hpay, haxfer, -⟩
  · obtain ⟨d, hd, hamount, -⟩ := h.exists_amounts "payment-transaction" (by decide)
    show Agrees _ (extractClose _ (subDict _ "payment-transaction") _)
      (extractClose _ (subDict _ "payment-transaction") _)
    rw [htype, hd, subDict_dropRecord (by decide) hd, typedDetail_of_subDict hd]
    simp only [true_and]
    exact extractClose_pay_dropNulls _ (typedDetail_of_subDict hd) hamount h.closingAmount
      h.renderable.numbers
  · obtain ⟨d, hd⟩ := h.detail "asset-transfer-transaction" (by decide)
    show Agrees _ (extractClose _ (subDict _ "asset-transfer-transaction") _)
      (extractClose _ (subDict _ "asset-transfer-transaction") _)
    rw [htype, hd, subDict_dropRecord (by decide) hd,
      ← extractClose_axfer_congr (by rw [Dict.get_dropNulls])
        (get_or_dropNulls _ d _).symm (get_or_dropNulls _ d _).symm (by rw [Dict.get_dropNulls])]
    apply Agrees.refl
    exact fun _ => iff_of_true rfl fun h => absurd h.1 (by simp)
  · rw [extractClose_other _ _ hpay haxfer, extractClose_other _ _ hpay haxfer]
    refine iff_of_true rfl ?_
    rintro ⟨htype, -⟩
    rw [htype] at hpay
    exact absurd hpay (by decide)

/-- The native value, with and without the nulls. -/
theorem nativeDecimal_dropNulls {value value' : Json}
    (hvalue : (value = value' ∧ ¬DropsPayment detail tx) ∨
      (value = .null ∧ value' = .int 0 ∧ DropsPayment detail tx)) :
    Agrees (fun x y => x = y ↔ ¬DropsPayment detail tx)
      (nativeDecimal (tx.get "tx-type") value) (nativeDecimal (tx.get "tx-type") value') := by
  rcases hvalue with ⟨rfl, hnot⟩ | ⟨rfl, rfl, hspoils⟩
  · apply Agrees.refl
    exact fun _ => iff_of_true rfl hnot
  · rw [hspoils.1]
    exact iff_of_false (fun h => nomatch h) (fun h => h hspoils)

/-- The fee and its decimal value, with and without the nulls. -/
theorem fee_dropNulls (top : String → Bool) (detail : String → String → Bool)
    (inner : ℕ → Json → Json) (tx : Dict) :
    Agrees (fun x y => (x = y ∧ (tx.get "fee" (.int 0)).pyStr =
        ((dropRecord top detail inner tx).get "fee" (.int 0)).pyStr) ↔ ¬DropsFee top tx)
      (decimalString (tx.get "fee" (.int 0)) (.int algoDecimals))
      (decimalString ((dropRecord top detail inner tx).get "fee" (.int 0))
        (.int algoDecimals)) := by
  rw [get_number_dropRecord (by decide)]
  rcases get_dropNulls_cases tx "fee" (by decide) top with
    ⟨heq, hnot⟩ | ⟨hnull, hzero, hspoils⟩
  · rw [← heq]
    apply Agrees.refl
    exact fun _ => iff_of_true ⟨rfl, rfl⟩ hnot
  · rw [hnull, hzero]
    exact iff_of_false (fun h => nomatch h.1) (fun h => h hspoils)

/-- Two outputs that are the same but for what is made of numbers, and the raw sub-object. -/
def SameButNumbers (m m' : MappedTransaction) : Prop :=
  m' = { m with
    valueDecimal := m'.valueDecimal
    close := m'.close
    closesAccount := m'.closesAccount
    valueTotal := m'.valueTotal
    fee := m'.fee
    feeDecimal := m'.feeDecimal
    tokenTransfer := m'.tokenTransfer
    algorand := m'.algorand }

/-- The same is made of the numbers. -/
def NumbersAlike (m m' : MappedTransaction) : Prop :=
  m.valueDecimal = m'.valueDecimal ∧ m.close = m'.close ∧ m.closesAccount = m'.closesAccount ∧
    m.valueTotal = m'.valueTotal ∧ m.fee = m'.fee ∧ m.feeDecimal = m'.feeDecimal ∧
    m.tokenTransfer = m'.tokenTransfer

/-- **One record is mapped alike**, but for the nulls that spoil it. -/
theorem mapFields_dropNulls (h : NumberRecord tx) :
    Agrees (fun m m' => SameButNumbers m m' ∧ (NumbersAlike m m' ↔ ¬Spoils top detail tx))
      (mapFields tx) (mapFields (dropRecord top detail inner tx)) := by
  unfold mapFields
  simp (disch := decide) only [get_dropRecord, signature_dropRecord]
  apply Agrees.bind_same
  intro key hkey
  apply Agrees.bind (extractMovement_dropNulls h hkey)
  rintro ⟨toAddress, value, transfer⟩ ⟨toAddress', value', transfer'⟩ - -
    ⟨hto, htransfer, hvalue⟩
  obtain rfl : toAddress = toAddress' := hto
  simp only at htransfer hvalue
  apply Agrees.bind (extractClose_dropNulls h hkey)
  rintro close close' - - hclose
  apply Agrees.bind_same
  intro timestamp _
  have hstring : valueString value = valueString value' := by
    rcases hvalue with ⟨rfl, -⟩ | ⟨rfl, rfl, -⟩
    · rfl
    · rfl
  apply Agrees.bind (nativeDecimal_dropNulls hvalue)
  rintro valueDecimal valueDecimal' - - hdecimal
  apply Agrees.bind (fee_dropNulls top detail inner tx)
  rintro feeDecimal feeDecimal' - - hfee
  apply Agrees.bind_same
  intro label _
  apply Agrees.bind_same
  intro signature _
  show SameButNumbers _ _ ∧ _
  rw [hstring]
  refine ⟨rfl, ?_⟩
  constructor
  · rintro ⟨hvalueEq, hcloseEq, -, -, hfeeEq, hfeeDecimalEq, htransferEq⟩ hspoils
    rcases hspoils with hdrops | hdrops | hdrops | hdrops
    · exact hfee.mp ⟨hfeeDecimalEq, hfeeEq⟩ hdrops
    · exact hdecimal.mp hvalueEq hdrops
    · exact hclose.mp hcloseEq hdrops
    · exact htransfer.mp htransferEq hdrops
  · intro hnot
    have hvalueEq := hdecimal.mpr fun h => hnot (.inr (.inl h))
    have hcloseEq := hclose.mpr fun h => hnot (.inr (.inr (.inl h)))
    have hfeeEq := hfee.mpr fun h => hnot (.inl h)
    have htransferEq := htransfer.mpr fun h => hnot (.inr (.inr (.inr h)))
    subst hcloseEq
    exact ⟨hvalueEq, rfl, rfl, rfl, hfeeEq.2, hfeeEq.1, htransferEq⟩

end

/-! ### Trees -/

/-- The deleted nulls change the response to the record, or to one of its inner records. -/
def Choice.Spoils : Choice → Json → Prop
  | .node top detail inner, .obj tx => Algorandscout.Spoils top detail tx ∨
      ∃ i r, (innerRecords (.obj tx))[i]? = some r ∧ (inner i).Spoils r
  | _, _ => False

theorem NumberTree.inner {tx r : Json} (h : NumberTree tx) (hr : r ∈ innerRecords tx) :
    NumberTree r := by
  intro r' hr'
  apply h
  rw [records_eq]
  exact List.mem_cons_of_mem _ (List.mem_flatMap.mpr ⟨r, hr, hr'⟩)

theorem NumberTree.root {tx : Json} (h : NumberTree tx) :
    ∃ members, tx = .obj members ∧ NumberRecord members := by
  apply h
  rw [records_eq]
  exact List.mem_cons_self

/-- **Every record is mapped alike**, but for the nulls that spoil one of them. -/
theorem mapTransaction_dropNulls (c : Choice) (tx : Json) (h : NumberTree tx) :
    Agrees (fun m m' => m.withoutRaw = m'.withoutRaw ↔ ¬c.Spoils tx)
      (mapTransaction tx) (mapTransaction (dropTx c tx)) := by
  induction c generalizing tx with
  | keep =>
    have hnone : ¬Choice.keep.Spoils tx := by
      unfold Choice.Spoils
      exact id
    unfold dropTx
    apply Agrees.refl
    intro m
    exact iff_of_true rfl hnone
  | node top detail inner ih =>
    obtain ⟨tx, rfl, hrecord⟩ := h.root
    have hdropped : innerTxns (dropRecord top detail (fun i r => dropTx (inner i) r) tx) =
        List.mapIdx (fun i r => dropTx (inner i) r) <$> innerTxns tx :=
      innerTxns_editRecord (by decide) tx
    unfold dropTx
    rw [mapTransaction_obj, mapTransaction_obj, hdropped]
    apply Agrees.bind (mapFields_dropNulls hrecord)
    rintro m m' - - ⟨hsame, hnumbers⟩
    obtain ⟨items, hinner⟩ := hrecord.renderable.exists_innerTxns
    have hrecords := innerRecords_obj hinner
    simp only [hinner, Except.map_ok, ok_bind]
    have hitems : Agrees (RelatedTo (fun i r m m' => m.withoutRaw = m'.withoutRaw ↔
        ¬(inner i).Spoils r) items) (items.mapM mapTransaction)
        ((items.mapIdx fun i r => dropTx (inner i) r).mapM mapTransaction) := by
      have hkept : (items.mapIdx fun _ r => r).mapM mapTransaction = items.mapM mapTransaction :=
        mapM_mapIdx_congr fun _ _ _ => rfl
      rw [← hkept]
      apply Agrees.mapM_mapIdx
      intro i r hr
      apply ih i r
      apply h.inner
      rw [hrecords]
      exact List.mem_of_getElem? hr
    apply Agrees.bind hitems
    rintro ms ms' - - hrel
    have hlist := hrel.map_eq_map_iff
    show MappedTransaction.withoutRaw _ = MappedTransaction.withoutRaw _ ↔ _
    rw [hsame, MappedTransaction.withoutRaw_eq, MappedTransaction.withoutRaw_eq]
    unfold Choice.Spoils
    simp only [List.length_mapIdx, MappedTransaction.mk.injEq, true_and, and_true]
    unfold NumbersAlike at hnumbers
    rw [not_or, ← hnumbers, hlist, hrecords]
    simp only [not_exists, not_and, and_assoc]

end Algorandscout
