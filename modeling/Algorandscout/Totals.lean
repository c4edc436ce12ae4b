import Algorandscout.Amounts

namespace Algorandscout

open Library

/-!
# `value` and `value_total`

`value_total` is meant to be `value` plus what a close sweeps on top of it.

* `OneUnit` — the law, on one mapped transaction;
* `ClosesMovedHolding` — the records that break it: an asset transfer that closes the holding
  after moving some of it, whose `value` is in the native coin and whose `value_total` in units
  of the asset;
* `value_total_iff` — the law holds throughout a mapped tree exactly when no record of the raw
  one is of that kind;
* `movedHolding_breaks_law` — such a record.
-/

/-- `int(value_total) = int(value) + (int(close.close_amount) if close is not null else 0)`. -/
def OneUnit (m : MappedTransaction) : Prop :=
  parseAmount m.valueTotal =
    parseAmount m.value + (m.close.map fun c => parseAmount c.closeAmount).getD 0

/-- The amounts of a record that its type makes the mapper read are integers. -/
structure IntegerRecord (tx : Dict) : Prop where
  payment : tx.get "tx-type" = .str "pay" →
    IsInteger (typedDetail tx "payment-transaction") "amount" ∧
      IsInteger (typedDetail tx "payment-transaction") "close-amount" ∧
      IsInteger tx "closing-amount"
  assetTransfer : tx.get "tx-type" = .str "axfer" →
    IsInteger (typedDetail tx "asset-transfer-transaction") "amount" ∧
      IsInteger (typedDetail tx "asset-transfer-transaction") "close-amount"

/-- The amounts of every record of the tree are integers. -/
def IntegerAmounts (tx : Json) : Prop :=
  ∀ members, .obj members ∈ records tx → IntegerRecord members

/-- An asset transfer of a nonzero amount with a close target. -/
def ClosesMovedHolding (tx : Dict) : Prop :=
  tx.get "tx-type" = .str "axfer" ∧
    (clean ((typedDetail tx "asset-transfer-transaction").get "close-to")).truthy = true ∧
    amountOf (typedDetail tx "asset-transfer-transaction") "amount" ≠ 0

/-! ### One record -/

section Record

variable {tx : Dict} {m : MappedTransaction} {detailKey : Option String} {counterparty value : Json}

/-- What closes nothing has one number for both. -/
theorem FieldsOf.valueTotal_of_no_close (hfields : FieldsOf tx m detailKey counterparty value)
    (h : m.close = none) : m.valueTotal = m.value := by
  rw [hfields.valueTotal_eq, hfields.value_eq, h]
  rfl

theorem FieldsOf.oneUnit_of_no_close (hfields : FieldsOf tx m detailKey counterparty value)
    (h : m.close = none) : OneUnit m := by
  unfold OneUnit
  rw [hfields.valueTotal_of_no_close h, h]
  simp

/-- The law on a closing transaction compares the total of the close with its parts. -/
theorem FieldsOf.oneUnit_close_iff (hfields : FieldsOf tx m detailKey counterparty value)
    {c : Close} (h : m.close = some c) :
    OneUnit m ↔ parseAmount c.valueTotal = parseAmount m.value + parseAmount c.closeAmount := by
  unfold OneUnit
  rw [hfields.valueTotal_eq, h]
  rfl

/-- **One record keeps the law** unless it closes a holding after moving some of it. -/
theorem FieldsOf.oneUnit_iff (hfields : FieldsOf tx m detailKey counterparty value)
    (hint : IntegerRecord tx) : OneUnit m ↔ ¬ClosesMovedHolding tx := by
  by_cases hpay : tx.get "tx-type" = .str "pay"
  · have hkeeps : ¬ClosesMovedHolding tx := by
      intro h
      have htype := Json.str.inj (hpay.symm.trans h.1)
      exact absurd htype (by decide)
    obtain ⟨hamount, hcloseAmount, hclosing⟩ := hint.payment hpay
    obtain ⟨-, hvalue, -, hclose⟩ := hfields.payment hpay rfl hamount hcloseAmount hclosing
    split_ifs at hclose with htarget
      -- Both numbers are in the native coin.
    · rw [hfields.oneUnit_close_iff hclose, hvalue]
      simp [hkeeps]
    · exact iff_of_true (hfields.oneUnit_of_no_close hclose) hkeeps
  · by_cases haxfer : tx.get "tx-type" = .str "axfer"
    · obtain ⟨hamount, hcloseAmount⟩ := hint.assetTransfer haxfer
      obtain ⟨hvalue, -, hclose⟩ := hfields.assetTransfer haxfer rfl hamount hcloseAmount
      split_ifs at hclose with htarget
      · -- The value is zero, the total has the amount in it.
        rw [hfields.oneUnit_close_iff hclose, hvalue]
        simp only [transferClose_valueTotal, transferClose_closeAmount, parseAmount_toString]
        unfold ClosesMovedHolding
        simp only [haxfer, htarget, true_and, not_not]
        omega
      · refine iff_of_true (hfields.oneUnit_of_no_close hclose) ?_
        intro h
        exact htarget h.2.1
    · obtain ⟨-, -, hclose⟩ := hfields.other hpay haxfer
      refine iff_of_true (hfields.oneUnit_of_no_close hclose) ?_
      intro h
      exact haxfer h.1

/-- The record with a close target set and nothing left for it to sweep. -/
def addCloseTarget (tx : Dict) (target : String) : Dict :=
  if (tx.get "tx-type").eqStr "pay" then
    tx.insert "payment-transaction" (.obj (((typedDetail tx "payment-transaction").insert
      "close-remainder-to" (.str target)).insert "close-amount" (.int 0)))
  else if (tx.get "tx-type").eqStr "axfer" then
    tx.insert "asset-transfer-transaction" (.obj (((typedDetail tx
      "asset-transfer-transaction").insert "close-to" (.str target)).insert
        "close-amount" (.int 0)))
  else tx

/-- The type is not touched. -/
theorem addCloseTarget_type (tx : Dict) (target : String) :
    (addCloseTarget tx target).get "tx-type" = tx.get "tx-type" := by
  unfold addCloseTarget
  split_ifs
  · rw [Dict.get_insert, if_neg (by decide)]
  · rw [Dict.get_insert, if_neg (by decide)]
  · rfl

theorem addCloseTarget_pay (htype : tx.get "tx-type" = .str "pay") (target : String) :
    typedDetail (addCloseTarget tx target) "payment-transaction" =
      ((typedDetail tx "payment-transaction").insert "close-remainder-to" (.str target)).insert
        "close-amount" (.int 0) := by
  unfold addCloseTarget
  rw [if_pos (Json.eqStr_iff.mpr htype), typedDetail_insert_self]

theorem addCloseTarget_axfer (htype : tx.get "tx-type" = .str "axfer") (target : String) :
    typedDetail (addCloseTarget tx target) "asset-transfer-transaction" =
      ((typedDetail tx "asset-transfer-transaction").insert "close-to" (.str target)).insert
        "close-amount" (.int 0) := by
  have hpay : ¬(tx.get "tx-type").eqStr "pay" = true := by
    rw [htype]
    decide
  unfold addCloseTarget
  rw [if_neg hpay, if_pos (Json.eqStr_iff.mpr htype), typedDetail_insert_self]

/-- Setting a close target leaves the amounts integers. -/
theorem IntegerRecord.addCloseTarget (h : IntegerRecord tx) (target : String) :
    IntegerRecord (addCloseTarget tx target) := by
  refine ⟨fun htype => ?_, fun htype => ?_⟩
  · rw [addCloseTarget_type] at htype
    obtain ⟨hamount, -, hclosing⟩ := h.payment htype
    rw [addCloseTarget_pay htype]
    refine ⟨(hamount.insert _ (by decide)).insert _ (by decide), IsInteger.insert_self _ _ _, ?_⟩
    unfold Algorandscout.addCloseTarget
    rw [if_pos (Json.eqStr_iff.mpr htype)]
    exact hclosing.insert _ (by decide)
  · rw [addCloseTarget_type] at htype
    obtain ⟨hamount, -⟩ := h.assetTransfer htype
    rw [addCloseTarget_axfer htype]
    exact ⟨(hamount.insert _ (by decide)).insert _ (by decide), IsInteger.insert_self _ _ _⟩

variable {target : String} {m' : MappedTransaction} {detailKey' : Option String}
  {counterparty' value' : Json}

/-- A close target that sweeps nothing keeps the value. -/
theorem FieldsOf.addCloseTarget_eq (hfields : FieldsOf tx m detailKey counterparty value)
    (hfields' : FieldsOf (addCloseTarget tx target) m' detailKey' counterparty' value')
    (hint : IntegerRecord tx) :
    m'.value = m.value ∧ (m'.close.map fun c => parseAmount c.closeAmount).getD 0 = 0 := by
  have hint' := hint.addCloseTarget target
  have htype' := addCloseTarget_type tx target
  by_cases hpay : tx.get "tx-type" = .str "pay"
  · rw [hpay] at htype'
    obtain ⟨hamount, hcloseAmount, hclosing⟩ := hint.payment hpay
    obtain ⟨hamount', hcloseAmount', hclosing'⟩ := hint'.payment htype'
    obtain ⟨-, hvalue, -⟩ := hfields.payment hpay rfl hamount hcloseAmount hclosing
    obtain ⟨-, hvalue', -, hclose'⟩ :=
      hfields'.payment htype' rfl hamount' hcloseAmount' hclosing'
    rw [addCloseTarget_pay hpay] at hvalue' hclose'
    constructor
    · rw [hvalue, hvalue', amountOf_insert, if_neg (by decide), amountOf_insert,
        if_neg (by decide)]
    · rw [hclose']
      split_ifs
      · simp [sweptAmount_insert_self]
      · rfl
  · by_cases haxfer : tx.get "tx-type" = .str "axfer"
    · rw [haxfer] at htype'
      obtain ⟨hamount, hcloseAmount⟩ := hint.assetTransfer haxfer
      obtain ⟨hamount', hcloseAmount'⟩ := hint'.assetTransfer htype'
      obtain ⟨hvalue, -, -⟩ := hfields.assetTransfer haxfer rfl hamount hcloseAmount
      obtain ⟨hvalue', -, hclose'⟩ := hfields'.assetTransfer htype' rfl hamount' hcloseAmount'
      rw [addCloseTarget_axfer haxfer] at hclose'
      constructor
      · rw [hvalue, hvalue']
      · rw [hclose']
        split_ifs
        · simp
        · rfl
    · obtain ⟨hvalue, -, -⟩ := hfields.other hpay haxfer
      obtain ⟨hvalue', -, hclose'⟩ := hfields'.other (htype' ▸ hpay) (htype' ▸ haxfer)
      rw [hvalue, hvalue', hclose']
      exact ⟨rfl, rfl⟩

/-- **A close target that sweeps nothing keeps the total** unless some of the holding was moved
    first. -/
theorem FieldsOf.addCloseTarget_total_iff (hfields : FieldsOf tx m detailKey counterparty value)
    (hfields' : FieldsOf (addCloseTarget tx target) m' detailKey' counterparty' value')
    (hint : IntegerRecord tx) (hopen : m.close = none) :
    parseAmount m'.valueTotal = parseAmount m.valueTotal ↔
      ¬ClosesMovedHolding (addCloseTarget tx target) := by
  -- With nothing swept, the law says that the total is the value, which is the total before.
  obtain ⟨hvalue, hswept⟩ := hfields.addCloseTarget_eq hfields' hint
  rw [← hfields'.oneUnit_iff (hint.addCloseTarget target), OneUnit, hvalue, hswept, add_zero,
    hfields.valueTotal_of_no_close hopen]

end Record

/-! ### The whole tree -/

/-- **`value` and `value_total` are in one unit** throughout the mapped tree exactly when no
    record closes a holding after moving some of it.  What closes nothing has one number for
    both; a close target that sweeps nothing keeps the total under the same condition on the
    record with that target added. -/
theorem value_total_iff {tx : Dict} {m : MappedTransaction} (hint : IntegerAmounts (.obj tx))
    (hm : mapTransaction (.obj tx) = .ok m) :
    ((∀ n ∈ m.all, OneUnit n) ↔ ∀ members, .obj members ∈ records (.obj tx) →
      ¬ClosesMovedHolding members) ∧
    (∀ n ∈ m.all, n.close = none → n.valueTotal = n.value) ∧
    ∀ target m', mapTransaction (.obj (addCloseTarget tx target)) = .ok m' → m.close = none →
      (parseAmount m'.valueTotal = parseAmount m.valueTotal ↔
        ¬ClosesMovedHolding (addCloseTarget tx target)) := by
  have hnodes := mapTransaction_nodes hm
  have hroot : IntegerRecord tx := by
    apply hint
    rw [records_eq]
    exact List.mem_cons_self
  refine ⟨?_, ?_, ?_⟩
  · have hlaw := forall_iff_of_forall₂ hnodes (P := fun r =>
      ∀ members, r = .obj members → ¬ClosesMovedHolding members) (Q := OneUnit) ?_
    · rw [← hlaw]
      constructor
      · intro h members hmembers
        exact h _ hmembers members rfl
      · intro h r hr members hobj
        exact h members (hobj ▸ hr)
    · intro r hr n hn
      obtain ⟨members, detailKey, counterparty, value, rfl, hfields⟩ := hn.fieldsOf
      rw [hfields.oneUnit_iff (hint members hr)]
      constructor
      · intro h
        exact h members rfl
      · intro h members' hobj
        exact Json.obj.inj hobj ▸ h
  · have hopen := forall_iff_of_forall₂ hnodes (P := fun _ => True)
      (Q := fun n => n.close = none → n.valueTotal = n.value) ?_
    · exact hopen.mp fun _ _ => trivial
    · intro r hr n hn
      obtain ⟨members, detailKey, counterparty, value, -, hfields⟩ := hn.fieldsOf
      exact iff_of_true trivial hfields.valueTotal_of_no_close
  · intro target m' hm' hopen
    obtain ⟨members, detailKey, counterparty, value, heq, hfields⟩ :=
      (mapTransaction_eq_ok_iff.mp hm).1.fieldsOf
    obtain ⟨members', detailKey', counterparty', value', heq', hfields'⟩ :=
      (mapTransaction_eq_ok_iff.mp hm').1.fieldsOf
    obtain rfl := Json.obj.inj heq
    obtain rfl := Json.obj.inj heq'
    exact hfields.addCloseTarget_total_iff hfields' hroot hopen

/-- An account that closes: 100 to `R`, the rest to `CLOSER`. -/
def closingPayment : Dict :=
  [("tx-type", .str "pay"), ("sender", .str "S"), ("fee", .int 1000), ("closing-amount", .int 42),
    ("payment-transaction", .obj
      [("receiver", .str "R"), ("amount", .int 100), ("close-remainder-to", .str "CLOSER")])]

/-- An application call with that payment inside it. -/
def callThatCloses : Dict :=
  [("tx-type", .str "appl"), ("sender", .str "A"), ("fee", .int 2000),
    ("application-transaction", .obj [("application-id", .int 7)]),
    ("inner-txns", .arr [.obj closingPayment])]

theorem records_callThatCloses :
    records (.obj callThatCloses) = [.obj callThatCloses, .obj closingPayment] := by
  have hinner : innerRecords (.obj callThatCloses) = [.obj closingPayment] := rfl
  have hleaf : innerTxns closingPayment = .ok [] := rfl
  rw [records_eq, hinner, List.flatMap_singleton, records_leaf hleaf]

theorem exists_mapTransaction_callThatCloses :
    ∃ m, mapTransaction (.obj callThatCloses) = .ok m := by
  apply exists_mapTransaction_eq_ok
  intro r hr
  rw [records_callThatCloses, List.mem_cons, List.mem_singleton] at hr
  rcases hr with rfl | rfl
  · exact ⟨⟨_, _, rfl, rfl⟩, _, _, rfl, rfl⟩
  · exact ⟨⟨_, _, rfl, rfl⟩, _, _, rfl, rfl⟩

/-- The call and the payment inside it keep the law: 100 to `R` and 42 swept make 142. -/
theorem callThatCloses_in_one_unit :
    ∃ m, mapTransaction (.obj callThatCloses) = .ok m ∧ ∀ n ∈ m.all, OneUnit n := by
  obtain ⟨m, hm⟩ := exists_mapTransaction_callThatCloses
  have hint : IntegerAmounts (.obj callThatCloses) := by
    intro members hmembers
    rw [records_callThatCloses, List.mem_cons, List.mem_singleton, Json.obj.injEq,
      Json.obj.injEq] at hmembers
    rcases hmembers with rfl | rfl
    · exact ⟨fun h => absurd (Json.str.inj h) (by decide),
        fun h => absurd (Json.str.inj h) (by decide)⟩
    · refine ⟨fun _ => ?_, fun h => absurd (Json.str.inj h) (by decide)⟩
      exact ⟨IsInteger.of_lookup (n := 100) rfl, IsInteger.of_absent rfl,
        IsInteger.of_lookup (n := 42) rfl⟩
  refine ⟨m, hm, (value_total_iff hint hm).1.mpr ?_⟩
  intro members hmembers hcloses
  rw [records_callThatCloses, List.mem_cons, List.mem_singleton, Json.obj.injEq,
    Json.obj.injEq] at hmembers
  rcases hmembers with rfl | rfl
  · exact absurd (Json.str.inj hcloses.1) (by decide)
  · exact absurd (Json.str.inj hcloses.1) (by decide)

/-! ### The defect -/

/-- An account that gives 10 units of an asset to `R` and its last 5 to `CLOSER`. -/
def closingTransfer : Dict :=
  [("id", .str "CCC"), ("tx-type", .str "axfer"), ("sender", .str "S"), ("fee", .int 1000),
    ("confirmed-round", .int 1),
    ("asset-transfer-transaction", .obj
      [("asset-id", .int 31566704), ("receiver", .str "R"), ("amount", .int 10),
        ("close-to", .str "CLOSER"), ("close-amount", .int 5)])]

/-- **A transfer that closes a holding breaks the law**: its value is 0 units of the native coin
    and its total 15 units of the asset, of which the close swept 5. -/
theorem closingTransfer_breaks_law : ∃ m, IntegerAmounts (.obj closingTransfer) ∧
    mapTransaction (.obj closingTransfer) = .ok m ∧
    m.value = "0" ∧ m.valueTotal = "15" ∧ m.close.map (·.closeAmount) = some "5" ∧
    ¬OneUnit m := by
  have hleaf : innerTxns closingTransfer = .ok [] := rfl
  refine ⟨_, ?_, mapTransaction_leaf hleaf, rfl, rfl, rfl, ?_⟩
  · intro members hmembers
    rw [records_leaf hleaf, List.mem_singleton, Json.obj.injEq] at hmembers
    subst hmembers
    refine ⟨fun h => absurd (Json.str.inj h) (by decide), fun _ => ?_⟩
    exact ⟨IsInteger.of_lookup (n := 10) rfl, IsInteger.of_lookup (n := 5) rfl⟩
  · intro h
    have hsum : (15 : Int) = 0 + 5 := by
      rw [← parseAmount_repr 15, ← parseAmount_repr 0, ← parseAmount_repr 5]
      exact h
    exact absurd hsum (by decide)

end Algorandscout
