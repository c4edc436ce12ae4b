import Algorandscout.Listings

namespace Algorandscout

open Library

/-!
# Confirmations at every depth

`map_transaction` leaves the confirmations to its caller at every depth, and `map_transaction_list`
fills them in on the items of the page only.

* `Confirmed` — a transaction with a round carries its confirmations;
* `ConfirmedAtDepth` — so does every transaction of the page, the internal ones included;
* `confirmed_listedTransaction`, `confirmed_mapped_iff` — what holds of an item, and of the
  transactions inside it;
* `confirmedAtDepth_iff` — the pages on which it holds at every depth.
-/

/-- A transaction with a round carries the rounds from it to the tip. -/
def Confirmed (tip : Int) (m : MappedTransaction) : Prop :=
  m.blockNumber.isNull = false →
    ∃ round, m.blockNumber.asInt = .ok round ∧ m.confirmations = some (max 0 (tip - round))

/-- Every transaction of the page does, top-level or inner. -/
def ConfirmedAtDepth (tip : Int) (page : Page MappedTransaction) : Prop :=
  ∀ item ∈ page.items, ∀ m ∈ item.all, Confirmed tip m

/-! ### Rounds of a payload -/

/-- The round of a record. -/
def roundOf : Json → Json
  | .obj members => Dict.get members "confirmed-round"
  | _ => .null

/-- The records of a page, those inside others aside. -/
def listedRecords : Json → List Json
  | .obj members => match listed members "transactions" with
    | .ok txs => txs
    | .error _ => []
  | _ => []

/-- The records inside a record, at every depth. -/
def innerTree (tx : Json) : List Json := (innerRecords tx).flatMap records

/-! ### Items -/

/-- An item is what the mapper makes of its record, but for the confirmations. -/
theorem listedTransaction_eq_ok {tip : Int} {tx : Json} {item : MappedTransaction}
    (h : listedTransaction (.int tip) tx = .ok item) :
    ∃ m, mapTransaction tx = .ok m ∧ item.blockNumber = m.blockNumber ∧
      item.internalTransactions = m.internalTransactions ∧ Confirmed tip item := by
  unfold listedTransaction at h
  obtain ⟨m, hm, h⟩ := bind_eq_ok.mp h
  refine ⟨m, hm, ?_⟩
  rw [Json.isNull_int, Bool.false_or] at h
  by_cases hnull : m.blockNumber.isNull = true
  · rw [if_pos hnull] at h
    obtain rfl := Except.ok.inj h
    refine ⟨rfl, rfl, fun hround => ?_⟩
    rw [hnull] at hround
    cases hround
  · rw [if_neg hnull, Json.asInt_int, ok_bind] at h
    obtain ⟨round, hround, hitem⟩ := bind_eq_ok.mp h
    obtain rfl := Except.ok.inj hitem
    exact ⟨rfl, rfl, fun _ => ⟨round, hround, rfl⟩⟩

/-- What the mapper alone makes of a record has no confirmations, so it must have no round. -/
theorem confirmed_mapped_iff {tip : Int} {r : Json} {m : MappedTransaction}
    (h : MappedFrom r m) : Confirmed tip m ↔ (roundOf r).isNull = true := by
  obtain ⟨members, mapped, rfl, hmapped, hm⟩ := h
  obtain ⟨hnone, detailKey, counterparty, value, hfields⟩ := mapFields_spec hmapped
  have hblock : m.blockNumber = roundOf (.obj members) := by
    rw [hm]
    exact hfields.blockNumber_eq
  have hconfirmations : m.confirmations = none := by
    rw [hm]
    exact hnone
  unfold Confirmed
  rw [hblock, hconfirmations]
  constructor
  · intro hconfirmed
    by_contra hround
    obtain ⟨round, -, hsome⟩ := hconfirmed (by simpa using hround)
    cases hsome
  · intro hnull hround
    rw [hnull] at hround
    cases hround

/-- The transactions inside an item, against the records inside its record. -/
theorem innerTree_mapped {tx : Json} {m : MappedTransaction} (h : mapTransaction tx = .ok m) :
    List.Forall₂ MappedFrom (innerTree tx)
      (m.internalTransactions.flatMap MappedTransaction.all) := by
  have hnodes := mapTransaction_nodes h
  rw [records_eq, MappedTransaction.all_eq] at hnodes
  cases hnodes with
  | cons _ hinner => exact hinner

/-- An item is confirmed throughout when no record inside its record has a round. -/
theorem confirmed_item_iff {tip : Int} {tx : Json} {item : MappedTransaction}
    (h : listedTransaction (.int tip) tx = .ok item) :
    (∀ m ∈ item.all, Confirmed tip m) ↔ ∀ r ∈ innerTree tx, (roundOf r).isNull = true := by
  obtain ⟨m, hm, -, hinternal, hconfirmed⟩ := listedTransaction_eq_ok h
  rw [MappedTransaction.all_eq, List.forall_mem_cons, hinternal]
  -- The loop has filled in the item itself.
  rw [and_iff_right hconfirmed]
  exact (forall_iff_of_forall₂ (innerTree_mapped hm)
    fun r _ m hfrom => (confirmed_mapped_iff hfrom).symm).symm

/-- **When a page is confirmed at every depth**: no record inside a record of the payload, at any
    depth, has a round. -/
theorem confirmedAtDepth_iff {tip : Int} {payload : Json} {page : Page MappedTransaction}
    (h : mapTransactionList payload (.int tip) = .ok page) :
    ConfirmedAtDepth tip page ↔
      ∀ tx ∈ listedRecords payload, ∀ r ∈ innerTree tx, (roundOf r).isNull = true := by
  unfold mapTransactionList at h
  obtain ⟨members, hmembers, hloop⟩ := bind_eq_ok.mp h
  obtain rfl := Json.asDict_eq_ok_iff.mp hmembers
  obtain ⟨txs, htxs, hmapped⟩ := bind_eq_ok.mp hloop
  obtain ⟨items, hitems, hpage⟩ := bind_eq_ok.mp hmapped
  obtain rfl := Except.ok.inj hpage
  have hlisted : listedRecords (.obj members) = txs := by
    unfold listedRecords
    simp only [htxs]
  rw [hlisted]
  exact (forall_iff_of_forall₂ (mapM_eq_ok_iff.mp hitems)
    fun tx _ item hitem => (confirmed_item_iff hitem).symm).symm

/-! ### Two pages -/

/-- A payment of round 100. -/
def innerPayment : Dict :=
  [("tx-type", .str "pay"), ("sender", .str "APP"), ("confirmed-round", .int 100),
    ("payment-transaction", .obj [("receiver", .str "USER"), ("amount", .int 1)])]

/-- An application call of round 100 that makes the given inner transactions. -/
def appCall (inner : List Json) : Dict :=
  [("tx-type", .str "appl"), ("sender", .str "SENDER"), ("confirmed-round", .int 100),
    ("application-transaction", .obj [("application-id", .int 1002541853)]),
    ("inner-txns", .arr inner)]

/-- A page with the call on it. -/
def callPage (inner : List Json) : Json := .obj [("transactions", .arr [.obj (appCall inner)])]

theorem innerTxns_appCall (inner : List Json) : innerTxns (appCall inner) = .ok inner := by
  cases inner with
  | nil => rfl
  | cons i inner => rfl

/-- The page is mapped when the inner transactions are. -/
theorem exists_page_of_appCall {inner : List Json} {internal : List MappedTransaction}
    (hinternal : inner.mapM mapTransaction = .ok internal) (tip : Int) :
    ∃ item, listedTransaction (.int tip) (.obj (appCall inner)) = .ok item ∧
      mapTransactionList (callPage inner) (.int tip) = .ok ⟨[item], none⟩ := by
  have hcall : ∃ m, mapTransaction (.obj (appCall inner)) = .ok m ∧ m.blockNumber = .int 100 := by
    rw [mapTransaction_obj, innerTxns_appCall]
    show ∃ m, (inner.mapM mapTransaction >>= _) = .ok m ∧ _
    rw [hinternal]
    exact ⟨_, rfl, rfl⟩
  obtain ⟨m, hm, hblock⟩ := hcall
  have hitem : ∃ item, listedTransaction (.int tip) (.obj (appCall inner)) = .ok item := by
    unfold listedTransaction
    rw [hm, ok_bind, hblock]
    exact ⟨_, rfl⟩
  obtain ⟨item, hitem⟩ := hitem
  refine ⟨item, hitem, ?_⟩
  show ([Json.obj (appCall inner)].mapM (listedTransaction (.int tip)) >>= _) = _
  rw [List.mapM_cons, List.mapM_nil, hitem]
  rfl

/-- A call without inner transactions is confirmed at every depth. -/
theorem confirmedAtDepth_plain_call :
    ∃ page, mapTransactionList (callPage []) (.int 200) = .ok page ∧
      ConfirmedAtDepth 200 page := by
  have hinternal : ([] : List Json).mapM mapTransaction = .ok [] := rfl
  obtain ⟨item, -, hpage⟩ := exists_page_of_appCall hinternal 200
  refine ⟨_, hpage, (confirmedAtDepth_iff hpage).mpr ?_⟩
  intro tx htx r hr
  obtain rfl := List.mem_singleton.mp htx
  rw [innerTree, innerRecords_obj (innerTxns_appCall [])] at hr
  cases hr

/-- The payment inside a call has its round and no confirmations. -/
theorem inner_payment_not_confirmed :
    ∃ page, mapTransactionList (callPage [.obj innerPayment]) (.int 200) = .ok page ∧
      ¬ ConfirmedAtDepth 200 page := by
  have hinternal : ∃ internal,
      [Json.obj innerPayment].mapM mapTransaction = .ok internal := by
    rw [List.mapM_cons, List.mapM_nil, mapTransaction_leaf rfl]
    exact ⟨_, rfl⟩
  obtain ⟨internal, hinternal⟩ := hinternal
  obtain ⟨item, hitem, hpage⟩ := exists_page_of_appCall hinternal 200
  refine ⟨_, hpage, fun hconfirmed => ?_⟩
  have hnone := (confirmed_item_iff hitem).mp (hconfirmed item List.mem_cons_self)
  have hmem : Json.obj innerPayment ∈ innerTree (.obj (appCall [.obj innerPayment])) := by
    rw [innerTree, innerRecords_obj (innerTxns_appCall _), List.flatMap_singleton, records_eq]
    exact List.mem_cons_self
  -- Its round is 100.
  cases hnone _ hmem

end Algorandscout
