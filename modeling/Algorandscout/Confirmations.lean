import Algorandscout.Listings
import Algorandscout.Service

namespace Algorandscout

open Library

/-!
# Confirmations on the two transaction routes

`get_transaction` serves a record with the tip of its payload, `map_transaction_list` makes an item
of it with the tip of the page.  They ask in different ways whether the tip and the round are there.

* `run_getTransaction_of_miss` — what `get_transaction` serves on a cache miss;
* `RoutesAgree` — both give the same, with confirmations when the record has a round;
* `routesAgree_iff` — when they do.
-/

/-! ### The two routes on one record -/

variable {now : ℚ} {answer : Call → Except AlgorandError Json} {cache : TTLCache Json}

/-- On a cache miss, the route serves what the upstream's payload gives. -/
theorem run_getTransaction_of_miss {txid : String} {payload : Json}
    (hvalid : validateTxid txid = .ok txid) (hmiss : (cache.get now "transaction" txid).1 = none)
    (hanswer : answer (.transaction txid) = .ok payload) :
    ((getTransaction txid).run (atOnce now answer) cache).1 = transactionResponse payload := by
  rw [run_getTransaction hvalid, hanswer]
  show ((cache.getOrFetch now now "transaction" txid (.ok payload.asValue)).1.mapError _).bind _ = _
  rw [TTLCache.getOrFetch_of_miss hmiss]
  show transactionResponse (Json.ofValue payload.asValue) = _
  rw [Json.ofValue_asValue]

/-- A payload that holds the record and the tip. -/
structure Holds (payload : Dict) (record : Dict) (tip : ℕ) : Prop where
  transaction : payload.get "transaction" = .obj record
  currentRound : payload.get "current-round" = .int tip

/-- A page with the record on it. -/
def pageOf (record : Dict) : Json := .obj [("transactions", .arr [.obj record])]

/-- The record has a confirmed round: the member is there, and is not null. -/
def HasRound (record : Dict) : Prop := (record.get "confirmed-round").isNull = false

/-- The item has confirmations exactly when the record has a round, which is exactly when its
    status is `ok`. -/
def ConfirmedAlike (record : Dict) (item : MappedTransaction) : Prop :=
  (item.confirmations.isSome ↔ HasRound record) ∧ (HasRound record ↔ item.status = "ok")

/-- The object served by the single route is the item on the page, and either is confirmed as the
    record says. -/
structure RoutesAgree (record : Dict) (served : Except ServiceError MappedTransaction)
    (page : Except PyError (Page MappedTransaction)) : Prop where
  same : (served.map fun item => ⟨[item], none⟩) = mapping page
  served_confirmed : ∀ item, served = .ok item → ConfirmedAlike record item
  listed_confirmed : ∀ item, page = .ok ⟨[item], none⟩ → ConfirmedAlike record item

/-- What `map_transaction` says of the confirmation of a record. -/
theorem confirmation_of_mapTransaction {record : Dict} {m : MappedTransaction}
    (h : mapTransaction (.obj record) = .ok m) :
    m.confirmations = none ∧ m.blockNumber = record.get "confirmed-round" ∧
      m.status = if (record.get "confirmed-round").truthy then "ok" else "pending" := by
  obtain ⟨⟨members, mapped, heq, hmapped, hm⟩, -⟩ := mapTransaction_eq_ok_iff.mp h
  obtain rfl := Json.obj.inj heq
  obtain ⟨hnone, detailKey, counterparty, value, hfields⟩ := mapFields_spec hmapped
  -- The inner transactions are none of the three.
  rw [hm]
  exact ⟨hnone, hfields.blockNumber_eq, hfields.status_eq⟩

/-- A page with one record has one item. -/
theorem mapTransactionList_pageOf (record : Dict) (chainTip : Json) :
    mapTransactionList (pageOf record) chainTip =
      (listedTransaction chainTip (.obj record)).map fun item => ⟨[item], none⟩ := by
  show ([Json.obj record].mapM (listedTransaction chainTip) >>= _) = _
  rw [List.mapM_cons, List.mapM_nil]
  cases listedTransaction chainTip (.obj record) with
  | ok item => rfl
  | error e => rfl

/-- The single route on a record: the mapper, then the confirmations. -/
theorem transactionResponse_of_holds {members record : Dict} {tip : ℕ}
    (h : Holds members record tip) (hne : record ≠ []) :
    transactionResponse (.obj members) =
      mapping (mapTransaction (.obj record) >>= fun mapped =>
        (confirmationsOf (.int tip) mapped.blockNumber).map fun confirmations =>
          { mapped with confirmations }) := by
  have htruthy : (Json.obj record).truthy = true := by simpa using hne
  unfold transactionResponse mapping
  simp only [Json.asDict_obj, Except.mapError, ok_bind, h.transaction, h.currentRound, htruthy]
  cases mapTransaction (.obj record) with
  | error e => rfl
  | ok m =>
    simp only [ok_bind]
    cases confirmationsOf (.int tip) m.blockNumber with
    | error e => rfl
    | ok confirmations => rfl

/-- The item of a record: the mapper, then the confirmations, if the record has a round. -/
theorem listedTransaction_eq {record : Dict} {m : MappedTransaction} (tip : ℕ)
    (hm : mapTransaction (.obj record) = .ok m) :
    listedTransaction (.int tip) (.obj record) =
      if m.blockNumber.isNull then .ok m
      else m.blockNumber.asInt.map fun round =>
        { m with confirmations := some (max 0 ((tip : Int) - round)) } := by
  unfold listedTransaction
  rw [hm]
  simp only [ok_bind, Json.isNull_int, Bool.false_or, Json.asInt_int]
  split_ifs with hnull
  · rfl
  · cases m.blockNumber.asInt with
    | error e => rfl
    | ok round => rfl

/-! ### When they agree -/

/-- The mapper raises on the record. -/
def Rejected (record : Dict) : Prop := ∃ e, mapTransaction (.obj record) = .error e

/-- The record has no round, or one that is not zero, with a tip that is not zero. -/
def PlainRound (record : Dict) (tip : ℕ) : Prop :=
  (record.get "confirmed-round").isNull = true ∨
    (record.get "confirmed-round").truthy = true ∧ tip ≠ 0

theorem with_confirmations_none {m : MappedTransaction} (h : m.confirmations = none) :
    { m with confirmations := none } = m := by
  cases m
  cases h
  rfl

/-- The single route on a record that the mapper takes. -/
theorem served_of_holds {members record : Dict} {tip : ℕ} (h : Holds members record tip)
    (hne : record ≠ []) {m : MappedTransaction} (hm : mapTransaction (.obj record) = .ok m) :
    transactionResponse (.obj members) =
      if tip ≠ 0 ∧ m.blockNumber.truthy = true then
        mapping (m.blockNumber.asInt.map fun round =>
          { m with confirmations := some (max 0 ((tip : Int) - round)) })
      else .ok m := by
  have hnone := (confirmation_of_mapTransaction hm).1
  rw [transactionResponse_of_holds h hne, hm, ok_bind]
  unfold confirmationsOf
  by_cases htip : tip = 0
  · rw [if_neg (by simp [htip]), if_neg (by simp [htip])]
    exact congrArg Except.ok (with_confirmations_none hnone)
  · by_cases htruthy : m.blockNumber.truthy = true
    · rw [if_pos (by simp [htip, htruthy]), if_pos ⟨htip, htruthy⟩]
      cases m.blockNumber.asInt with
      | error e => rfl
      | ok round => rfl
    · rw [if_neg (by simp [htruthy]), if_neg (by simp [htruthy])]
      exact congrArg Except.ok (with_confirmations_none hnone)

/-- An item without confirmations is confirmed alike when the record has no round. -/
theorem confirmedAlike_of_null {record : Dict} {m : MappedTransaction}
    (hm : mapTransaction (.obj record) = .ok m)
    (hnull : (record.get "confirmed-round").isNull = true) : ConfirmedAlike record m := by
  obtain ⟨hnone, -, hstatus⟩ := confirmation_of_mapTransaction hm
  have hround : ¬ HasRound record := by
    unfold HasRound
    simp [hnull]
  rw [Json.truthy_of_isNull hnull] at hstatus
  constructor
  · simp [hnone, hround]
  · simp [hstatus, hround]

/-- An item with confirmations is confirmed alike when the record's round is not zero. -/
theorem confirmedAlike_of_truthy {record : Dict} {m : MappedTransaction}
    (hm : mapTransaction (.obj record) = .ok m)
    (htruthy : (record.get "confirmed-round").truthy = true) (confirmations : Int) :
    ConfirmedAlike record { m with confirmations := some confirmations } := by
  obtain ⟨-, -, hstatus⟩ := confirmation_of_mapTransaction hm
  have hround : HasRound record := Json.isNull_of_truthy htruthy
  rw [if_pos htruthy] at hstatus
  constructor
  · simp [hround]
  · simp [hstatus, hround]

/-- The two routes agree on an exception. -/
theorem RoutesAgree.of_error (record : Dict) (e : PyError) :
    RoutesAgree record (.error (.unhandled e)) (.error e) := by
  refine ⟨rfl, ?_, ?_⟩
  · rintro item ⟨⟩
  · rintro item ⟨⟩

/-- The two routes agree on an item that is confirmed alike. -/
theorem RoutesAgree.of_ok {record : Dict} {item : MappedTransaction}
    (h : ConfirmedAlike record item) : RoutesAgree record (.ok item) (.ok ⟨[item], none⟩) := by
  refine ⟨rfl, ?_, ?_⟩
  · rintro item' ⟨⟩
    exact h
  · rintro item' ⟨⟩
    exact h

section

variable {members record : Dict} {tip : ℕ} {m : MappedTransaction}

/-- Without a record there is nothing to serve, and still an item on the page. -/
theorem not_routesAgree_nil (h : Holds members [] tip) (chainTip : Json) :
    ¬ RoutesAgree [] (transactionResponse (.obj members))
      (mapTransactionList (pageOf []) chainTip) := by
  intro hagree
  have hserved : transactionResponse (.obj members) =
      .error (.http ⟨404, "transaction not found"⟩) := by
    unfold transactionResponse mapping
    simp only [Json.asDict_obj, Except.mapError, ok_bind, h.transaction]
    rfl
  have hsame := hagree.same
  rw [hserved] at hsame
  cases hpage : mapTransactionList (pageOf []) chainTip with
  | ok page =>
    rw [hpage] at hsame
    cases hsame
  | error e =>
    rw [hpage] at hsame
    cases hsame

/-- Neither route has a record that the mapper raises on. -/
theorem routesAgree_of_rejected (h : Holds members record tip) (hne : record ≠ []) {e : PyError}
    (he : mapTransaction (.obj record) = .error e) :
    RoutesAgree record (transactionResponse (.obj members))
      (mapTransactionList (pageOf record) (.int tip)) := by
  rw [mapTransactionList_pageOf, transactionResponse_of_holds h hne]
  unfold listedTransaction
  rw [he]
  exact .of_error record e

/-- Neither route counts confirmations of a record without a round. -/
theorem routesAgree_of_null (h : Holds members record tip) (hne : record ≠ [])
    (hm : mapTransaction (.obj record) = .ok m)
    (hnull : (record.get "confirmed-round").isNull = true) :
    RoutesAgree record (transactionResponse (.obj members))
      (mapTransactionList (pageOf record) (.int tip)) := by
  have hblock := (confirmation_of_mapTransaction hm).2.1
  rw [mapTransactionList_pageOf, served_of_holds h hne hm, listedTransaction_eq tip hm, hblock,
    if_neg (by simp [Json.truthy_of_isNull hnull]), if_pos hnull]
  exact .of_ok (confirmedAlike_of_null hm hnull)

/-- Both routes count the confirmations of a round that is not zero, at a tip that is not zero. -/
theorem routesAgree_of_truthy (h : Holds members record tip) (hne : record ≠ [])
    (hm : mapTransaction (.obj record) = .ok m)
    (htruthy : (record.get "confirmed-round").truthy = true) (htip : tip ≠ 0) :
    RoutesAgree record (transactionResponse (.obj members))
      (mapTransactionList (pageOf record) (.int tip)) := by
  have hblock := (confirmation_of_mapTransaction hm).2.1
  rw [mapTransactionList_pageOf, served_of_holds h hne hm, listedTransaction_eq tip hm, hblock,
    if_pos ⟨htip, htruthy⟩, if_neg (by simp [Json.isNull_of_truthy htruthy])]
  cases (record.get "confirmed-round").asInt with
  | error e => exact .of_error record e
  | ok round => exact .of_ok (confirmedAlike_of_truthy hm htruthy (max 0 ((tip : Int) - round)))

/-- Otherwise the single route leaves the confirmations out, although there is a round. -/
theorem not_routesAgree_of_leftOut (h : Holds members record tip) (hne : record ≠ [])
    (hm : mapTransaction (.obj record) = .ok m) (hround : HasRound record)
    (hout : ¬ (tip ≠ 0 ∧ (record.get "confirmed-round").truthy = true)) :
    ¬ RoutesAgree record (transactionResponse (.obj members))
      (mapTransactionList (pageOf record) (.int tip)) := by
  obtain ⟨hnone, hblock, -⟩ := confirmation_of_mapTransaction hm
  intro hagree
  have hserved : transactionResponse (.obj members) = .ok m := by
    rw [served_of_holds h hne hm, hblock, if_neg hout]
  have hsome := (hagree.served_confirmed m hserved).1.mpr hround
  rw [hnone] at hsome
  cases hsome

/-- The two routes on a record that is not empty. -/
theorem routesAgree_of_holds_iff (h : Holds members record tip) (hne : record ≠ []) :
    RoutesAgree record (transactionResponse (.obj members))
        (mapTransactionList (pageOf record) (.int tip)) ↔
      Rejected record ∨ PlainRound record tip := by
  cases hm : mapTransaction (.obj record) with
  | error e => exact iff_of_true (routesAgree_of_rejected h hne hm) (.inl ⟨e, hm⟩)
  | ok m =>
    constructor
    · intro hagree
      right
      by_contra hplain
      obtain ⟨hround, hout⟩ := not_or.mp hplain
      rw [and_comm] at hout
      exact not_routesAgree_of_leftOut h hne hm (by simpa [HasRound] using hround) hout hagree
    · rintro (⟨e, he⟩ | hnull | ⟨htruthy, htip⟩)
      · rw [hm] at he
        cases he
      · exact routesAgree_of_null h hne hm hnull
      · exact routesAgree_of_truthy h hne hm htruthy htip

end

/-- **When the two transaction routes agree**: the record is not empty, and the mapper raises on it,
    or it has no round, or it has one that is not zero and the tip is not zero either. -/
theorem routesAgree_iff {txid : String} {members record : Dict} {tip : ℕ}
    (hvalid : validateTxid txid = .ok txid) (hmiss : (cache.get now "transaction" txid).1 = none)
    (hanswer : answer (.transaction txid) = .ok (.obj members)) (h : Holds members record tip) :
    RoutesAgree record ((getTransaction txid).run (atOnce now answer) cache).1
        (mapTransactionList (pageOf record) (.int tip)) ↔
      record ≠ [] ∧ (Rejected record ∨ PlainRound record tip) := by
  rw [run_getTransaction_of_miss hvalid hmiss hanswer]
  by_cases hne : record = []
  · subst hne
    exact iff_of_false (not_routesAgree_nil h (.int tip)) (fun hplain => hplain.1 rfl)
  · rw [routesAgree_of_holds_iff h hne]
    exact (and_iff_right hne).symm

/-! ### Two records -/

/-- A payment of the given round. -/
def paymentOf (round : ℕ) : Dict :=
  [("tx-type", .str "pay"), ("sender", .str "S"), ("confirmed-round", .int round),
    ("payment-transaction", .obj [("receiver", .str "R"), ("amount", .int 100)])]

/-- The indexer's answer for it, at round 100. -/
def paymentPayload (round : ℕ) : Dict :=
  [("current-round", .int 100), ("transaction", .obj (paymentOf round))]

theorem holds_paymentPayload (round : ℕ) : Holds (paymentPayload round) (paymentOf round) 100 :=
  ⟨rfl, rfl⟩

/-- A transaction id. -/
def someTxid : String := String.ofList (List.replicate 52 'A')

theorem validateTxid_someTxid : validateTxid someTxid = .ok someTxid := by decide +kernel

/-- The routes agree on a payment of round 90. -/
theorem routesAgree_payment :
    RoutesAgree (paymentOf 90)
      ((getTransaction someTxid).run
        (atOnce 0 fun _ => .ok (.obj (paymentPayload 90))) TTLCache.new).1
      (mapTransactionList (pageOf (paymentOf 90)) (.int 100)) :=
  (routesAgree_iff validateTxid_someTxid rfl rfl (holds_paymentPayload 90)).mpr
    ⟨List.cons_ne_nil _ _, .inr (.inr ⟨rfl, by decide⟩)⟩

/-- They differ on one of round 0: the single route takes the round for missing, the list counts
    confirmations of a transaction that it calls pending. -/
theorem genesis_payment_differs :
    ¬ RoutesAgree (paymentOf 0)
      ((getTransaction someTxid).run
        (atOnce 0 fun _ => .ok (.obj (paymentPayload 0))) TTLCache.new).1
      (mapTransactionList (pageOf (paymentOf 0)) (.int 100)) := by
  rw [run_getTransaction_of_miss validateTxid_someTxid rfl rfl]
  intro hagree
  rcases (routesAgree_of_holds_iff (holds_paymentPayload 0) (List.cons_ne_nil _ _)).mp hagree with
    ⟨e, he⟩ | hnull | ⟨htruthy, -⟩
  · rw [mapTransaction_leaf rfl] at he
    cases he
  · cases hnull
  · cases htruthy

end Algorandscout
