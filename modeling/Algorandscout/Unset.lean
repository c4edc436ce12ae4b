import Algorandscout.Edits
import Algorandscout.Library.TwoRuns

namespace Algorandscout

open Library

/-!
# Unset roles

The zero address in an optional role should mean that the role is not set.

* `accountRoles`, `assetRoles`, `txRoles` — the optional roles;
* `mapAccount_unset`, `mapAsset_unset` — accounts and assets: the zero address is as good as
  nothing;
* `extractMovement_unset` — the one role that is read as it stands, the `sender` of an asset
  transfer's sub-object;
* `mapFields_unset`, `mapTransaction_unset` — a record, and the tree of its inner records;
* `zero_address_iff_unset` — where the zero address makes no difference.
-/

def accountRoles : List String := ["auth-addr"]

def assetRoles : List String := ["manager", "reserve", "freeze", "clawback"]

def txRoles : TxMembers where
  top := ["rekey-to"]
  detail key :=
    if key = "payment-transaction" then ["close-remainder-to"]
    else if key = "asset-transfer-transaction" then ["close-to", "sender"]
    else []

/-- What is written over a chosen role: the zero address. -/
def zeroed : Option Json := some (.str zeroAddress)

/-- Edit the roles of an account. -/
def editAccount (value : Option Json) (chosen : String → Bool) : Json → Json :=
  editWrapped "account" (Dict.edit value accountRoles chosen)

/-- Edit the roles of an asset, which are among its params. -/
def editAsset (value : Option Json) (chosen : String → Bool) : Json → Json :=
  editWrapped "asset" (Dict.change "params" (Json.mapDict (Dict.edit value assetRoles chosen)))

/-! ### Accounts and assets -/

theorem clean_zeroAddress : clean (.str zeroAddress) = .null := by
  simp [clean, Json.eqStr]

/-- **`_clean` reads the zero address as nothing.** -/
theorem clean_get_edit (names : List String) (chosen : String → Bool) (d : Dict) (key : String) :
    clean ((d.edit zeroed names chosen).get key) = clean ((d.edit none names chosen).get key) := by
  unfold Dict.get
  rw [Dict.lookup_edit, Dict.lookup_edit]
  split_ifs
  · cases d.lookup key with
    | none => rfl
    | some v => exact clean_zeroAddress
  · rfl

theorem lookup_edit_eq_none {value : Option Json} {names : List String} {chosen : String → Bool}
    {d : Dict} {key : String} (h : d.lookup key = none) :
    (d.edit value names chosen).lookup key = none := by
  rw [Dict.lookup_edit, h]
  exact ite_self none

theorem mapAccount_unset (chosen : String → Bool) (payload : Json) :
    mapAccount (editAccount zeroed chosen payload) =
      mapAccount (editAccount none chosen payload) := by
  cases payload with
  | obj d =>
    have hread := fun value => editWrapped_obj "account" (Dict.edit value accountRoles chosen) rfl
      (fun d h => lookup_edit_eq_none h) d
    obtain ⟨z, hz, hwrapz, hroundz⟩ := hread zeroed
    obtain ⟨u, hu, hwrapu, hroundu⟩ := hread none
    have hround : z.get "current-round" = u.get "current-round" := by
      rw [hroundz _ (by decide) fun d => Dict.get_edit_of_notMem (by decide) _ _ d _,
        hroundu _ (by decide) fun d => Dict.get_edit_of_notMem (by decide) _ _ d _]
    unfold editAccount
    rw [hz, hu]
    unfold mapAccount
    unfold wrapped at hwrapz hwrapu
    simp only [Json.asDict_obj, ok_bind, hwrapz, hwrapu, Json.asDict_mapDict, hround]
    cases ((Dict.get d "account" (.obj d)).or (.obj [])).asDict with
    | error e => rfl
    | ok account =>
      simp (disch := decide) only [Except.map_ok, ok_bind, Dict.get_edit_of_notMem, clean_get_edit]
  | _ => rfl

theorem mapAsset_unset (chosen : String → Bool) (payload : Json) :
    mapAsset (editAsset zeroed chosen payload) = mapAsset (editAsset none chosen payload) := by
  cases payload with
  | obj d =>
    have hread := fun value => editWrapped_obj "asset"
      (Dict.change "params" (Json.mapDict (Dict.edit value assetRoles chosen))) rfl
      (fun d h => by rw [Dict.lookup_change, if_neg (by decide), h]) d
    obtain ⟨z, hz, hwrapz, hroundz⟩ := hread zeroed
    obtain ⟨u, hu, hwrapu, hroundu⟩ := hread none
    have hround : z.get "current-round" = u.get "current-round" := by
      rw [hroundz _ (by decide) fun d => Dict.get_change_of_ne (by decide) _ d _,
        hroundu _ (by decide) fun d => Dict.get_change_of_ne (by decide) _ d _]
    unfold editAsset
    rw [hz, hu]
    unfold mapAsset
    unfold wrapped at hwrapz hwrapu
    simp only [Json.asDict_obj, ok_bind, hwrapz, hwrapu, Json.asDict_mapDict, hround]
    cases ((Dict.get d "asset" (.obj d)).or (.obj [])).asDict with
    | error e => rfl
    | ok asset =>
      have hparams := fun value =>
        subDict_change "params" (f := Dict.edit value assetRoles chosen) rfl asset
      simp (disch := decide) only [Except.map_ok, ok_bind, hparams, Dict.get_change_of_ne,
        Json.asDict_mapDict]
      cases (subDict asset "params").asDict with
      | error e => rfl
      | ok params =>
        simp (disch := decide) only [Except.map_ok, ok_bind, Dict.get_edit_of_notMem,
          clean_get_edit, classifyAsset]
  | _ => rfl

/-! ### Transactions -/

section

variable {chosen : String → Bool}

/-- The sender of an asset transfer's sub-object is there, and chosen. -/
def SenderChosen (txType x : Json) (chosen : String → Bool) : Prop :=
  txType = .str "axfer" ∧ chosen "sender" = true ∧
    ∃ d : Dict, x = .obj d ∧ (d.lookup "sender").isSome

/-- Other sub-objects than those of payments and asset transfers have no roles. -/
theorem txRoles_detail_of_notMem {key : String}
    (h : key ∉ ["payment-transaction", "asset-transfer-transaction"]) :
    txRoles.detail key = [] := by
  simp only [List.mem_cons, List.not_mem_nil, or_false, not_or] at h
  show (if key = "payment-transaction" then _ else _) = _
  rw [if_neg h.1, if_neg h.2]

/-- The sender, read as it stands: the zero address is as good as nothing when it is not there. -/
theorem sender_unset (d : Dict) {names : List String} (hnames : "sender" ∈ names)
    (chosen : String → Bool) :
    (((d.edit zeroed names chosen).get "sender").or .null =
        ((d.edit none names chosen).get "sender").or .null ∧
      ((d.edit zeroed names chosen).get "sender").truthy =
        ((d.edit none names chosen).get "sender").truthy) ↔
      ¬(chosen "sender" = true ∧ (d.lookup "sender").isSome) := by
  unfold Dict.get
  rw [Dict.lookup_edit, Dict.lookup_edit]
  by_cases hchosen : chosen "sender" = true
  · rw [if_pos ⟨hnames, hchosen⟩, if_pos ⟨hnames, hchosen⟩]
    cases d.lookup "sender" with
    | none => simp
    | some v => simp [hchosen, zeroed, zeroAddress]
  · rw [if_neg fun h => hchosen h.2, if_neg fun h => hchosen h.2]
    simp [hchosen]

/-- **What moves is read alike**, but for the sender of an asset transfer's sub-object. -/
theorem extractMovement_unset {txType : Json} {key : Option String}
    (hkey : lookupType txTypeDetailKey txType = .ok key) (x : Json) :
    Agrees (fun a b => a.1 = b.1 ∧ a.2.1 = b.2.1 ∧ (a.2.2 = b.2.2 ↔ ¬SenderChosen txType x chosen))
      (extractMovement txType (x.mapDict (Dict.edit zeroed (txRoles.detail (key.getD "")) chosen)))
      (extractMovement txType
        (x.mapDict (Dict.edit none (txRoles.detail (key.getD "")) chosen))) := by
  rcases lookupType_cases hkey with ⟨rfl, rfl⟩ | ⟨rfl, rfl⟩ | ⟨hpay, haxfer, hother⟩
  · have hnone : ¬SenderChosen (.str "pay") x chosen := fun h => absurd h.1 (by simp)
    cases x with
    | obj d =>
      show Agrees _ (extractMovement (.str "pay") (.obj (Dict.edit _ ["close-remainder-to"] _ d)))
        (extractMovement (.str "pay") (.obj (Dict.edit _ ["close-remainder-to"] _ d)))
      rw [extractMovement_pay_obj, extractMovement_pay_obj]
      simp (disch := decide) only [Dict.get_edit_of_notMem]
      exact ⟨rfl, rfl, iff_of_true rfl hnone⟩
    | _ => rfl
  · cases x with
    | obj d =>
      have hnames : "sender" ∈ ["close-to", "sender"] := by decide
      show Agrees _ (extractMovement (.str "axfer") (.obj (Dict.edit _ ["close-to", "sender"] _ d)))
        (extractMovement (.str "axfer") (.obj (Dict.edit _ ["close-to", "sender"] _ d)))
      rw [extractMovement_axfer_obj, extractMovement_axfer_obj]
      simp (disch := decide) only [Dict.get_edit_of_notMem, clean_get_edit]
      refine ⟨rfl, rfl, ?_⟩
      simp only [Option.some.injEq, TokenTransfer.mk.injEq, true_and]
      rw [sender_unset d hnames chosen]
      simp [SenderChosen]
    | _ => rfl
  · have hnone : ¬SenderChosen txType x chosen := by
      rintro ⟨rfl, -⟩
      exact absurd haxfer (by decide)
    rw [txRoles_detail_of_notMem hother, Json.mapDict_edit_nil, Json.mapDict_edit_nil]
    exact Agrees.refl (fun a => ⟨rfl, rfl, iff_of_true rfl hnone⟩) _

/-- **What closes is read alike.** -/
theorem extractClose_unset {txType : Json} {key : Option String}
    (hkey : lookupType txTypeDetailKey txType = .ok key) (x : Json) {z u : Dict}
    (hclosing : z.get "closing-amount" (.int 0) = u.get "closing-amount" (.int 0)) :
    extractClose txType (x.mapDict (Dict.edit zeroed (txRoles.detail (key.getD "")) chosen)) z =
      extractClose txType (x.mapDict (Dict.edit none (txRoles.detail (key.getD "")) chosen)) u := by
  rcases lookupType_cases hkey with ⟨rfl, rfl⟩ | ⟨rfl, rfl⟩ | ⟨hpay, haxfer, -⟩
  · cases x with
    | obj d =>
      apply extractClose_pay_congr (clean_get_edit _ _ d _)
      · rw [Dict.get_edit_of_notMem (by decide), Dict.get_edit_of_notMem (by decide)]
      · rw [Dict.get_edit_of_notMem (by decide), Dict.get_edit_of_notMem (by decide), hclosing]
    | _ => rfl
  · cases x with
    | obj d =>
      apply extractClose_axfer_congr (clean_get_edit _ _ d _)
      · rw [Dict.get_edit_of_notMem (by decide), Dict.get_edit_of_notMem (by decide)]
      · rw [Dict.get_edit_of_notMem (by decide), Dict.get_edit_of_notMem (by decide)]
      · rw [Dict.get_edit_of_notMem (by decide), Dict.get_edit_of_notMem (by decide)]
    | _ => rfl
  · rw [extractClose_other _ _ hpay haxfer, extractClose_other _ _ hpay haxfer]

/-- The sub-object that is read of an asset transfer is the one under its key. -/
theorem senderChosen_iff {tx : Dict} {detail : String → String → Bool} {key : Option String}
    (hkey : lookupType txTypeDetailKey (tx.get "tx-type") = .ok key) :
    SenderChosen (tx.get "tx-type") (subDict tx (key.getD "")) (detail (key.getD "")) ↔
      SenderChosen (tx.get "tx-type") (subDict tx "asset-transfer-transaction")
        (detail "asset-transfer-transaction") := by
  by_cases haxfer : tx.get "tx-type" = .str "axfer"
  · have hkey' := hkey
    rw [haxfer] at hkey'
    obtain rfl : some "asset-transfer-transaction" = key := Except.ok.inj hkey'
    rfl
  · exact iff_of_false (fun h => haxfer h.1) (fun h => haxfer h.1)

/-- Two outputs that are the same but for the token transfer and the raw sub-object. -/
def SameButTransfer (m m' : MappedTransaction) : Prop :=
  m' = { m with tokenTransfer := m'.tokenTransfer, algorand := m'.algorand }

/-- The account a record rekeys to is read alike. -/
theorem rekeyTo_unset (top : String → Bool) (detail : String → String → Bool)
    (inner inner' : ℕ → Json → Json) (tx : Dict) :
    clean ((editRecord zeroed txRoles top detail inner tx).get "rekey-to") =
      clean ((editRecord none txRoles top detail inner' tx).get "rekey-to") := by
  unfold Dict.get
  by_cases hrekey : top "rekey-to" = true
  · rw [lookup_editRecord, if_pos ⟨List.mem_cons_self, hrekey⟩, lookup_editRecord,
      if_pos ⟨List.mem_cons_self, hrekey⟩]
    cases tx.lookup "rekey-to" with
    | none => rfl
    | some v => exact clean_zeroAddress
  · rw [lookup_editRecord_of_not (fun h => hrekey h.2) (by decide) (by decide),
      lookup_editRecord_of_not (fun h => hrekey h.2) (by decide) (by decide)]

/-- The sub-object that is read by the type of a transaction is edited as the roles say. -/
theorem detailKey_plain {txType : Json} {key : Option String}
    (hkey : lookupType txTypeDetailKey txType = .ok key) :
    key.getD "" ∉ txRoles.top ∧ key.getD "" ≠ "inner-txns" := by
  have hmem := detailKey_mem hkey
  constructor
  · intro h
    rw [List.mem_singleton.mp h] at hmem
    exact absurd hmem (by decide)
  · intro h
    rw [h] at hmem
    exact absurd hmem (by decide)

/-- **One record is mapped alike**, but for the sender of an asset transfer's sub-object. -/
theorem mapFields_unset {top : String → Bool} {detail : String → String → Bool}
    {inner inner' : ℕ → Json → Json} (tx : Dict) :
    Agrees (fun m m' => SameButTransfer m m' ∧ (m.tokenTransfer = m'.tokenTransfer ↔
        ¬SenderChosen (tx.get "tx-type") (subDict tx "asset-transfer-transaction")
          (detail "asset-transfer-transaction")))
      (mapFields (editRecord zeroed txRoles top detail inner tx))
      (mapFields (editRecord none txRoles top detail inner' tx)) := by
  unfold mapFields
  simp (disch := decide) only [get_editRecord]
  apply Agrees.bind_same
  intro key hkey
  obtain ⟨htop, hinner⟩ := detailKey_plain hkey
  have hsignature : ∀ value inner, subDict (editRecord value txRoles top detail inner tx)
      "signature" = subDict tx "signature" := by
    intro value inner
    rw [subDict_editRecord (by decide) (by decide)]
    exact Json.mapDict_edit_nil value _ _
  have hclosing : (editRecord zeroed txRoles top detail inner tx).get "closing-amount" (.int 0) =
      (editRecord none txRoles top detail inner' tx).get "closing-amount" (.int 0) := by
    rw [get_editRecord (by decide) (by decide) (by decide),
      get_editRecord (by decide) (by decide) (by decide)]
  simp only [subDict_editRecord htop hinner, hsignature, rekeyTo_unset top detail inner inner']
  rw [extractClose_unset hkey _ hclosing]
  apply Agrees.bind (extractMovement_unset hkey _)
  rintro ⟨toAddress, value, transfer⟩ ⟨toAddress', value', transfer'⟩ - - ⟨hto, hvalue, htransfer⟩
  obtain rfl : toAddress = toAddress' := hto
  obtain rfl : value = value' := hvalue
  rw [senderChosen_iff hkey] at htransfer
  apply Agrees.bind_same
  intro close _
  apply Agrees.bind_same
  intro timestamp _
  apply Agrees.bind_same
  intro valueDecimal _
  apply Agrees.bind_same
  intro feeDecimal _
  apply Agrees.bind_same
  intro label _
  apply Agrees.bind_same
  intro signature _
  exact ⟨rfl, htransfer⟩

end

/-! ### Trees -/

/-- An output without the raw sub-objects. -/
def MappedTransaction.withoutRaw (m : MappedTransaction) : MappedTransaction :=
  { m with
    algorand := none
    internalTransactions := m.internalTransactions.attach.map fun ⟨i, _⟩ => i.withoutRaw }
termination_by sizeOf m
decreasing_by exact MappedTransaction.sizeOf_lt ‹_›

theorem MappedTransaction.withoutRaw_eq (m : MappedTransaction) : m.withoutRaw =
    { m with
      algorand := none
      internalTransactions := m.internalTransactions.map MappedTransaction.withoutRaw } := by
  rw [MappedTransaction.withoutRaw]
  congr 1
  show m.internalTransactions.attach.map (fun i => i.1.withoutRaw) = _
  rw [List.map_subtype fun i _ => rfl, List.unattach_attach]

/-- The sender of the sub-object is chosen in the record, or in one of its inner records. -/
def Choice.SenderChosen : Choice → Json → Prop
  | .node _ detail inner, .obj tx =>
    Algorandscout.SenderChosen (Dict.get tx "tx-type") (subDict tx "asset-transfer-transaction")
        (detail "asset-transfer-transaction") ∨
      ∃ i r, (innerRecords (.obj tx))[i]? = some r ∧ (inner i).SenderChosen r
  | _, _ => False

/-- **Every record is mapped alike**, but for the senders of the sub-objects. -/
theorem mapTransaction_unset (c : Choice) (tx : Json) :
    Agrees (fun m m' => m.withoutRaw = m'.withoutRaw ↔ ¬c.SenderChosen tx)
      (mapTransaction (editTx zeroed txRoles c tx))
      (mapTransaction (editTx none txRoles c tx)) := by
  induction c generalizing tx with
  | keep =>
    have hnone : ¬Choice.keep.SenderChosen tx := by
      unfold Choice.SenderChosen
      exact id
    unfold editTx
    apply Agrees.refl
    intro m
    exact iff_of_true rfl hnone
  | node top detail inner ih =>
    cases tx with
    | obj tx =>
      unfold editTx
      rw [mapTransaction_obj, mapTransaction_obj, innerTxns_editRecord (by decide),
        innerTxns_editRecord (by decide)]
      apply Agrees.bind (mapFields_unset tx)
      rintro m m' - - ⟨hsame, htransfer⟩
      cases hinner : innerTxns tx with
      | error e => rfl
      | ok items =>
        have hrecords := innerRecords_obj hinner
        simp only [Except.map_ok, ok_bind]
        apply Agrees.bind (Agrees.mapM_mapIdx fun i r _ => ih i r)
        rintro ms ms' - - hrel
        have hlist := hrel.map_eq_map_iff
        show MappedTransaction.withoutRaw _ = MappedTransaction.withoutRaw _ ↔ _
        rw [hsame, MappedTransaction.withoutRaw_eq, MappedTransaction.withoutRaw_eq]
        unfold Choice.SenderChosen
        simp only [List.length_mapIdx, MappedTransaction.mk.injEq, true_and, and_true]
        rw [htransfer, hlist, hrecords]
        simp only [not_or, not_exists, not_and]
    | _ => simp [editTx, mapTransaction, Agrees]

/-- **The zero address means unset, but in the sender of an asset transfer's sub-object.**  For an
    account, an asset and a transaction, and any choice of their roles, the zero address is mapped
    as a deleted member is, the raw sub-objects aside; for the transaction exactly when no chosen
    member is such a sender. -/
theorem zero_address_iff_unset (account asset tx : Json) (accountChosen assetChosen : String → Bool)
    (c : Choice) :
    mapAccount (editAccount zeroed accountChosen account) =
        mapAccount (editAccount none accountChosen account) ∧
      mapAsset (editAsset zeroed assetChosen asset) = mapAsset (editAsset none assetChosen asset) ∧
      Agrees (fun m m' => m.withoutRaw = m'.withoutRaw ↔ ¬c.SenderChosen tx)
        (mapTransaction (editTx zeroed txRoles c tx)) (mapTransaction (editTx none txRoles c tx)) :=
  ⟨mapAccount_unset accountChosen account, mapAsset_unset assetChosen asset,
    mapTransaction_unset c tx⟩

/-- An ordinary asset transfer, with the sender of its sub-object there. -/
def transferRecord : Dict :=
  [("tx-type", .str "axfer"), ("sender", .str "S"),
    ("asset-transfer-transaction", .obj [("receiver", .str "R"), ("sender", .str "H")])]

/-- Choose the sender of the sub-object. -/
def senderOnly : Choice :=
  .node (fun _ => false) (fun _ member => member == "sender") fun _ => .keep

/-- **The zero address as the sender is reported as a clawback**, and no sender is not. -/
theorem zero_sender_is_clawback :
    ∃ m m', mapTransaction (editTx zeroed txRoles senderOnly (.obj transferRecord)) = .ok m ∧
      mapTransaction (editTx none txRoles senderOnly (.obj transferRecord)) = .ok m' ∧
      m.tokenTransfer.map (·.isClawback) = some true ∧
      m'.tokenTransfer.map (·.isClawback) = some false ∧ m.withoutRaw ≠ m'.withoutRaw := by
  have hz : ∃ m, mapTransaction (editTx zeroed txRoles senderOnly (.obj transferRecord)) = .ok m ∧
      m.tokenTransfer.map (·.isClawback) = some true := by
    refine ⟨_, mapTransaction_leaf rfl, rfl⟩
  have hu : ∃ m, mapTransaction (editTx none txRoles senderOnly (.obj transferRecord)) = .ok m ∧
      m.tokenTransfer.map (·.isClawback) = some false := by
    refine ⟨_, mapTransaction_leaf rfl, rfl⟩
  obtain ⟨m, hm, hclawback⟩ := hz
  obtain ⟨m', hm', hnone⟩ := hu
  refine ⟨m, m', hm, hm', hclawback, hnone, ?_⟩
  intro heq
  have htransfer := congrArg MappedTransaction.tokenTransfer heq
  rw [MappedTransaction.withoutRaw_eq, MappedTransaction.withoutRaw_eq] at htransfer
  rw [show m.tokenTransfer = m'.tokenTransfer from htransfer, hnone] at hclawback
  cases hclawback

end Algorandscout
