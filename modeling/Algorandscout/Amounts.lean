import Mathlib
import Algorandscout.Transaction

namespace Algorandscout

open Library

/-!
# Amounts of a record

How the integer amounts of a raw record come out in its mapped form.  Amounts are rendered as
decimal strings; `parseAmount` reads them back.

* `amountOf` / `IsInteger` — an amount of a record, zero when it is absent;
* `FieldsOf.payment`, `FieldsOf.assetTransfer` — value, transfer and close of the two types that
  move something;
* `FieldsOf.other` — the remaining types show neither.
-/

/-! ### Raw amounts -/

/-- An amount of a record; an absent one is zero. -/
def amountOf (d : Dict) (key : String) : Int :=
  match d.lookup key with
  | some (.int n) => n
  | _ => 0

/-- The amount is absent or an integer. -/
def IsInteger (d : Dict) (key : String) : Prop :=
  ∀ x, d.lookup key = some x → ∃ n, x = .int n

/-- The typed sub-object of a record. -/
def typedDetail (tx : Dict) (key : String) : Dict :=
  match tx.lookup key with
  | some (.obj d) => d
  | _ => []

/-- The dict has the member. -/
def isSet (d : Dict) (key : String) : Bool := (d.lookup key).isSome

/-- The amount that a closing payment sweeps, from the one of its two places that has it. -/
def sweptAmount (tx d : Dict) : Int :=
  if isSet d "close-amount" then amountOf d "close-amount" else amountOf tx "closing-amount"

theorem IsInteger.of_absent {d : Dict} {key : String} (h : d.lookup key = none) :
    IsInteger d key := Dict.forall_of_lookup_none h

theorem IsInteger.of_lookup {d : Dict} {key : String} {n : Int}
    (h : d.lookup key = some (.int n)) : IsInteger d key :=
  Dict.forall_of_lookup h ⟨n, rfl⟩

theorem get_of_isInteger {d : Dict} {key : String} (h : IsInteger d key) :
    d.get key (.int 0) = .int (amountOf d key) := by
  unfold Dict.get amountOf
  cases hlookup : d.lookup key with
  | none => rfl
  | some x =>
    obtain ⟨n, rfl⟩ := h x hlookup
    rfl

theorem get_closeAmount {tx d : Dict} (hclose : IsInteger d "close-amount")
    (hclosing : IsInteger tx "closing-amount") :
    d.get "close-amount" (tx.get "closing-amount" (.int 0)) = .int (sweptAmount tx d) := by
  rw [get_of_isInteger hclosing]
  unfold Dict.get sweptAmount isSet amountOf
  cases hlookup : d.lookup "close-amount" with
  | none => rfl
  | some x =>
    obtain ⟨n, rfl⟩ := hclose x hlookup
    rfl

theorem or_of_isInteger {d : Dict} {key : String} (h : IsInteger d key) :
    (d.get key (.int 0)).or (.int 0) = .int (amountOf d key) := by
  rw [get_of_isInteger h, Json.or_int_zero]

theorem or_closeAmount {tx d : Dict} (hclose : IsInteger d "close-amount")
    (hclosing : IsInteger tx "closing-amount") :
    (d.get "close-amount" (tx.get "closing-amount" (.int 0))).or (.int 0) =
      .int (sweptAmount tx d) := by
  rw [get_closeAmount hclose hclosing, Json.or_int_zero]

/-! ### Setting a member -/

@[simp] theorem amountOf_insert (d : Dict) (k : String) (v : Json) (key : String) :
    amountOf (d.insert k v) key =
      if key = k then (match v with | .int n => n | _ => 0) else amountOf d key := by
  unfold amountOf
  rw [Dict.lookup_insert]
  by_cases h : key = k
  · rw [if_pos h, if_pos h]
    cases v <;> rfl
  · rw [if_neg h, if_neg h]

theorem IsInteger.insert {d : Dict} {key : String} (h : IsInteger d key) {k : String} (v : Json)
    (hne : key ≠ k) : IsInteger (d.insert k v) key := by
  intro x hx
  rw [Dict.lookup_insert, if_neg hne] at hx
  exact h x hx

theorem IsInteger.insert_self (d : Dict) (key : String) (n : Int) :
    IsInteger (d.insert key (.int n)) key := by
  apply IsInteger.of_lookup
  rw [Dict.lookup_insert, if_pos rfl]

theorem typedDetail_insert_self (tx : Dict) (key : String) (d : Dict) :
    typedDetail (tx.insert key (.obj d)) key = d := by
  unfold typedDetail
  rw [Dict.lookup_insert, if_pos rfl]

theorem sweptAmount_insert_self (tx d : Dict) (n : Int) :
    sweptAmount tx (d.insert "close-amount" (.int n)) = n := by
  unfold sweptAmount isSet
  rw [Dict.lookup_insert, if_pos rfl, Option.isSome_some, if_pos rfl, amountOf_insert, if_pos rfl]

/-- A sub-object that is a dict is the typed one. -/
theorem typedDetail_of_subDict {tx d : Dict} {key : String} (h : subDict tx key = .obj d) :
    typedDetail tx key = d := by
  unfold subDict at h
  unfold typedDetail
  cases hlookup : tx.lookup key with
  | none =>
    rw [Dict.get_of_lookup_none hlookup] at h
    exact Json.obj.inj h
  | some x =>
    rw [Dict.get_of_lookup hlookup] at h
    cases x with
    | obj members =>
      cases members with
      | nil => exact Json.obj.inj h
      | cons entry members => exact Json.obj.inj h
    | _ =>
      -- What is no dict is read as the empty one, or not at all.
      unfold Json.or at h
      split_ifs at h
      exact Json.obj.inj h

theorem subDict_of_lookup {tx d : Dict} {key : String} (h : tx.lookup key = some (.obj d)) :
    subDict tx key = .obj d := by
  unfold subDict
  rw [Dict.get_of_lookup h]
  cases d with
  | nil => rfl
  | cons entry d => rfl

/-! ### Rendered amounts -/

/-- `int(s)` of a rendered amount. -/
def parseAmount (s : String) : Int := s.toInt?.getD 0

@[simp] theorem parseAmount_repr (n : Int) : parseAmount n.repr = n := by
  unfold parseAmount
  rw [Int.toInt?_repr, Option.getD_some]

theorem parseAmount_toString (n : Int) : parseAmount (toString n) = n := parseAmount_repr n

theorem valueString_int (n : Int) : valueString (.int n) = toString n := rfl

/-! ### The mapped amounts of one record -/

section Record

variable {tx : Dict} {m : MappedTransaction} {detailKey : Option String} {counterparty value : Json}

/-- The sub-object that the mapper reads is the one under the type's key. -/
theorem FieldsOf.key_eq (hfields : FieldsOf tx m detailKey counterparty value) {t key : String}
    (htype : tx.get "tx-type" = .str t) (hkey : (t, key) ∈ txTypeDetailKey) :
    detailKey = some key := by
  have hlookup := hfields.detailKey_eq
  rw [htype, lookupType_str, lookup_txTypeDetailKey hkey] at hlookup
  exact (Except.ok.inj hlookup).symm

/-- **A payment** shows its amount as the value, and its close. -/
theorem FieldsOf.payment (hfields : FieldsOf tx m detailKey counterparty value)
    (htype : tx.get "tx-type" = .str "pay") {d : Dict}
    (hd : typedDetail tx "payment-transaction" = d) (hamount : IsInteger d "amount")
    (hclose : IsInteger d "close-amount") (hclosing : IsInteger tx "closing-amount") :
    counterparty = d.get "receiver" ∧ m.value = toString (amountOf d "amount") ∧
      m.tokenTransfer = none ∧
      m.close = if (clean (d.get "close-remainder-to")).truthy then
        some (paymentClose (clean (d.get "close-remainder-to")) (amountOf d "amount")
          (sweptAmount tx d))
      else none := by
  have hkey : detailKey = some "payment-transaction" := hfields.key_eq htype (by decide)
  -- Both helpers read the sub-object under the key of the type.
  have hmovement := hfields.movement_eq
  have hcloseEq := hfields.close_eq
  rw [hkey, Option.getD_some, htype] at hmovement hcloseEq
  obtain ⟨read, hread, hmoved⟩ := extractMovement_pay hmovement
  obtain rfl : d = read := hd.symm.trans (typedDetail_of_subDict hread)
  obtain ⟨hcounterparty, hvalue, htransfer⟩ :
      counterparty = _ ∧ value = _ ∧ m.tokenTransfer = _ := by simpa using hmoved
  rw [get_of_isInteger hamount] at hvalue
  rw [hread] at hcloseEq
  refine ⟨hcounterparty, ?_, htransfer,
    eq_of_extractClose_pay (or_of_isInteger hamount) (or_closeAmount hclose hclosing) hcloseEq⟩
  rw [hfields.value_eq, hvalue, valueString_int]

/-- **An asset transfer** shows its amount in the token transfer, and its close; its value, in
    the native coin, is zero. -/
theorem FieldsOf.assetTransfer (hfields : FieldsOf tx m detailKey counterparty value)
    (htype : tx.get "tx-type" = .str "axfer") {d : Dict}
    (hd : typedDetail tx "asset-transfer-transaction" = d) (hamount : IsInteger d "amount")
    (hclose : IsInteger d "close-amount") :
    m.value = toString (0 : Int) ∧
      m.tokenTransfer = some {
        assetId := d.get "asset-id"
        fromAddress := (d.get "sender").or .null
        toAddress := d.get "receiver"
        amount := toString (amountOf d "amount")
        closeTo := clean (d.get "close-to")
        isClawback := (d.get "sender").truthy } ∧
      m.close = if (clean (d.get "close-to")).truthy then
        some (transferClose (clean (d.get "close-to")) (d.get "asset-id") (amountOf d "amount")
          (amountOf d "close-amount"))
      else none := by
  have hkey : detailKey = some "asset-transfer-transaction" := hfields.key_eq htype (by decide)
  have hmovement := hfields.movement_eq
  have hcloseEq := hfields.close_eq
  rw [hkey, Option.getD_some, htype] at hmovement hcloseEq
  obtain ⟨read, hread, hmoved⟩ := extractMovement_axfer hmovement
  obtain rfl : d = read := hd.symm.trans (typedDetail_of_subDict hread)
  obtain ⟨-, hvalue, htransfer⟩ :
      counterparty = _ ∧ value = _ ∧ m.tokenTransfer = _ := by simpa using hmoved
  rw [get_of_isInteger hamount, Json.pyStr_int] at htransfer
  rw [hread] at hcloseEq
  refine ⟨?_, htransfer,
    eq_of_extractClose_axfer (or_of_isInteger hamount) (or_of_isInteger hclose) hcloseEq⟩
  rw [hfields.value_eq, hvalue, valueString_int]

/-- **Any other record** shows neither value nor transfer nor close. -/
theorem FieldsOf.other (hfields : FieldsOf tx m detailKey counterparty value)
    (hpay : tx.get "tx-type" ≠ .str "pay") (haxfer : tx.get "tx-type" ≠ .str "axfer") :
    m.value = toString (0 : Int) ∧ m.tokenTransfer = none ∧ m.close = none := by
  have hpayFalse := Bool.eq_false_iff.mpr (mt Json.eqStr_iff.mp hpay)
  have haxferFalse := Bool.eq_false_iff.mpr (mt Json.eqStr_iff.mp haxfer)
  have hnone := extractMovement_other hpayFalse haxferFalse hfields.movement_eq
  obtain ⟨hvalue, htransfer⟩ : value = _ ∧ m.tokenTransfer = _ := by simpa using hnone
  have hcloseEq := hfields.close_eq
  rw [extractClose_other _ tx hpayFalse haxferFalse] at hcloseEq
  refine ⟨?_, htransfer, (Except.ok.inj hcloseEq).symm⟩
  rw [hfields.value_eq, hvalue, valueString_int]

end Record

end Algorandscout
