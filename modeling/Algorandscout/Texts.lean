import Algorandscout.Decimals
import Algorandscout.Listings

namespace Algorandscout

open Library

/-!
# The texts of a response

Which strings a response holds, and whether the text `None` is one of them: `str` makes it of a
null number.

* `IsNumber` — a member that is an integer as `json.loads` reads it, null or absent;
* `Json.strings`, `Json.NoNone` — the strings of a value;
* `MappedAccount.strings`, .., `MappedTransaction.strings` — the strings of a response;
* `pyStr_eq_none_iff`, `renderDecimal_ne_none` — what is rendered as the text `None`.
-/

/-! ### Numbers -/

/-- A number of a payload: null, or an integer, which `json.loads` reads only when `str` writes
    it. -/
def Json.Numeric (x : Json) : Prop := x = .null ∨ ∃ n, Text.Writable n ∧ x = .int n

theorem Json.Numeric.eq_null_or_int {x : Json} (h : x.Numeric) : x = .null ∨ ∃ n, x = .int n :=
  h.imp_right fun ⟨n, _, hn⟩ => ⟨n, hn⟩

/-- A member that is a number, or absent. -/
def IsNumber (d : Dict) (key : String) : Prop := (d.get key).Numeric

/-- A member that is there, and null. -/
def NullAt (d : Dict) (key : String) : Prop := d.lookup key = some .null

/-- A number that is read with zero for an absent one. -/
theorem IsNumber.get_cases {d : Dict} {key : String} (h : IsNumber d key) :
    (NullAt d key ∧ d.get key (.int 0) = .null) ∨
      (¬NullAt d key ∧ ∃ n, Text.Writable n ∧ d.get key (.int 0) = .int n) := by
  unfold NullAt
  cases hlookup : d.lookup key with
  | none =>
    exact .inr ⟨(fun h => nomatch h), 0, by decide, Dict.get_of_lookup_none hlookup _⟩
  | some x =>
    unfold IsNumber at h
    rw [Dict.get_of_lookup hlookup] at h ⊢
    rcases h with rfl | ⟨n, hn, rfl⟩
    · exact .inl ⟨rfl, rfl⟩
    · exact .inr ⟨fun h => (nomatch h), n, hn, rfl⟩

theorem IsNumber.numeric_get {d : Dict} {key : String} (h : IsNumber d key) :
    (d.get key (.int 0)).Numeric := by
  rcases h.get_cases with ⟨-, hnull⟩ | ⟨-, hint⟩
  · exact .inl hnull
  · exact .inr hint

/-! ### Values -/

mutual

/-- The strings of a value, the keys of its dicts included. -/
def Json.strings : Json → List String
  | .str s => [s]
  | .arr items => Json.stringsOfItems items
  | .obj members => Json.stringsOfMembers members
  | _ => []

def Json.stringsOfItems : List Json → List String
  | [] => []
  | x :: items => x.strings ++ Json.stringsOfItems items

def Json.stringsOfMembers : List (String × Json) → List String
  | [] => []
  | (key, x) :: members => key :: x.strings ++ Json.stringsOfMembers members

end

/-- The text `None` is not in the value. -/
def Json.NoNone (x : Json) : Prop := "None" ∉ x.strings

@[simp] theorem noNone_null : Json.null.NoNone := List.not_mem_nil

@[simp] theorem noNone_bool (b : Bool) : (Json.bool b).NoNone := List.not_mem_nil

@[simp] theorem noNone_int (n : Int) : (Json.int n).NoNone := List.not_mem_nil

theorem noNone_str {s : String} : (Json.str s).NoNone ↔ s ≠ "None" := by
  show "None" ∉ [s] ↔ _
  rw [List.mem_singleton]
  exact not_congr eq_comm

/-- A member of a dict without the text. -/
theorem noNone_get {d : Dict} (h : (Json.obj d).NoNone) (key : String) : (d.get key).NoNone := by
  unfold Json.NoNone at h ⊢
  show "None" ∉ (Dict.get d key).strings
  have hd : "None" ∉ Json.stringsOfMembers d := h
  clear h
  induction d with
  | nil => exact List.not_mem_nil
  | cons m d ih =>
    obtain ⟨k, x⟩ := m
    rw [Json.stringsOfMembers, List.mem_append, List.mem_cons, not_or, not_or] at hd
    rw [Dict.get_cons]
    split_ifs
    · exact hd.1.2
    · exact ih hd.2

/-- `d.get(key, default)`, with a default that is no text. -/
theorem noNone_get_default {default : Json} (hdefault : default.strings = []) (d : Dict)
    (key : String) : (d.get key default).NoNone ↔ (d.get key).NoNone := by
  unfold Json.NoNone
  cases hlookup : d.lookup key with
  | none =>
    rw [Dict.get_of_lookup_none hlookup, Dict.get_of_lookup_none hlookup, hdefault]
    exact Iff.rfl
  | some x => rw [Dict.get_of_lookup hlookup, Dict.get_of_lookup hlookup]

@[simp] theorem noNone_get_int (n : Int) (d : Dict) (key : String) :
    (d.get key (.int n)).NoNone ↔ (d.get key).NoNone := noNone_get_default rfl d key

@[simp] theorem noNone_get_bool (b : Bool) (d : Dict) (key : String) :
    (d.get key (.bool b)).NoNone ↔ (d.get key).NoNone := noNone_get_default rfl d key

/-- What is false holds no text but the empty one. -/
theorem noNone_of_not_truthy {x : Json} (h : x.truthy = false) : x.NoNone := by
  cases x with
  | str s =>
    rw [noNone_str]
    rintro rfl
    exact absurd h (by decide)
  | arr items => cases items with
    | nil => exact List.not_mem_nil
    | cons i items => cases h
  | obj members => cases members with
    | nil => exact List.not_mem_nil
    | cons m members => cases h
  | _ => exact List.not_mem_nil

/-- `x or default`, with a default that is no text. -/
theorem noNone_or {default : Json} (hdefault : default.NoNone) (x : Json) :
    (x.or default).NoNone ↔ x.NoNone := by
  by_cases hx : x.truthy = true
  · rw [Json.or_of_truthy _ hx]
  · rw [Bool.not_eq_true] at hx
    rw [Json.or_of_not_truthy _ hx]
    exact iff_of_true hdefault (noNone_of_not_truthy hx)

/-- The text is no address. -/
@[simp] theorem noNone_clean (x : Json) : (clean x).NoNone ↔ x.NoNone := by
  unfold clean
  split_ifs with h
  · refine iff_of_true noNone_null ?_
    rcases Bool.or_eq_true_iff.mp h with hnull | hzero
    · exact noNone_of_not_truthy (Json.truthy_of_isNull hnull)
    · rw [Json.eqStr_iff.mp hzero, noNone_str]
      decide
  · exact Iff.rfl

/-! ### Rendered numbers -/

/-- Numbers are written with digits. -/
theorem toString_ne_none (n : Int) : toString n ≠ "None" := by
  intro h
  have hlist := congrArg String.toList h
  cases n with
  | ofNat n =>
    have hdigits := Numeral.isDigits_toDigits n
    change (Nat.repr n).toList = _ at hlist
    rw [Nat.toList_repr] at hlist
    rw [hlist] at hdigits
    exact absurd (hdigits 'N' (by decide)) (by decide)
  | negSucc n =>
    change ("-" ++ Nat.repr (n + 1)).toList = _ at hlist
    simp at hlist

theorem renderDecimal_ne_none (amount : Int) (decimals : ℕ) :
    renderDecimal amount decimals ≠ "None" := by
  intro h
  have hread := Numeral.parse_render (canonical_decimalNumeral amount decimals).toWellFormed
  rw [← renderDecimal_eq_render, h, show Numeral.parse "None" = none by decide] at hread
  cases hread

/-- A date is written with dashes. -/
theorem isoformat_ne_none (t : Int) : isoformat t ≠ "None" := by
  intro h
  have hdash : '-' ∈ (isoformat t).toList := by
    unfold isoformat
    simp
  rw [h] at hdash
  exact absurd hdash (by decide)

/-- `decimal_string` of a number gives no `None`. -/
theorem exists_decimalString {amount : Json} (h : amount.Numeric) (decimals : Int) :
    ∃ s, decimalString amount (.int decimals) = .ok s ∧ s ≠ some "None" := by
  rcases h with rfl | ⟨n, hn, rfl⟩
  · exact ⟨none, rfl, fun h => nomatch h⟩
  · exact ⟨_, decimalString_of_writable hn decimals,
      fun h => renderDecimal_ne_none n _ (Option.some.inj h)⟩

/-- `value_decimal` of numbers. -/
theorem exists_valueDecimal {amount decimals : Json} (hamount : amount.Numeric)
    (hdecimals : decimals = .null ∨ ∃ n, decimals = .int n) :
    ∃ s, valueDecimal amount decimals = .ok s ∧ s ≠ some "None" := by
  rcases hdecimals with rfl | ⟨n, rfl⟩
  · exact ⟨none, rfl, fun h => nomatch h⟩
  · exact exists_decimalString hamount n

/-- **`str` makes the text `None` of null**, and of the text itself. -/
theorem pyStr_eq_none_iff {x : Json} : x.pyStr = "None" ↔ x = .null ∨ x = .str "None" := by
  constructor
  · intro h
    have hlist := congrArg String.toList h
    cases x with
    | null => exact .inl rfl
    | bool b => cases b <;> exact absurd h (by decide)
    | int n => exact absurd h (toString_ne_none n)
    | str s => exact .inr (congrArg Json.str h)
    | arr items =>
      rw [Json.pyStr, Json.pyRepr] at hlist
      · simp at hlist
      · exact fun s h => nomatch h
    | obj members =>
      rw [Json.pyStr, Json.pyRepr] at hlist
      · simp at hlist
      · exact fun s h => nomatch h
  · rintro (rfl | rfl) <;> rfl

/-- A number is rendered as `None` when it is null. -/
theorem IsNumber.pyStr_ne_none_iff {d : Dict} {key : String} (h : IsNumber d key) :
    (d.get key (.int 0)).pyStr ≠ "None" ↔ ¬NullAt d key := by
  rcases h.get_cases with ⟨hnull, hget⟩ | ⟨hnull, n, -, hget⟩
  · rw [hget]
    exact iff_of_false (fun h => h rfl) (fun h => h hnull)
  · rw [hget]
    exact iff_of_true (toString_ne_none n) hnull

/-! ### Responses -/

/-- The strings of a response: those that it writes, and those of the values that it copies. -/
def textsOf (written : List String) (copied : List Json) : List String :=
  written ++ copied.flatMap Json.strings

theorem none_notMem_textsOf {written : List String} {copied : List Json} :
    "None" ∉ textsOf written copied ↔ "None" ∉ written ∧ ∀ x ∈ copied, x.NoNone := by
  unfold textsOf Json.NoNone
  rw [List.mem_append, List.mem_flatMap, not_or]
  simp only [not_exists, not_and]

theorem none_notMem_toList {s : Option String} : "None" ∉ s.toList ↔ s ≠ some "None" := by
  rw [Option.mem_toList]

def MappedAccount.strings (m : MappedAccount) : List String :=
  textsOf ([m.hashFormat, m.coinBalance] ++ m.coinBalanceDecimal.toList)
    [m.hash, m.status, m.signatureType, m.rekeyedTo, m.minBalance, m.createdAtRound, m.deleted,
      m.counters.assetsHeld, m.counters.assetsCreated, m.counters.appsOptedIn,
      m.counters.appsCreated, m.counters.boxes, m.counters.boxBytes, m.asOfRound]

def MappedHolding.strings (m : MappedHolding) : List String :=
  textsOf (m.token.address.toList ++ m.token.totalSupply.toList ++ [m.token.type, m.value] ++
      m.valueDecimal.toList)
    [m.token.assetId, m.token.name, m.token.symbol, m.token.decimals, m.isFrozen,
      m.optedInAtRound, m.deleted]

def MappedHolder.strings (m : MappedHolder) : List String :=
  textsOf (m.value :: m.valueDecimal.toList) [m.addressHash, m.isFrozen, m.deleted]

def Page.strings {Item : Type} (f : Item → List String) (page : Page Item) : List String :=
  page.items.flatMap f ++ page.nextPageParams.toList.flatMap Json.strings

def MappedAsset.strings (m : MappedAsset) : List String :=
  textsOf ([m.address, m.type] ++ m.totalSupply.toList ++ m.totalSupplyDecimal.toList)
    [m.assetId, m.name, m.symbol, m.decimals, m.url, m.metadataHash, m.defaultFrozen,
      m.createdAtRound, m.destroyedAtRound, m.deleted, m.roles.creator, m.roles.manager,
      m.roles.reserve, m.roles.freeze, m.roles.clawback, m.asOfRound]

def TokenTransfer.strings (t : TokenTransfer) : List String :=
  textsOf [t.amount] [t.assetId, t.fromAddress, t.toAddress, t.closeTo]

def Close.strings (c : Close) : List String :=
  textsOf ([c.closeAmount, c.valueTotal] ++ c.closeAmountDecimal.toList ++
    c.valueTotalDecimal.toList) [c.closeRemainderTo, c.assetId]

/-- What a transaction copies of its record. -/
def MappedTransaction.copied (m : MappedTransaction) : List Json :=
  [m.hash, m.blockNumber, m.timestampUnix, m.fromHash, m.method, m.txType, m.position, m.note,
    m.group, m.rekeyTo, m.firstValid, m.lastValid, m.createdAssetIndex, m.createdApplicationIndex,
    m.logs]

/-- The strings of a transaction, its internal ones aside. -/
def MappedTransaction.ownStrings (m : MappedTransaction) : List String :=
  textsOf ([m.value, m.valueTotal, m.fee, m.status] ++ (m.timestamp.toList ++
      m.valueDecimal.toList ++ m.feeDecimal.toList ++ m.signatureType.toList))
    (m.copied ++ m.toHash.toList ++ (m.algorand.map (·.2)).toList) ++
    (m.close.toList.flatMap Close.strings ++ m.tokenTransfer.toList.flatMap TokenTransfer.strings)

theorem MappedTransaction.none_notMem_ownStrings (m : MappedTransaction) :
    "None" ∉ m.ownStrings ↔
      ((∀ s ∈ [m.value, m.valueTotal, m.fee, m.status], "None" ≠ s) ∧
        ∀ s ∈ [m.timestamp, m.valueDecimal, m.feeDecimal, m.signatureType], s ≠ some "None") ∧
      ((∀ x ∈ m.copied, x.NoNone) ∧ (∀ x ∈ m.toHash.toList, x.NoNone) ∧
        ∀ x ∈ (m.algorand.map (·.2)).toList, x.NoNone) ∧
      "None" ∉ m.close.toList.flatMap Close.strings ∧
      "None" ∉ m.tokenTransfer.toList.flatMap TokenTransfer.strings := by
  unfold MappedTransaction.ownStrings
  simp only [List.mem_append, not_or, none_notMem_textsOf, none_notMem_toList, List.mem_cons,
    List.not_mem_nil, or_false, or_imp, forall_and, forall_eq, ne_eq, and_assoc]

def MappedTransaction.strings (m : MappedTransaction) : List String :=
  m.all.flatMap MappedTransaction.ownStrings

end Algorandscout
