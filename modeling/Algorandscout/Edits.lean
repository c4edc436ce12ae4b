import Algorandscout.Listings

namespace Algorandscout

open Library

/-!
# Edited payloads

A payload with some of its members replaced by a value, and the payload with the same members
deleted.

* `Dict.edit` — edit the chosen ones among the named members of a dict;
* `editWrapped` — edit a record that may stand under a key of its own;
* `TxMembers`, `Choice`, `editTx` — edit a transaction record and its inner records, with a choice
  for each of them;
* `get_edit_of_notMem`, `subDict_editRecord`, `innerTxns_editRecord` — what is read of an edited
  record.
-/

/-! ### Dicts -/

/-- Give every member the value that `f` makes of it, or delete it. -/
def Dict.editBy (f : String → Json → Option Json) (d : Dict) : Dict :=
  d.filterMap fun m => (f m.1 m.2).map fun v => (m.1, v)

/-- Write `value` over the chosen ones among the named members, or delete them. -/
def Dict.edit (value : Option Json) (names : List String) (chosen : String → Bool) (d : Dict) :
    Dict :=
  d.editBy fun k v => if k ∈ names ∧ chosen k then value else some v

/-- Change what stands under a key. -/
def Dict.change (key : String) (f : Json → Json) (d : Dict) : Dict :=
  d.editBy fun k v => some (if k = key then f v else v)

/-- Change a dict; anything else stays as it is. -/
def Json.mapDict (f : Dict → Dict) : Json → Json
  | .obj d => .obj (f d)
  | x => x

/-- The values of the edited dict, when the key alone decides what is deleted. -/
theorem Dict.lookup_editBy {f : String → Json → Option Json} {key : String}
    (hkey : ∀ v v', f key v = none → f key v' = none) (d : Dict) :
    (d.editBy f).lookup key = (d.lookup key).bind (f key) := by
  induction d with
  | nil => rfl
  | cons m d ih =>
    obtain ⟨k, v⟩ := m
    unfold editBy at ih ⊢
    rw [List.filterMap_cons]
    by_cases hk : key = k
    · subst hk
      rw [List.lookup_cons_self, Option.bind_some]
      cases hf : f key v with
      | none =>
        -- The other members of the key are deleted too.
        rw [Option.map_none, ih]
        cases d.lookup key with
        | none => rfl
        | some v' => exact hkey v v' hf
      | some w => exact List.lookup_cons_self
    · have hb : (key == k) = false := by simpa using hk
      rw [List.lookup_cons, hb]
      cases f k v with
      | none => exact ih
      | some w =>
        simp only [Option.map_some, List.lookup_cons, hb]
        exact ih

theorem Dict.lookup_edit (value : Option Json) (names : List String) (chosen : String → Bool)
    (d : Dict) (key : String) : (d.edit value names chosen).lookup key =
      if key ∈ names ∧ chosen key then (d.lookup key).bind fun _ => value else d.lookup key := by
  unfold edit
  rw [Dict.lookup_editBy]
  · split_ifs
    · rfl
    · cases d.lookup key <;> rfl
  · intro v v'
    split_ifs
    · exact id
    · exact fun h => nomatch h

/-- A member that is not named is read as before. -/
theorem Dict.get_edit_of_notMem {names : List String} {key : String} (h : key ∉ names)
    (value : Option Json) (chosen : String → Bool) (d : Dict) (default : Json) :
    (d.edit value names chosen).get key default = d.get key default := by
  unfold get
  rw [lookup_edit, if_neg fun hchosen => h hchosen.1]

theorem Dict.edit_nil (value : Option Json) (chosen : String → Bool) (d : Dict) :
    d.edit value [] chosen = d := by
  have hsome : (fun m : String × Json => (if m.1 ∈ ([] : List String) ∧ chosen m.1 then value
      else some m.2).map fun v => (m.1, v)) = some := by
    funext m
    rw [if_neg fun h => List.not_mem_nil h.1]
    rfl
  unfold edit editBy
  rw [hsome, List.filterMap_some]

theorem Json.mapDict_edit_nil (value : Option Json) (chosen : String → Bool) (x : Json) :
    x.mapDict (Dict.edit value [] chosen) = x := by
  cases x with
  | obj d => exact congrArg Json.obj (Dict.edit_nil value chosen d)
  | _ => rfl

theorem Dict.lookup_change (key : String) (f : Json → Json) (d : Dict) (k : String) :
    (d.change key f).lookup k = if k = key then (d.lookup k).map f else d.lookup k := by
  unfold change
  rw [Dict.lookup_editBy]
  · split_ifs <;> cases d.lookup k <;> rfl
  · intro v v' h
    cases h

theorem Dict.get_change_of_ne {key k : String} (h : k ≠ key) (f : Json → Json) (d : Dict)
    (default : Json) : (d.change key f).get k default = d.get k default := by
  unfold get
  rw [lookup_change, if_neg h]

/-- `x or {}`, for an edited dict. -/
theorem Json.mapDict_or {f : Dict → Dict} (hf : f [] = []) (x : Json) :
    (x.mapDict f).or (.obj []) = (x.or (.obj [])).mapDict f := by
  cases x with
  | obj d =>
    cases d with
    | nil =>
      show (Json.obj (f [])).or (.obj []) = .obj (f [])
      rw [hf]
      rfl
    | cons m d =>
      show (Json.obj (f (m :: d))).or (.obj []) = .obj (f (m :: d))
      cases f (m :: d) <;> rfl
  | null => exact (congrArg Json.obj hf).symm
  | bool b => cases b with
    | false => exact (congrArg Json.obj hf).symm
    | true => rfl
  | int n =>
    by_cases hn : n = 0
    · subst hn
      exact (congrArg Json.obj hf).symm
    · simp [Json.or, Json.mapDict, hn]
  | str s =>
    by_cases hs : s = ""
    · subst hs
      exact (congrArg Json.obj hf).symm
    · simp [Json.or, Json.mapDict, hs]
  | arr items => cases items with
    | nil => exact (congrArg Json.obj hf).symm
    | cons i items => rfl

theorem Json.asDict_mapDict (f : Dict → Dict) (x : Json) :
    (x.mapDict f).asDict = f <$> x.asDict := by
  cases x <;> rfl

/-- The sub-object of a record in which it is changed. -/
theorem subDict_change (key : String) {f : Dict → Dict} (hf : f [] = []) (d : Dict) :
    subDict (d.change key (Json.mapDict f)) key = (subDict d key).mapDict f := by
  unfold subDict
  rw [← Json.mapDict_or hf]
  congr 1
  unfold Dict.get
  rw [Dict.lookup_change, if_pos rfl]
  cases d.lookup key with
  | none => exact (congrArg Json.obj hf).symm
  | some x => rfl

/-! ### Wrapped records -/

/-- Edit a record: what stands under its key, or the payload itself when nothing does. -/
def editWrapped (key : String) (f : Dict → Dict) : Json → Json
  | .obj d => if (d.lookup key).isSome then .obj (Dict.change key (Json.mapDict f) d)
    else .obj (f d)
  | x => x

/-- The record behind `payload.get(key, payload) or {}`. -/
def wrapped (key : String) (d : Dict) : Json := (d.get key (.obj d)).or (.obj [])

/-- **The record of the edited payload is the edited record**; the members beside it are the same
    unless they are edited themselves. -/
theorem editWrapped_obj (key : String) (f : Dict → Dict) (hf : f [] = [])
    (hkey : ∀ d : Dict, d.lookup key = none → (f d).lookup key = none) (d : Dict) :
    ∃ d' : Dict, editWrapped key f (.obj d) = .obj d' ∧ wrapped key d' = (wrapped key d).mapDict f ∧
      ∀ k ≠ key, (∀ d : Dict, (f d).get k = d.get k) → d'.get k = d.get k := by
  unfold editWrapped wrapped
  cases hlookup : d.lookup key with
  | none =>
    refine ⟨f d, by simp [hlookup], ?_, fun k _ h => h d⟩
    rw [Dict.get_of_lookup_none hlookup, Dict.get_of_lookup_none (hkey d hlookup)]
    exact Json.mapDict_or hf (.obj d)
  | some x =>
    refine ⟨Dict.change key (Json.mapDict f) d, by simp [hlookup], ?_,
      fun k hk _ => Dict.get_change_of_ne hk _ d _⟩
    have hchange : (d.change key (Json.mapDict f)).lookup key = some (x.mapDict f) := by
      rw [Dict.lookup_change, if_pos rfl, hlookup]
      rfl
    rw [Dict.get_of_lookup hlookup, Dict.get_of_lookup hchange]
    exact Json.mapDict_or hf x

/-! ### Transaction records -/

/-- The members to edit: of the record itself, and of the sub-object under a key. -/
structure TxMembers where
  top : List String
  detail : String → List String

/-- Which of the members are chosen, in a record and in each of its inner records. -/
inductive Choice where
  /-- None, here and below. -/
  | keep
  | node (top : String → Bool) (detail : String → String → Bool) (inner : ℕ → Choice)

/-- Edit the items of a list, each by its position. -/
def Json.mapItems (f : ℕ → Json → Json) : Json → Json
  | .arr items => .arr (items.mapIdx f)
  | x => x

/-- Edit one record; `inner` edits its inner records. -/
def editRecord (value : Option Json) (names : TxMembers) (top : String → Bool)
    (detail : String → String → Bool) (inner : ℕ → Json → Json) (tx : Dict) : Dict :=
  tx.editBy fun k v =>
    if k ∈ names.top ∧ top k then value
    else if k = "inner-txns" then some (v.mapItems inner)
    else some (v.mapDict (Dict.edit value (names.detail k) (detail k)))

/-- Edit a record and its inner records at every depth. -/
def editTx (value : Option Json) (names : TxMembers) : Choice → Json → Json
  | .node top detail inner, .obj tx =>
    .obj (editRecord value names top detail (fun i r => editTx value names (inner i) r) tx)
  | _, x => x

/-- What is found for a type is in the table. -/
theorem mem_of_lookupType_eq {table : List (String × String)} {txType : Json} {value : String}
    (h : lookupType table txType = .ok (some value)) :
    ∃ t, txType.or (.str "") = .str t ∧ (t, value) ∈ table := by
  unfold lookupType at h
  split at h
  · next t ht =>
    obtain ⟨before, after, htable, -⟩ := List.lookup_eq_some_iff.mp (Except.ok.inj h)
    exact ⟨t, ht, htable ▸ List.mem_append_cons_self⟩
  · cases h
  · cases h
  · cases h

/-- A type with a sub-object is in the table. -/
theorem mem_of_lookupType {txType : Json} {key : String}
    (hkey : lookupType txTypeDetailKey txType = .ok (some key)) :
    ∃ t, txType = .str t ∧ (t, key) ∈ txTypeDetailKey := by
  obtain ⟨t, ht, hmem⟩ := mem_of_lookupType_eq hkey
  -- It is not empty, so it is the type of the record.
  have hne : ∀ entry ∈ txTypeDetailKey, entry.1 ≠ "" := by decide
  unfold Json.or at ht
  split_ifs at ht
  · exact ⟨t, ht, hmem⟩
  · exact absurd (Json.str.inj ht).symm (hne _ hmem)

/-- The sub-object that is read of a record, by its type. -/
theorem lookupType_cases {txType : Json} {key : Option String}
    (hkey : lookupType txTypeDetailKey txType = .ok key) :
    (txType = .str "pay" ∧ key = some "payment-transaction") ∨
      (txType = .str "axfer" ∧ key = some "asset-transfer-transaction") ∨
      (txType.eqStr "pay" = false ∧ txType.eqStr "axfer" = false ∧
        key.getD "" ∉ ["payment-transaction", "asset-transfer-transaction"]) := by
  by_cases hpay : txType = .str "pay"
  · subst hpay
    exact .inl ⟨rfl, (Except.ok.inj hkey).symm⟩
  by_cases haxfer : txType = .str "axfer"
  · subst haxfer
    exact .inr (.inl ⟨rfl, (Except.ok.inj hkey).symm⟩)
  refine .inr (.inr ⟨?_, ?_, ?_⟩)
  · exact Bool.eq_false_iff.mpr fun h => hpay (Json.eqStr_iff.mp h)
  · exact Bool.eq_false_iff.mpr fun h => haxfer (Json.eqStr_iff.mp h)
  · cases key with
    | none => decide
    | some key =>
      have hrow : ∀ entry ∈ txTypeDetailKey, entry.1 ≠ "pay" → entry.1 ≠ "axfer" →
          entry.2 ∉ ["payment-transaction", "asset-transfer-transaction"] := by
        decide
      obtain ⟨t, rfl, hmem⟩ := mem_of_lookupType hkey
      apply hrow _ hmem
      · rintro rfl
        exact hpay rfl
      · rintro rfl
        exact haxfer rfl

/-- The keys under which sub-objects are read. -/
theorem detailKey_mem {txType : Json} {key : Option String}
    (hkey : lookupType txTypeDetailKey txType = .ok key) :
    key.getD "" ∈ "" :: txTypeDetailKey.map (·.2) := by
  cases key with
  | none => exact List.mem_cons_self
  | some key =>
    obtain ⟨t, -, hmem⟩ := mem_of_lookupType hkey
    exact List.mem_cons_of_mem _ (List.mem_map.mpr ⟨(t, key), hmem, rfl⟩)

section

variable {value : Option Json} {names : TxMembers} {top : String → Bool}
  {detail : String → String → Bool} {inner : ℕ → Json → Json}

theorem lookup_editRecord (tx : Dict) (key : String) :
    (editRecord value names top detail inner tx).lookup key =
      if key ∈ names.top ∧ top key then (tx.lookup key).bind fun _ => value
      else if key = "inner-txns" then (tx.lookup key).map (Json.mapItems inner)
      else (tx.lookup key).map
        (Json.mapDict (Dict.edit value (names.detail key) (detail key))) := by
  unfold editRecord
  rw [Dict.lookup_editBy]
  · split_ifs <;> cases tx.lookup key <;> rfl
  · intro v v'
    split_ifs
    · exact id
    · exact fun h => nomatch h
    · exact fun h => nomatch h

/-- The members that are neither edited nor hold anything edited are as before. -/
theorem lookup_editRecord_of_not {key : String} (htop : ¬(key ∈ names.top ∧ top key = true))
    (hinner : key ≠ "inner-txns") (hdetail : names.detail key = []) (tx : Dict) :
    (editRecord value names top detail inner tx).lookup key = tx.lookup key := by
  have hid : Json.mapDict (Dict.edit value (names.detail key) (detail key)) = id := by
    funext x
    rw [hdetail]
    exact Json.mapDict_edit_nil value (detail key) x
  rw [lookup_editRecord, if_neg htop, if_neg hinner, hid, Option.map_id, id_eq]

theorem get_editRecord {key : String} (htop : key ∉ names.top) (hinner : key ≠ "inner-txns")
    (hdetail : names.detail key = []) (tx : Dict) (default : Json) :
    (editRecord value names top detail inner tx).get key default = tx.get key default := by
  unfold Dict.get
  rw [lookup_editRecord_of_not (fun h => htop h.1) hinner hdetail]

/-- The sub-object of an edited record is the edited sub-object. -/
theorem subDict_editRecord {key : String} (htop : key ∉ names.top) (hinner : key ≠ "inner-txns")
    (tx : Dict) : subDict (editRecord value names top detail inner tx) key =
      (subDict tx key).mapDict (Dict.edit value (names.detail key) (detail key)) := by
  unfold subDict Dict.get
  rw [← Json.mapDict_or rfl, lookup_editRecord, if_neg fun h => htop h.1, if_neg hinner]
  cases tx.lookup key <;> rfl

/-- The items behind `x or []`, for an edited list. -/
theorem Json.asList_or_mapItems (f : ℕ → Json → Json) (x : Json) :
    ((x.mapItems f).or (.arr [])).asList = List.mapIdx f <$> (x.or (.arr [])).asList := by
  by_cases hx : ∃ items, x = .arr items
  · obtain ⟨items, rfl⟩ := hx
    show ((Json.arr (items.mapIdx f)).or (.arr [])).asList = _
    cases items with
    | nil => rfl
    | cons i items =>
      rw [List.mapIdx_cons]
      show Except.ok (f 0 i :: items.mapIdx fun i => f (i + 1)) = .ok ((i :: items).mapIdx f)
      rw [List.mapIdx_cons]
  · -- Nothing else holds items.
    have hsame : x.mapItems f = x := by
      cases x with
      | arr items => exact absurd ⟨items, rfl⟩ hx
      | _ => rfl
    rw [hsame]
    cases hitems : (x.or (.arr [])).asList with
    | error e => rfl
    | ok items =>
      rcases Json.asList_or_eq_ok hitems with rfl | rfl
      · rfl
      · exact absurd ⟨items, rfl⟩ hx

/-- The inner records of an edited record are the edited inner records. -/
theorem innerTxns_editRecord (htop : "inner-txns" ∉ names.top) (tx : Dict) :
    innerTxns (editRecord value names top detail inner tx) =
      List.mapIdx inner <$> innerTxns tx := by
  unfold innerTxns Dict.get
  rw [lookup_editRecord, if_neg fun h => htop h.1, if_pos rfl]
  cases tx.lookup "inner-txns" with
  | none => rfl
  | some x => exact Json.asList_or_mapItems inner x

end

end Algorandscout
