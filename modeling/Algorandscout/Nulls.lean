import Algorandscout.Edits
import Algorandscout.Resolution

namespace Algorandscout

open Library

/-!
# Null numbers

A null number should be as good as an absent one: the mapper returns, no `None` is in the
response, and the response is that of the payload without the null members.

* `numericMembers`, `Dict.dropNulls` — delete chosen numeric members that are null;
* `AsAbsent` — what should hold of a payload and of the one without them;
* `mapAccount_nulls`, `mapAccountAssets_nulls`, `mapAssetHolders_nulls`,
  `TokenPayload.mapAsset_nulls` — when it does.
-/

def numericMembers : List String :=
  ["amount", "fee", "total", "decimals", "index", "close-amount", "closing-amount"]

/-- Delete the chosen ones among the numeric members that are null. -/
def Dict.dropNulls (chosen : String → Bool) (d : Dict) : Dict :=
  d.edit none numericMembers fun key => chosen key && (d.get key).isNull

/-- The mapper returns for the payload and for the one without the nulls, responds the same, and
    there is no text `None` in the response. -/
def AsAbsent {α : Type} (strings : α → List String) (Same : α → α → Prop)
    (result dropped : Except PyError α) : Prop :=
  ∃ m m', result = .ok m ∧ dropped = .ok m' ∧ Same m m' ∧ "None" ∉ strings m

/-! ### Dicts without nulls -/

theorem get_isNull_of_lookup {d : Dict} {key : String} {x : Json} (h : d.lookup key = some x) :
    (d.get key).isNull = true ↔ NullAt d key := by
  unfold NullAt
  rw [Dict.get_of_lookup h, h, Option.some.injEq]
  cases x with
  | null => exact iff_of_true rfl rfl
  | _ => exact iff_of_false (fun h => nomatch h) (fun h => nomatch h)

/-- A chosen null is deleted. -/
theorem Dict.lookup_dropNulls_of_null {chosen : String → Bool} {d : Dict} {key : String}
    (hmem : key ∈ numericMembers) (hchosen : chosen key = true) (hnull : NullAt d key) :
    (d.dropNulls chosen).lookup key = none := by
  have hget := (get_isNull_of_lookup hnull).mpr hnull
  unfold dropNulls
  rw [lookup_edit, if_pos ⟨hmem, Bool.and_eq_true_iff.mpr ⟨hchosen, hget⟩⟩]
  cases d.lookup key <;> rfl

/-- Everything else is kept. -/
theorem Dict.lookup_dropNulls_of_not {chosen : String → Bool} {d : Dict} {key : String}
    (h : ¬(key ∈ numericMembers ∧ chosen key = true ∧ NullAt d key)) :
    (d.dropNulls chosen).lookup key = d.lookup key := by
  unfold dropNulls
  rw [lookup_edit]
  split_ifs with hdropped
  · obtain ⟨hmem, hboth⟩ := hdropped
    obtain ⟨hchosen, hget⟩ := Bool.and_eq_true_iff.mp hboth
    cases hlookup : d.lookup key with
    | none => rfl
    | some x => exact absurd ⟨hmem, hchosen, (get_isNull_of_lookup hlookup).mp hget⟩ h
  · rfl

/-- A deleted null is read as the default. -/
theorem Dict.get_dropNulls_of_null {chosen : String → Bool} {d : Dict} {key : String}
    (hmem : key ∈ numericMembers) (hchosen : chosen key = true) (hnull : NullAt d key)
    (default : Json) : (d.dropNulls chosen).get key default = default :=
  Dict.get_of_lookup_none (lookup_dropNulls_of_null hmem hchosen hnull) default

theorem Dict.get_dropNulls_of_not {chosen : String → Bool} {d : Dict} {key : String}
    (h : ¬(chosen key = true ∧ NullAt d key)) (default : Json) :
    (d.dropNulls chosen).get key default = d.get key default := by
  unfold get
  rw [lookup_dropNulls_of_not fun hdropped => h hdropped.2]

theorem Dict.get_dropNulls_of_notMem {key : String} (h : key ∉ numericMembers)
    (chosen : String → Bool) (d : Dict) (default : Json) :
    (d.dropNulls chosen).get key default = d.get key default := by
  unfold get
  rw [lookup_dropNulls_of_not fun hdropped => h hdropped.1]

/-- **Where null is the default, nothing changes.** -/
@[simp] theorem Dict.get_dropNulls (chosen : String → Bool) (d : Dict) (key : String) :
    (d.dropNulls chosen).get key = d.get key := by
  by_cases h : key ∈ numericMembers ∧ chosen key = true ∧ NullAt d key
  · obtain ⟨hmem, hchosen, hnull⟩ := h
    rw [Dict.get_dropNulls_of_null hmem hchosen hnull, Dict.get_of_lookup hnull]
  · unfold get
    rw [lookup_dropNulls_of_not h]

theorem Dict.lookup_dropNulls_eq_none {chosen : String → Bool} {d : Dict} {key : String}
    (h : d.lookup key = none) : (d.dropNulls chosen).lookup key = none := by
  rw [lookup_dropNulls_of_not, h]
  rintro ⟨-, -, hnull⟩
  cases h.symm.trans hnull

/-! ### Accounts -/

/-- A payload that holds an account, the numbers of which may be null. -/
structure AccountPayload where
  members : Dict
  account : Dict
  account_eq : wrapped "account" members = .obj account
  amount_isNumber : IsNumber account "amount"
  apps_isNumber : IsNumber account "total-created-apps"

/-- The members of an account that are copied. -/
def accountCopied : List String :=
  ["address", "status", "sig-type", "auth-addr", "min-balance", "created-at-round", "deleted",
    "total-assets-opted-in", "total-created-assets", "total-apps-opted-in", "total-boxes",
    "total-box-bytes"]

/-- Delete null members of the account. -/
def dropAccount (chosen : String → Bool) : Json → Json :=
  editWrapped "account" (Dict.dropNulls chosen)

/-- The amount is not null, and no text that is copied is `None`. -/
def AccountPayload.NumbersThere (p : AccountPayload) : Prop :=
  ¬NullAt p.account "amount" ∧ (∀ key ∈ accountCopied, (p.account.get key).NoNone) ∧
    ((p.members.get "current-round").or (p.account.get "round")).NoNone

theorem mapAccount_strings (p : AccountPayload) : ∃ m, mapAccount (.obj p.members) = .ok m ∧
    ("None" ∉ m.strings ↔ p.NumbersThere) := by
  obtain ⟨n, happs⟩ : ∃ n, (p.account.get "total-created-apps" (.int 0)).or (.int 0) = .int n := by
    rcases p.apps_isNumber.numeric_get with hnull | ⟨n, -, hn⟩
    · rw [hnull]
      exact ⟨0, rfl⟩
    · rw [hn]
      exact ⟨n, Json.or_int_zero n⟩
  have haccount : ((p.members.get "account" (.obj p.members)).or (.obj [])).asDict =
      .ok p.account := by
    have heq := p.account_eq
    unfold wrapped at heq
    rw [heq]
    rfl
  obtain ⟨s, hs, hsnone⟩ := exists_decimalString p.amount_isNumber.numeric_get algoDecimals
  unfold mapAccount
  simp only [Json.asDict_obj, ok_bind, haccount, hs, happs, Json.asInt_int]
  refine ⟨_, rfl, ?_⟩
  unfold MappedAccount.strings AccountPayload.NumbersThere
  rw [none_notMem_textsOf]
  apply and_congr
  · rw [List.mem_append, not_or, none_notMem_toList, and_iff_left hsnone, List.mem_pair, not_or,
      and_iff_right (show "None" ≠ "base32-ed25519" by decide),
      ← p.amount_isNumber.pyStr_ne_none_iff, ne_comm]
  · unfold accountCopied
    simp only [List.forall_mem_cons, List.not_mem_nil, false_implies, implies_true,
      noNone_get_int, noNone_get_bool, noNone_clean, noNone_int, true_and, and_true, and_assoc]

/-- An account whose amount is not null is read as without its nulls. -/
theorem mapAccount_dropNulls (p : AccountPayload) (h : ¬NullAt p.account "amount")
    (chosen : String → Bool) :
    mapAccount (dropAccount chosen (.obj p.members)) = mapAccount (.obj p.members) := by
  obtain ⟨u, hu, hwrapped, hsame⟩ := editWrapped_obj "account" (Dict.dropNulls chosen) rfl
    (fun d => Dict.lookup_dropNulls_eq_none) p.members
  have hround : u.get "current-round" = p.members.get "current-round" :=
    hsame _ (by decide) fun d => Dict.get_dropNulls chosen d _
  have hamount : (p.account.dropNulls chosen).get "amount" (.int 0) =
      p.account.get "amount" (.int 0) := Dict.get_dropNulls_of_not (fun hnull => h hnull.2) _
  unfold dropAccount
  rw [hu]
  unfold mapAccount
  have haccount := p.account_eq
  unfold wrapped at hwrapped haccount
  rw [haccount] at hwrapped
  simp only [Json.asDict_obj, ok_bind, hwrapped, haccount, hround, Json.mapDict]
  simp (disch := decide) only [Dict.get_dropNulls_of_notMem, hamount]

/-- **Accounts.** -/
theorem mapAccount_nulls (p : AccountPayload) (chosen : String → Bool) :
    AsAbsent MappedAccount.strings (· = ·) (mapAccount (.obj p.members))
      (mapAccount (dropAccount chosen (.obj p.members))) ↔ p.NumbersThere := by
  obtain ⟨m, hm, hstrings⟩ := mapAccount_strings p
  constructor
  · rintro ⟨m₁, -, hm₁, -, -, hnone⟩
    obtain rfl := Except.ok.inj (hm.symm.trans hm₁)
    exact hstrings.mp hnone
  · intro hthere
    refine ⟨m, m, hm, ?_, rfl, hstrings.mpr hthere⟩
    rw [mapAccount_dropNulls p hthere.1, hm]

/-! ### Pages -/

/-- Delete null members of the records of a page. -/
def dropItems (key : String) (chosen : ℕ → String → Bool) : Json → Json
  | .obj d => .obj (Dict.change key
      (Json.mapItems fun i => Json.mapDict (Dict.dropNulls (chosen i))) d)
  | x => x

/-- What the mappers of pages have in common. -/
def mapPage {Item : Type} (key : String) (f : Json → Except PyError Item) (payload : Json) :
    Except PyError (Page Item) := do
  let members ← payload.asDict
  let items ← (← listed members key).mapM f
  return ⟨items, nextPage members⟩

theorem mapAccountAssets_eq_mapPage (payload : Json) (params : AssetParams) :
    mapAccountAssets payload params = mapPage "assets" (mapHolding params) payload := rfl

theorem mapAssetHolders_eq_mapPage (payload decimals : Json) :
    mapAssetHolders payload decimals = mapPage "balances" (mapHolder decimals) payload := rfl

/-- Only a list goes through dicts. -/
theorem eq_arr_of_iter {x : Json} {r : Dict} {records : List Dict}
    (h : (x.or (.arr [])).iter = .ok ((r :: records).map Json.obj)) :
    x = .arr ((r :: records).map Json.obj) := by
  have htruthy : x.truthy = true := by
    by_contra hx
    rw [Bool.not_eq_true] at hx
    rw [Json.or_of_not_truthy _ hx] at h
    cases Except.ok.inj h
  rw [Json.or_of_truthy _ htruthy] at h
  cases x with
  | arr items => exact congrArg Json.arr (Except.ok.inj h)
  | obj members => cases members with
    | nil => cases htruthy
    | cons m members => cases (List.cons.inj (Except.ok.inj h)).1
  | str s =>
    cases hs : s.toList with
    | nil =>
      rw [Json.iter, hs] at h
      cases Except.ok.inj h
    | cons c cs =>
      rw [Json.iter, hs] at h
      cases (List.cons.inj (Except.ok.inj h)).1
  | null => cases h
  | bool b => cases h
  | int n => cases h

/-- The records of an edited page are the edited records. -/
theorem listed_change {d : Dict} {key : String} {records : List Dict}
    (h : listed d key = .ok (records.map .obj)) (f : ℕ → Json → Json) :
    listed (d.change key (Json.mapItems f)) key = .ok ((records.map Json.obj).mapIdx f) := by
  unfold listed at h ⊢
  rw [Json.get_or_default] at h ⊢
  have hchange : (d.change key (Json.mapItems f)).get key = (d.get key).mapItems f := by
    unfold Dict.get
    rw [Dict.lookup_change, if_pos rfl]
    cases d.lookup key <;> rfl
  rw [hchange]
  cases records with
  | nil =>
    have hfalse : (d.get key).truthy = false := Json.truthy_of_iter_or_eq_nil h
    have hedited : ((d.get key).mapItems f).truthy = false := by
      cases hget : d.get key with
      | arr items => cases items with
        | nil => rfl
        | cons item items =>
          rw [hget] at hfalse
          cases hfalse
      | _ =>
        rw [hget] at hfalse
        exact hfalse
    rw [Json.or_of_not_truthy _ hedited]
    rfl
  | cons r records =>
    rw [eq_arr_of_iter h]
    show ((Json.arr (((r :: records).map Json.obj).mapIdx f)).or (.arr [])).iter = _
    rw [List.map_cons, List.mapIdx_cons]
    rfl

/-- The text of a page beside those of its items. -/
theorem noNone_nextPage (d : Dict) :
    "None" ∉ (nextPage d).toList.flatMap Json.strings ↔ (d.get "next-token").NoNone := by
  unfold nextPage
  simp only
  split_ifs with htoken
  · rw [Option.toList_some, List.flatMap_singleton]
    rfl
  · rw [Bool.not_eq_true] at htoken
    exact iff_of_true List.not_mem_nil (noNone_of_not_truthy htoken)

section

variable {Item α : Type} {strings : Item → List String} {key : String} {members : Dict}
  {records : List α} {toDict : α → Dict} {There : α → Prop} {f g : Json → Except PyError Item}

/-- **Pages**, from what holds of each record. -/
theorem mapPage_nulls (hlisted : listed members key = .ok ((records.map toDict).map .obj))
    (hkey : "next-token" ≠ key)
    (hf : ∀ r ∈ records, ∃ item, f (.obj (toDict r)) = .ok item ∧
      ("None" ∉ strings item ↔ There r))
    (hg : ∀ r ∈ records, There r → ∀ chosen,
      g (.obj ((toDict r).dropNulls chosen)) = f (.obj (toDict r)))
    (chosen : ℕ → String → Bool) :
    AsAbsent (Page.strings strings) (· = ·) (mapPage key f (.obj members))
        (mapPage key g (dropItems key chosen (.obj members))) ↔
      (∀ r ∈ records, There r) ∧ (members.get "next-token").NoNone := by
  have hitems : ∃ items, List.Forall₂ (fun r item => f (.obj (toDict r)) = .ok item ∧
      ("None" ∉ strings item ↔ There r)) records items := exists_forall₂_iff.mpr hf
  obtain ⟨items, hitems⟩ := hitems
  have hmapped : ((records.map toDict).map Json.obj).mapM f = .ok items := by
    rw [mapM_eq_ok_iff, List.forall₂_map_left_iff, List.forall₂_map_left_iff]
    exact hitems.imp fun _ _ h => h.1
  have hpage : mapPage key f (.obj members) = .ok ⟨items, nextPage members⟩ := by
    unfold mapPage
    simp only [Json.asDict_obj, ok_bind, hlisted, hmapped]
    rfl
  have hstrings : "None" ∉ Page.strings strings ⟨items, nextPage members⟩ ↔
      (∀ r ∈ records, There r) ∧ (members.get "next-token").NoNone := by
    unfold Page.strings
    rw [List.mem_append, not_or, noNone_nextPage, List.mem_flatMap,
      forall_iff_of_forall₂ hitems fun _ _ _ h => h.2.symm]
    simp only [not_exists, not_and]
  constructor
  · rintro ⟨page, -, hpage', -, -, hnone⟩
    obtain rfl := Except.ok.inj (hpage.symm.trans hpage')
    exact hstrings.mp hnone
  · intro hthere
    refine ⟨_, _, hpage, ?_, rfl, hstrings.mpr hthere⟩
    have hdropped : (((records.map toDict).map Json.obj).mapIdx fun i =>
        Json.mapDict (Dict.dropNulls (chosen i))).mapM g = .ok items := by
      rw [← hmapped]
      apply mapM_mapIdx_congr
      intro x hx i
      obtain ⟨d, hd, rfl⟩ := List.mem_map.mp hx
      obtain ⟨r, hr, rfl⟩ := List.mem_map.mp hd
      exact hg r hr (hthere.1 r hr) (chosen i)
    unfold mapPage dropItems
    simp only [Json.asDict_obj, ok_bind, listed_change hlisted, hdropped]
    unfold nextPage
    rw [Dict.get_change_of_ne hkey]
    rfl

end

/-! ### Holdings -/

/-- The metadata that was resolved, the numbers of which may be null. -/
structure Metadata where
  entries : List (Key × Dict)
  isNumber : ∀ entry ∈ entries, IsNumber entry.2 "decimals" ∧ IsNumber entry.2 "total"

namespace Metadata

def params (metadata : Metadata) : AssetParams :=
  metadata.entries.map fun entry => (entry.1, .obj entry.2)

/-- Delete null members of the metadata. -/
def dropNulls (chosen : Key → String → Bool) (metadata : Metadata) : AssetParams :=
  metadata.entries.map fun entry => (entry.1, .obj (entry.2.dropNulls (chosen entry.1)))

/-- The key of a holding. -/
def keyOf (h : Holding) : Key := (h.assetId.map Key.num).getD .none

/-- The metadata of a holding. -/
def of (metadata : Metadata) (h : Holding) : Dict :=
  (metadata.entries.lookup (keyOf h)).getD []

end Metadata

/-- The amount is not null, and no text that is copied is `None`. -/
def Holding.NumbersThere (metadata : Metadata) (h : Holding) : Prop :=
  ¬NullAt h.members "amount" ∧
    (∀ key ∈ ["name", "unit-name"], ((metadata.of h).get key).NoNone) ∧
    ∀ key ∈ ["is-frozen", "opted-in-at-round", "deleted"], (h.members.get key).NoNone

namespace Metadata

theorem isNumber_of (metadata : Metadata) (h : Holding) :
    IsNumber (metadata.of h) "decimals" ∧ IsNumber (metadata.of h) "total" := by
  unfold of
  cases hlookup : metadata.entries.lookup (keyOf h) with
  | none => exact ⟨.inl rfl, .inl rfl⟩
  | some d =>
    obtain ⟨before, after, hentries, -⟩ := List.lookup_eq_some_iff.mp hlookup
    exact metadata.isNumber (_, d) (hentries ▸ List.mem_append_cons_self)

/-- What is read for a holding of metadata in which each dict is changed. -/
theorem metadata_map (metadata : Metadata) (f : Key → Dict → Dict) (h : Holding)
    (hnil : f (keyOf h) [] = []) :
    AssetParams.metadata (metadata.entries.map fun entry => (entry.1, .obj (f entry.1 entry.2)))
      (h.members.get "asset-id") = .ok (.obj (f (keyOf h) (metadata.of h))) := by
  have hkey : (h.members.get "asset-id").key = .ok (keyOf h) := by
    rw [h.assetId_eq]
    unfold keyOf
    cases h.assetId <;> rfl
  have hlookup : ∀ (entries : List (Key × Dict)) (key : Key),
      (entries.map fun entry => (entry.1, Json.obj (f entry.1 entry.2))).lookup key =
        (entries.lookup key).map fun d => .obj (f key d) := by
    intro entries key
    induction entries with
    | nil => rfl
    | cons entry entries ih =>
      obtain ⟨k, d⟩ := entry
      by_cases hk : key = k
      · subst hk
        rw [List.map_cons, List.lookup_cons_self, List.lookup_cons_self, Option.map_some]
      · have hb : (key == k) = false := by simpa using hk
        simp only [List.map_cons, List.lookup_cons, hb, ih]
  unfold AssetParams.metadata of
  rw [hkey, ok_bind, hlookup]
  cases metadata.entries.lookup (keyOf h) with
  | none =>
    show Except.ok (Json.obj []) = .ok (.obj (f (keyOf h) []))
    rw [hnil]
  | some d => rfl

end Metadata

theorem classifyAsset_ne_none (params : Dict) : "None" ≠ classifyAsset params := by
  unfold classifyAsset
  simp only
  split_ifs
  · decide
  · split
    · split_ifs <;> decide
    · decide

/-- An optional integer is rendered without `None`. -/
theorem rendered_ne_none {x : Json} (h : x = .null ∨ ∃ n, x = .int n) :
    (if x.isNull then none else some x.pyStr) ≠ some "None" := by
  rcases h with rfl | ⟨n, rfl⟩
  · exact fun h => nomatch h
  · exact fun h => toString_ne_none n (Option.some.inj h)

theorem noNone_of_null_or_int {x : Json} (h : x = .null ∨ ∃ n, x = .int n) : x.NoNone := by
  rcases h with rfl | ⟨n, rfl⟩
  · exact noNone_null
  · exact noNone_int n

theorem IsNumber.rendered_ne_none {d : Dict} {key : String} (h : IsNumber d key) :
    (if (d.get key).isNull then none else some (d.get key).pyStr) ≠ some "None" :=
  Algorandscout.rendered_ne_none h.eq_null_or_int

theorem IsNumber.noNone {d : Dict} {key : String} (h : IsNumber d key) : (d.get key).NoNone :=
  noNone_of_null_or_int h.eq_null_or_int

theorem Holding.assetId_null_or_int (h : Holding) :
    h.members.get "asset-id" = .null ∨ ∃ n, h.members.get "asset-id" = .int n := by
  rw [h.assetId_eq]
  cases h.assetId with
  | none => exact .inl rfl
  | some id => exact .inr ⟨id, rfl⟩

theorem mapHolding_strings (metadata : Metadata) (h : Holding) :
    ∃ item, mapHolding metadata.params (.obj h.members) = .ok item ∧
      ("None" ∉ item.strings ↔ h.NumbersThere metadata) := by
  obtain ⟨hdecimals, htotal⟩ := metadata.isNumber_of h
  obtain ⟨s, hs, hsnone⟩ := exists_valueDecimal h.amount_isNumber.numeric_get hdecimals.eq_null_or_int
  have hmetadata : metadata.params.metadata (h.members.get "asset-id") =
      .ok (.obj (metadata.of h)) := metadata.metadata_map (fun _ d => d) h rfl
  unfold mapHolding
  simp only [Json.asDict_obj, ok_bind, hmetadata, hs]
  refine ⟨_, rfl, ?_⟩
  unfold MappedHolding.strings Holding.NumbersThere
  rw [none_notMem_textsOf]
  apply and_congr
  · simp only [List.mem_append, not_or, none_notMem_toList, tokenStub]
    rw [and_iff_left hsnone, List.mem_pair, not_or, and_iff_right (classifyAsset_ne_none _),
      and_iff_right ⟨rendered_ne_none h.assetId_null_or_int, htotal.rendered_ne_none⟩,
      ← h.amount_isNumber.pyStr_ne_none_iff, ne_comm]
  · simp only [List.forall_mem_cons, List.not_mem_nil, false_implies, implies_true,
      noNone_get_bool, and_true, and_assoc, tokenStub, hdecimals.noNone, true_and,
      noNone_of_null_or_int h.assetId_null_or_int]

/-- A holding whose amount is not null is read as without its nulls and those of the metadata. -/
theorem mapHolding_dropNulls (metadata : Metadata) (chosenParams : Key → String → Bool)
    (h : Holding) (hamount : ¬NullAt h.members "amount") (chosen : String → Bool) :
    mapHolding (metadata.dropNulls chosenParams) (.obj (h.members.dropNulls chosen)) =
      mapHolding metadata.params (.obj h.members) := by
  have hread : metadata.params.metadata (h.members.get "asset-id") =
      .ok (.obj (metadata.of h)) := metadata.metadata_map (fun _ d => d) h rfl
  have hdropped : (metadata.dropNulls chosenParams).metadata (h.members.get "asset-id") =
      .ok (.obj ((metadata.of h).dropNulls (chosenParams (Metadata.keyOf h)))) :=
    metadata.metadata_map (fun key => Dict.dropNulls (chosenParams key)) h rfl
  have hget : (h.members.dropNulls chosen).get "amount" (.int 0) =
      h.members.get "amount" (.int 0) := Dict.get_dropNulls_of_not (fun hnull => hamount hnull.2) _
  unfold mapHolding
  simp (disch := decide) only [Json.asDict_obj, ok_bind, Dict.get_dropNulls, hget, hread, hdropped,
    Dict.get_dropNulls_of_notMem, tokenStub, classifyAsset]

/-- **Holdings.** -/
theorem mapAccountAssets_nulls (page : HoldingsPage) (metadata : Metadata)
    (chosen : ℕ → String → Bool) (chosenParams : Key → String → Bool) :
    AsAbsent (Page.strings MappedHolding.strings) (· = ·)
        (mapAccountAssets (.obj page.members) metadata.params)
        (mapAccountAssets (dropItems "assets" chosen (.obj page.members))
          (metadata.dropNulls chosenParams)) ↔
      (∀ h ∈ page.holdings, h.NumbersThere metadata) ∧ (page.members.get "next-token").NoNone := by
  have hlisted : listed page.members "assets" =
      .ok ((page.holdings.map (·.members)).map .obj) := by
    rw [List.map_map]
    exact page.listed_eq
  rw [mapAccountAssets_eq_mapPage, mapAccountAssets_eq_mapPage]
  exact mapPage_nulls hlisted (by decide) (fun h _ => mapHolding_strings metadata h)
    (fun h _ hthere => mapHolding_dropNulls metadata chosenParams h hthere.1) chosen

/-! ### Holders -/

/-- A page of holders, the amounts of which may be null. -/
structure HoldersPage where
  members : Dict
  balances : List Dict
  listed_eq : listed members "balances" = .ok (balances.map .obj)
  amount_isNumber : ∀ balance ∈ balances, IsNumber balance "amount"

/-- The amount is not null, and no text that is copied is `None`. -/
def HolderNumbersThere (balance : Dict) : Prop :=
  ¬NullAt balance "amount" ∧ ∀ key ∈ ["address", "is-frozen", "deleted"], (balance.get key).NoNone

theorem mapHolder_strings {balance : Dict} (hamount : IsNumber balance "amount") {decimals : Json}
    (hdecimals : decimals = .null ∨ ∃ n, decimals = .int n) :
    ∃ item, mapHolder decimals (.obj balance) = .ok item ∧
      ("None" ∉ item.strings ↔ HolderNumbersThere balance) := by
  obtain ⟨s, hs, hsnone⟩ := exists_valueDecimal hamount.numeric_get hdecimals
  unfold mapHolder
  simp only [Json.asDict_obj, ok_bind, hs]
  refine ⟨_, rfl, ?_⟩
  unfold MappedHolder.strings HolderNumbersThere
  rw [none_notMem_textsOf]
  apply and_congr
  · rw [List.mem_cons, not_or, none_notMem_toList, and_iff_left hsnone,
      ← hamount.pyStr_ne_none_iff, ne_comm]
  · simp only [List.forall_mem_cons, List.not_mem_nil, false_implies, implies_true,
      noNone_get_bool]

/-- A holder whose amount is not null is read as without its nulls. -/
theorem mapHolder_dropNulls (decimals : Json) {balance : Dict} (hamount : ¬NullAt balance "amount")
    (chosen : String → Bool) :
    mapHolder decimals (.obj (balance.dropNulls chosen)) = mapHolder decimals (.obj balance) := by
  have hget : (balance.dropNulls chosen).get "amount" (.int 0) = balance.get "amount" (.int 0) :=
    Dict.get_dropNulls_of_not (fun hnull => hamount hnull.2) _
  unfold mapHolder
  simp (disch := decide) only [Json.asDict_obj, ok_bind, hget, Dict.get_dropNulls_of_notMem]

/-- **Holders**, with or without decimals. -/
theorem mapAssetHolders_nulls (page : HoldersPage) (decimals : Option Int)
    (chosen : ℕ → String → Bool) :
    AsAbsent (Page.strings MappedHolder.strings) (· = ·)
        (mapAssetHolders (.obj page.members) ((decimals.map Json.int).getD .null))
        (mapAssetHolders (dropItems "balances" chosen (.obj page.members))
          ((decimals.map Json.int).getD .null)) ↔
      (∀ balance ∈ page.balances, HolderNumbersThere balance) ∧
        (page.members.get "next-token").NoNone := by
  have hdecimals : (decimals.map Json.int).getD .null = .null ∨
      ∃ n, (decimals.map Json.int).getD .null = .int n := by
    cases decimals with
    | none => exact .inl rfl
    | some n => exact .inr ⟨n, rfl⟩
  have hlisted : listed page.members "balances" = .ok ((page.balances.map id).map .obj) := by
    rw [List.map_id]
    exact page.listed_eq
  rw [mapAssetHolders_eq_mapPage, mapAssetHolders_eq_mapPage]
  exact mapPage_nulls hlisted (by decide)
    (fun balance hmem => mapHolder_strings (page.amount_isNumber balance hmem) hdecimals)
    (fun balance _ hthere => mapHolder_dropNulls _ hthere.1) chosen

/-! ### Assets -/

/-- A payload that holds an asset, the numbers of which may be null. -/
structure TokenPayload where
  members : Dict
  asset : Dict
  params : Dict
  asset_eq : wrapped "asset" members = .obj asset
  params_eq : subDict asset "params" = .obj params
  index_isNumber : IsNumber asset "index"
  total_isNumber : IsNumber params "total"
  decimals_isNumber : IsNumber params "decimals"

/-- Delete null members of the asset, and of its params. -/
def dropAsset (chosen chosenParams : String → Bool) : Json → Json :=
  editWrapped "asset" fun asset => Dict.change "params" (Json.mapDict (Dict.dropNulls chosenParams))
    (asset.dropNulls chosen)

/-- The params of an asset that are copied, besides the decimals. -/
def paramsCopied : List String :=
  ["name", "unit-name", "url", "metadata-hash", "default-frozen", "creator", "manager", "reserve",
    "freeze", "clawback"]

/-- The index is there and not null, null decimals are kept and not needed, and no text that is
    copied is `None`. -/
structure TokenPayload.NumbersThere (p : TokenPayload) (chosenParams : String → Bool) : Prop where
  index : p.asset.get "index" ≠ .null
  decimals : NullAt p.params "decimals" →
    p.params.get "total" = .null ∧ chosenParams "decimals" = false
  params : ∀ key ∈ paramsCopied, (p.params.get key).NoNone
  asset : ∀ key ∈ ["created-at-round", "destroyed-at-round", "deleted"], (p.asset.get key).NoNone
  asOf : (p.members.get "current-round").NoNone

namespace TokenPayload

variable {p : TokenPayload}

/-- The asset behind the payload, as the mapper reads it. -/
theorem asDict_asset (p : TokenPayload) :
    ((p.members.get "asset" (.obj p.members)).or (.obj [])).asDict = .ok p.asset := by
  have hasset := p.asset_eq
  unfold wrapped at hasset
  rw [hasset]
  rfl

/-- Its decimal form cannot be computed of a total without decimals. -/
theorem decimalString_cases (p : TokenPayload) :
    (∃ s, decimalString (p.params.get "total") (p.params.get "decimals" (.int 0)) = .ok s ∧
        s ≠ some "None" ∧ (NullAt p.params "decimals" → p.params.get "total" = .null)) ∨
      (∃ e, decimalString (p.params.get "total") (p.params.get "decimals" (.int 0)) = .error e) ∧
        NullAt p.params "decimals" ∧ p.params.get "total" ≠ .null := by
  rcases p.decimals_isNumber.get_cases with ⟨hdecimals, hget⟩ | ⟨hdecimals, n, -, hget⟩
  · rw [hget]
    rcases p.total_isNumber with htotal | ⟨total, -, htotal⟩
    · rw [htotal]
      exact .inl ⟨none, rfl, fun h => (nomatch h), fun _ => rfl⟩
    · rw [htotal]
      exact .inr ⟨⟨.typeError, rfl⟩, hdecimals, fun h => nomatch h⟩
  · rw [hget]
    obtain ⟨s, hs, hsnone⟩ := exists_decimalString p.total_isNumber n
    exact .inl ⟨s, hs, hsnone, fun h => absurd h hdecimals⟩

/-- What the mapper makes of the payload, if it returns. -/
theorem mapAsset_strings (hdecimals : NullAt p.params "decimals" → p.params.get "total" = .null) :
    ∃ m, mapAsset (.obj p.members) = .ok m ∧ m.decimals = p.params.get "decimals" (.int 0) ∧
      ("None" ∉ m.strings ↔ p.asset.get "index" ≠ .null ∧
        (∀ key ∈ paramsCopied, (p.params.get key).NoNone) ∧
        (∀ key ∈ ["created-at-round", "destroyed-at-round", "deleted"],
          (p.asset.get key).NoNone) ∧ (p.members.get "current-round").NoNone) := by
  obtain ⟨s, hs, hsnone⟩ : ∃ s, decimalString (p.params.get "total")
      (p.params.get "decimals" (.int 0)) = .ok s ∧ s ≠ some "None" := by
    rcases p.decimalString_cases with ⟨s, hs, hsnone, -⟩ | ⟨-, hnull, htotal⟩
    · exact ⟨s, hs, hsnone⟩
    · exact absurd (hdecimals hnull) htotal
  have hindex : "None" ≠ (p.asset.get "index").pyStr ↔ p.asset.get "index" ≠ .null := by
    rcases p.index_isNumber with hnull | ⟨n, -, hn⟩
    · rw [hnull]
      exact iff_of_false (fun h => h rfl) (fun h => h rfl)
    · rw [hn]
      exact iff_of_true (toString_ne_none n).symm (fun h => nomatch h)
  unfold mapAsset
  simp only [Json.asDict_obj, ok_bind, p.asDict_asset, p.params_eq, hs]
  refine ⟨_, rfl, rfl, ?_⟩
  unfold MappedAsset.strings
  rw [none_notMem_textsOf]
  apply and_congr
  · rw [List.mem_append, List.mem_append, not_or, not_or, none_notMem_toList, none_notMem_toList,
      and_iff_left hsnone, and_iff_left p.total_isNumber.rendered_ne_none, List.mem_pair, not_or,
      and_iff_left (classifyAsset_ne_none _)]
    exact hindex
  · unfold paramsCopied
    have hdecimal : (p.params.get "decimals").NoNone := p.decimals_isNumber.noNone
    have hnumber : (p.asset.get "index").NoNone := p.index_isNumber.noNone
    simp only [List.forall_mem_cons, List.not_mem_nil, false_implies, implies_true,
      noNone_get_bool, noNone_get_int, noNone_clean, and_true, and_assoc, hdecimal, hnumber,
      true_and]
    tauto

/-- The payload without the nulls, and what is read of it. -/
theorem exists_drop (p : TokenPayload) (chosen chosenParams : String → Bool) :
    ∃ p' : TokenPayload, dropAsset chosen chosenParams (.obj p.members) = .obj p'.members ∧
      p'.params = p.params.dropNulls chosenParams ∧
      (∀ key ≠ "params", p'.asset.get key = p.asset.get key) ∧
      p'.asset.get "deleted" (.bool false) = p.asset.get "deleted" (.bool false) ∧
      p'.members.get "current-round" = p.members.get "current-round" := by
  let f : Dict → Dict := fun asset =>
    Dict.change "params" (Json.mapDict (Dict.dropNulls chosenParams)) (asset.dropNulls chosen)
  have hget : ∀ key ≠ "params", ∀ asset : Dict, (f asset).get key = asset.get key := by
    intro key hkey asset
    rw [Dict.get_change_of_ne hkey, Dict.get_dropNulls]
  have habsent : ∀ d : Dict, d.lookup "asset" = none → (f d).lookup "asset" = none := by
    intro d h
    rw [Dict.lookup_change, if_neg (by decide)]
    exact Dict.lookup_dropNulls_eq_none h
  obtain ⟨u, hu, hwrapped, hsame⟩ := editWrapped_obj "asset" f rfl habsent p.members
  have hsubDict : subDict (p.asset.dropNulls chosen) "params" = .obj p.params := by
    unfold subDict
    rw [Dict.get_dropNulls_of_notMem (by decide)]
    exact p.params_eq
  have hparams : subDict (f p.asset) "params" = .obj (p.params.dropNulls chosenParams) := by
    rw [subDict_change "params" rfl, hsubDict]
    rfl
  let p' : TokenPayload := {
    members := u
    asset := f p.asset
    params := p.params.dropNulls chosenParams
    asset_eq := by rw [hwrapped, p.asset_eq]; rfl
    params_eq := hparams
    index_isNumber := by
      unfold IsNumber
      rw [hget _ (by decide)]
      exact p.index_isNumber
    total_isNumber := by
      unfold IsNumber
      rw [Dict.get_dropNulls]
      exact p.total_isNumber
    decimals_isNumber := by
      unfold IsNumber
      rw [Dict.get_dropNulls]
      exact p.decimals_isNumber }
  refine ⟨p', hu, rfl, fun key hkey => hget key hkey p.asset, ?_,
    hsame _ (by decide) (hget _ (by decide))⟩
  show (f p.asset).get "deleted" (.bool false) = _
  rw [Dict.get_change_of_ne (by decide), Dict.get_dropNulls_of_notMem (by decide)]

/-- Without null decimals that are deleted, the nulls make no difference. -/
theorem mapAsset_dropNulls (p : TokenPayload) (chosen : String → Bool)
    {chosenParams : String → Bool}
    (h : ¬(chosenParams "decimals" = true ∧ NullAt p.params "decimals")) :
    mapAsset (dropAsset chosen chosenParams (.obj p.members)) = mapAsset (.obj p.members) := by
  obtain ⟨p', hp', hparams, hasset, hdeleted, hround⟩ := p.exists_drop chosen chosenParams
  have hdecimals := Dict.get_dropNulls_of_not h (.int 0)
  rw [hp']
  unfold mapAsset
  simp only [Json.asDict_obj, ok_bind, asDict_asset, params_eq, hparams, hround, hdeleted]
  simp (disch := decide) only [Dict.get_dropNulls_of_notMem, Dict.get_dropNulls, hdecimals, hasset,
    classifyAsset]

/-- **Assets.** -/
theorem mapAsset_nulls (p : TokenPayload) (chosen chosenParams : String → Bool) :
    AsAbsent MappedAsset.strings (· = ·) (mapAsset (.obj p.members))
      (mapAsset (dropAsset chosen chosenParams (.obj p.members))) ↔
      p.NumbersThere chosenParams := by
  constructor
  · rintro ⟨m, m', hm, hm', rfl, hnone⟩
    have htotal : NullAt p.params "decimals" → p.params.get "total" = .null := by
      rcases p.decimalString_cases with ⟨s, -, -, htotal⟩ | ⟨⟨e, he⟩, -, -⟩
      · exact htotal
      · unfold mapAsset at hm
        simp only [Json.asDict_obj, ok_bind, p.asDict_asset, p.params_eq, he] at hm
        cases hm
    obtain ⟨m₁, hm₁, hdecimals, hstrings⟩ := p.mapAsset_strings htotal
    obtain rfl := Except.ok.inj (hm.symm.trans hm₁)
    obtain ⟨hindex, hparams, hasset, hasOf⟩ := hstrings.mp hnone
    refine ⟨hindex, fun hnull => ⟨htotal hnull, ?_⟩, hparams, hasset, hasOf⟩
    -- Deleted decimals come out as zero, and null ones as null.
    by_contra hchosen
    rw [Bool.not_eq_false] at hchosen
    obtain ⟨p', hp', hparams', -, -, -⟩ := p.exists_drop chosen chosenParams
    have htotal' : NullAt p'.params "decimals" → p'.params.get "total" = .null := by
      rw [hparams', Dict.get_dropNulls]
      exact fun _ => htotal hnull
    obtain ⟨m₂, hm₂, hdecimals', -⟩ := p'.mapAsset_strings htotal'
    rw [hp'] at hm'
    obtain rfl := Except.ok.inj (hm'.symm.trans hm₂)
    rw [hparams', Dict.get_dropNulls_of_null (by decide) hchosen hnull, hdecimals,
      Dict.get_of_lookup hnull] at hdecimals'
    cases hdecimals'
  · rintro ⟨hindex, hdecimals, hparams, hasset, hasOf⟩
    obtain ⟨m, hm, -, hstrings⟩ := p.mapAsset_strings fun hnull => (hdecimals hnull).1
    refine ⟨m, m, hm, ?_, rfl, hstrings.mpr ⟨hindex, hparams, hasset, hasOf⟩⟩
    rw [p.mapAsset_dropNulls chosen, hm]
    rintro ⟨hchosen, hnull⟩
    rw [(hdecimals hnull).2] at hchosen
    cases hchosen

end TokenPayload

end Algorandscout
