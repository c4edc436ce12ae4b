import Algorandscout.Library.Base64
import Algorandscout.Library.FormEncoding
import Algorandscout.Mapping

namespace Algorandscout

open Library

/-!
# Global state

The global state of an application maps byte strings to byte strings and integers; the indexer
serves it with base64 keys and tagged values, and `map_application` shows the keys that are text.

* `b64decode`, `stateKeyText` — how a key is decoded; which characters are printable is left open;
* `StateItem`, `StateItem.toJson` — one key with its value, as the indexer serves it;
* `StateShown` — the state can be read back from what is shown, and the keys that are shown as
  text are those that are text;
* `decodeStateEntry_shown` — one entry;
* `globalState_shown` — `map_application` shows the whole state.
-/

/-! ### Keys -/

/-- `base64.b64decode(raw_key)`, of a text; what is no ASCII text is refused. -/
def b64decode : Json → Option (List UInt8)
  | .str s => if s.toList.all (·.toNat < 128) then Base64.decode s.toList else none
  | _ => none

/-- The key that `_decode_state_entry` shows: any failure of the decode means "not text". -/
def stateKeyText (isPrintable : Char → Bool) : KeyText := fun rawKey => do
  let bytes ← b64decode rawKey
  let decoded ← FormEncoding.utf8Decode bytes
  if decoded.all isPrintable then return String.ofList decoded else none

/-- Bytes, as the indexer writes them. -/
def b64encode (bytes : List UInt8) : String := String.ofList (Base64.encode bytes)

theorem b64decode_b64encode (bytes : List UInt8) :
    b64decode (.str (b64encode bytes)) = some bytes := by
  have hascii : (Base64.encode bytes).all (·.toNat < 128) = true := by
    rw [List.all_eq_true]
    intro c hc
    exact decide_eq_true (Base64.encode_ascii bytes c hc)
  unfold b64decode b64encode
  simp only [String.toList_ofList]
  rw [if_pos hascii, Base64.decode_encode]

/-- The UTF-8 of a text. -/
def utf8 (text : String) : List UInt8 := text.toList.flatMap String.utf8EncodeChar

/-- Bytes are the UTF-8 of what they decode to. -/
theorem utf8Decode_eq_some_iff {bytes : List UInt8} {cs : List Char} :
    FormEncoding.utf8Decode bytes = some cs ↔ bytes = cs.flatMap String.utf8EncodeChar := by
  constructor
  · intro h
    have hvalid : bytes.toByteArray.utf8Decode?.isSome = true := by
      obtain ⟨chars, hchars, -⟩ := Option.map_eq_some_iff.mp h
      rw [hchars]
      rfl
    obtain ⟨text, htext⟩ := ByteArray.isSome_utf8Decode?_iff.mp hvalid
    obtain rfl : bytes = text.flatMap String.utf8EncodeChar := List.toByteArray_inj.mp htext
    rw [FormEncoding.utf8Decode_flatMap] at h
    rw [Option.some.inj h]
  · rintro rfl
    exact FormEncoding.utf8Decode_flatMap cs

/-- **What is shown of a key**: the text whose UTF-8 it is, if that is printable. -/
theorem stateKeyText_eq_some_iff (isPrintable : Char → Bool) (key : List UInt8) (text : String) :
    stateKeyText isPrintable (.str (b64encode key)) = some text ↔
      key = utf8 text ∧ text.toList.all isPrintable = true := by
  unfold stateKeyText
  simp only [b64decode_b64encode, Option.bind_eq_bind, Option.bind_some,
    Option.bind_eq_some_iff, utf8Decode_eq_some_iff]
  constructor
  · rintro ⟨cs, rfl, h⟩
    split_ifs at h with hprintable
    obtain rfl := Option.some.inj h
    rw [utf8, String.toList_ofList]
    exact ⟨rfl, hprintable⟩
  · rintro ⟨rfl, hprintable⟩
    refine ⟨text.toList, rfl, ?_⟩
    rw [if_pos hprintable, String.ofList_toList]
    rfl

/-! ### The state -/

/-- A value of the state. -/
inductive TealValue where
  | bytes (value : List UInt8)
  | uint (value : ℕ)

/-- A key of the state with its value. -/
structure StateItem where
  key : List UInt8
  value : TealValue

/-- The tagged value union, as the indexer serves it: `type` 1 is bytes, 2 is uint. -/
def TealValue.ServedAs (members : Dict) : TealValue → Prop
  | .bytes value =>
    members.get "type" = .int 1 ∧ members.get "bytes" = .str (b64encode value)
  | .uint value => members.get "type" = .int 2 ∧ members.get "uint" = .int value

theorem TealValue.ServedAs.ne_nil {members : Dict} {value : TealValue}
    (h : value.ServedAs members) : members ≠ [] := by
  rintro rfl
  cases value with
  | bytes value => cases h.1
  | uint value => cases h.1

/-- The item as the indexer serves it, whatever else it says of it. -/
def StateItem.ServedAs (item : StateItem) (entry : Json) : Prop :=
  ∃ members value : Dict, entry = .obj members ∧
    members.lookup "key" = some (.str (b64encode item.key)) ∧
    members.lookup "value" = some (.obj value) ∧ item.value.ServedAs value

/-- The entries of the global state that `map_application` goes through. -/
def globalStateOf (payload : Json) : Except PyError (List Json) := do
  let payloadDict ← payload.asDict
  let app ← ((payloadDict.get "application" payload).or (.obj [])).asDict
  let params ← (subDict app "params").asDict
  ((params.get "global-state" (.arr [])).or (.arr [])).asList

/-- The item that an entry of the response shows. -/
def StateEntry.read (entry : StateEntry) : Option StateItem := do
  let key ← b64decode entry.keyB64
  if entry.type = "bytes" then return ⟨key, .bytes (← b64decode entry.value)⟩
  else
    match entry.value with
    | .int n => return ⟨key, .uint n.toNat⟩
    | _ => none

/-- What is shown of an item. -/
structure ItemShown (isPrintable : Char → Bool) (item : StateItem) (shown : StateEntry) :
    Prop where
  /-- All of it can be read back. -/
  read : shown.read = some item
  /-- The key is shown as text exactly when it is printable UTF-8. -/
  key (text : String) : shown.key = some text ↔
    item.key = utf8 text ∧ text.toList.all isPrintable = true

/-- **One entry.** -/
theorem decodeStateEntry_shown (isPrintable : Char → Bool) {item : StateItem} {entry : Json}
    (h : item.ServedAs entry) :
    ∃ shown, decodeStateEntry (stateKeyText isPrintable) entry = .ok shown ∧
      ItemShown isPrintable item shown := by
  obtain ⟨members, value, rfl, hkey, hvalue, hserved⟩ := h
  have hrawKey : members.get "key" (.str "") = .str (b64encode item.key) := by
    unfold Dict.get
    rw [hkey]
    rfl
  have hsub : (subDict members "value").asDict = .ok value := by
    unfold subDict Dict.get
    rw [hvalue]
    cases value with
    | nil => exact absurd rfl hserved.ne_nil
    | cons entry value => rfl
  have hdecode : ∀ isBytes, (value.get "type").eqInt 1 = isBytes →
      decodeStateEntry (stateKeyText isPrintable) (.obj members) = .ok {
        keyB64 := .str (b64encode item.key)
        key := stateKeyText isPrintable (.str (b64encode item.key))
        type := if isBytes then "bytes" else "uint"
        value := if isBytes then value.get "bytes" else value.get "uint" } := by
    rintro isBytes rfl
    unfold decodeStateEntry
    rw [Json.asDict_obj]
    show (subDict members "value").asDict >>= _ = _
    rw [hsub, hrawKey]
    rfl
  have hshown := stateKeyText_eq_some_iff isPrintable item.key
  obtain ⟨key, value'⟩ := item
  cases value' with
  | bytes b =>
    obtain ⟨htype, hbytes⟩ := hserved
    refine ⟨_, hdecode true (by rw [htype]; rfl), ?_, hshown⟩
    unfold StateEntry.read
    simp only [if_true, hbytes, b64decode_b64encode, Option.bind_eq_bind, Option.bind_some]
    rfl
  | uint n =>
    obtain ⟨htype, huint⟩ := hserved
    refine ⟨_, hdecode false (by rw [htype]; rfl), ?_, hshown⟩
    unfold StateEntry.read
    simp only [Bool.false_eq_true, if_false, huint, b64decode_b64encode, Option.bind_eq_bind,
      Option.bind_some]
    rfl

theorem mapM_decodeStateEntry_shown (isPrintable : Char → Bool) {items : List StateItem}
    {entries : List Json} (h : List.Forall₂ StateItem.ServedAs items entries) :
    ∃ shown, entries.mapM (decodeStateEntry (stateKeyText isPrintable)) = .ok shown ∧
      List.Forall₂ (ItemShown isPrintable) items shown := by
  induction h with
  | nil => exact ⟨[], rfl, .nil⟩
  | cons hitem _ ih =>
    obtain ⟨first, hfirst, hshown⟩ := decodeStateEntry_shown isPrintable hitem
    obtain ⟨rest, hrest, hall⟩ := ih
    refine ⟨first :: rest, ?_, .cons hshown hall⟩
    rw [List.mapM_cons]
    exact bind_eq_ok.mpr ⟨first, hfirst, bind_eq_ok.mpr ⟨rest, hrest, rfl⟩⟩

/-- **What a response should show of a state.** -/
structure StateShown (isPrintable : Char → Bool) (items : List StateItem)
    (shown : List StateEntry) : Prop where
  /-- The whole state can be read back, in order. -/
  read : shown.mapM StateEntry.read = some items
  /-- The keys shown as text are those that are printable UTF-8, and no others. -/
  keys : List.Forall₂ (fun item entry => ∀ text, StateEntry.key entry = some text ↔
    item.key = utf8 text ∧ text.toList.all isPrintable = true) items shown
  /-- Different keys are not shown under one text. -/
  distinct : (items.map (·.key)).Nodup → (shown.filterMap (·.key)).Nodup

theorem read_of_shown {isPrintable : Char → Bool} {items : List StateItem}
    {shown : List StateEntry} (h : List.Forall₂ (ItemShown isPrintable) items shown) :
    shown.mapM StateEntry.read = some items := by
  induction h with
  | nil => rfl
  | cons hitem _ ih =>
    rw [List.mapM_cons, hitem.read, ih]
    rfl

/-- A text that is shown is a key of the state. -/
theorem exists_of_key_shown {isPrintable : Char → Bool} {items : List StateItem}
    {shown : List StateEntry} (h : List.Forall₂ (ItemShown isPrintable) items shown)
    {text : String} (htext : text ∈ shown.filterMap (·.key)) :
    ∃ item ∈ items, item.key = utf8 text := by
  induction h with
  | nil => cases htext
  | cons hitem hrest ih =>
    rename_i item entry items shown
    cases hkey : entry.key with
    | none =>
      rw [List.filterMap_cons_none hkey] at htext
      obtain ⟨item', hmem, heq⟩ := ih htext
      exact ⟨item', List.mem_cons_of_mem _ hmem, heq⟩
    | some first =>
      rw [List.filterMap_cons_some hkey] at htext
      rcases List.mem_cons.mp htext with rfl | htext
      · exact ⟨item, List.mem_cons_self, ((hitem.key text).mp hkey).1⟩
      · obtain ⟨item', hmem, heq⟩ := ih htext
        exact ⟨item', List.mem_cons_of_mem _ hmem, heq⟩

theorem nodup_keys_of_shown {isPrintable : Char → Bool} {items : List StateItem}
    {shown : List StateEntry} (h : List.Forall₂ (ItemShown isPrintable) items shown)
    (hnodup : (items.map (·.key)).Nodup) : (shown.filterMap (·.key)).Nodup := by
  induction h with
  | nil => exact List.nodup_nil
  | cons hitem hrest ih =>
    rename_i item entry items shown
    obtain ⟨hnot, hnodup⟩ := List.nodup_cons.mp hnodup
    cases hkey : entry.key with
    | none =>
      rw [List.filterMap_cons_none hkey]
      exact ih hnodup
    | some text =>
      rw [List.filterMap_cons_some hkey]
      refine List.nodup_cons.mpr ⟨?_, ih hnodup⟩
      -- A second entry with this text would be of the same key.
      intro htext
      obtain ⟨item', hmem, heq⟩ := exists_of_key_shown hrest htext
      have hsame : item.key = item'.key := ((hitem.key text).mp hkey).1.trans heq.symm
      exact hnot (List.mem_map.mpr ⟨item', hmem, hsame.symm⟩)

/-- **`map_application` shows the whole state** of every application that the indexer serves. -/
theorem globalState_shown (isPrintable : Char → Bool) {payload : Json} {items : List StateItem}
    {entries : List Json} (hstate : globalStateOf payload = .ok entries)
    (hserved : List.Forall₂ StateItem.ServedAs items entries) :
    ∃ mapped, mapApplication (stateKeyText isPrintable) payload = .ok mapped ∧
      StateShown isPrintable items mapped.globalState := by
  obtain ⟨shown, hshown, hall⟩ := mapM_decodeStateEntry_shown isPrintable hserved
  obtain ⟨payloadDict, hpayload, hstate⟩ := bind_eq_ok.mp hstate
  obtain ⟨app, happ, hstate⟩ := bind_eq_ok.mp hstate
  obtain ⟨params, hparams, hstate⟩ := bind_eq_ok.mp hstate
  obtain ⟨mapped, hmapped, hsame⟩ : ∃ mapped,
      mapApplication (stateKeyText isPrintable) payload = .ok mapped ∧
        mapped.globalState = shown := by
    unfold mapApplication
    rw [hpayload]
    show ∃ mapped, (((payloadDict.get "application" payload).or (.obj [])).asDict >>= _) = _ ∧ _
    rw [happ]
    show ∃ mapped, ((subDict app "params").asDict >>= _) = _ ∧ _
    rw [hparams]
    show ∃ mapped, (((params.get "global-state" (.arr [])).or (.arr [])).asList >>= _) = _ ∧ _
    rw [hstate]
    show ∃ mapped, (entries.mapM (decodeStateEntry (stateKeyText isPrintable)) >>= _) = _ ∧ _
    rw [hshown]
    exact ⟨_, rfl, rfl⟩
  refine ⟨mapped, hmapped, ?_⟩
  rw [hsame]
  exact ⟨read_of_shown hall, hall.imp fun _ _ hitem => hitem.key, nodup_keys_of_shown hall⟩

/-- A counter under a text, and bytes under a key that is no text. -/
def sampleState : List StateItem := [⟨utf8 "count", .uint 7⟩, ⟨[255], .bytes [1, 2]⟩]

/-- An application with that state. -/
def sampleApplication : Json :=
  .obj [("application", .obj [("id", .int 5), ("params", .obj [("global-state", .arr [
    .obj [("key", .str (b64encode (utf8 "count"))),
      ("value", .obj [("bytes", .str ""), ("type", .int 2), ("uint", .int 7)])],
    .obj [("key", .str (b64encode [255])),
      ("value", .obj [("bytes", .str (b64encode [1, 2])), ("type", .int 1),
        ("uint", .int 0)])]])])])]

theorem sampleState_shown :
    ∃ mapped, mapApplication (stateKeyText fun c => 32 ≤ c.toNat) sampleApplication = .ok mapped ∧
      StateShown (fun c => 32 ≤ c.toNat) sampleState mapped.globalState := by
  refine globalState_shown _ rfl (.cons ?_ (.cons ?_ .nil))
  · exact ⟨_, _, rfl, rfl, rfl, rfl, rfl⟩
  · exact ⟨_, _, rfl, rfl, rfl, rfl, rfl⟩

end Algorandscout
