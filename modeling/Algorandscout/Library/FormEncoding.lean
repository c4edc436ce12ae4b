import Mathlib.Data.List.Basic
import Mathlib.Tactic.Common

namespace Algorandscout.Library.FormEncoding

/-!
# Form encoding

The query of a URL is a list of names and values.  A character is written as it is, as a plus
sign when it is a space, or as the `%XX` of each byte of its UTF-8.

* `SafeSet` — the characters that are written as they are;
* `encode`, `decode` — a text, written and read;
* `encodeQuery`, `decodeQuery` — a list of names and values;
* `decodeQuery_encodeQuery` — what is written is read back, whatever the texts hold.
-/

/-! ### Bytes -/

/-- An uppercase hexadecimal digit. -/
def hexDigit (n : ℕ) : Char := (Nat.digitChar n).toUpper

/-- The value of a hexadecimal digit. -/
def hexValue (c : Char) : Option ℕ :=
  if '0' ≤ c ∧ c ≤ '9' then some (c.toNat - 48)
  else if 'A' ≤ c ∧ c ≤ 'F' then some (c.toNat - 55)
  else if 'a' ≤ c ∧ c ≤ 'f' then some (c.toNat - 87)
  else none

/-- `%XX`. -/
def percentByte (b : UInt8) : List Char := ['%', hexDigit (b.toNat / 16), hexDigit (b.toNat % 16)]

theorem hexValue_hexDigit {n : ℕ} (h : n < 16) : hexValue (hexDigit n) = some n := by
  have hall : ∀ m : Fin 16, hexValue (hexDigit m) = some (m : ℕ) := by decide
  exact hall ⟨n, h⟩

theorem hexDigit_mem {n : ℕ} (h : n < 16) : hexDigit n ∈ "0123456789ABCDEF".toList := by
  have hall : ∀ m : Fin 16, hexDigit m ∈ "0123456789ABCDEF".toList := by decide
  exact hall ⟨n, h⟩

/-- The characters of bytes that are written as `%XX`. -/
theorem mem_percentByte {b : UInt8} {c : Char} (h : c ∈ percentByte b) :
    c = '%' ∨ c ∈ "0123456789ABCDEF".toList := by
  have hlt := b.toNat_lt
  simp only [percentByte, List.mem_cons, List.not_mem_nil, or_false] at h
  rcases h with rfl | rfl | rfl
  · exact .inl rfl
  · exact .inr (hexDigit_mem (by omega))
  · exact .inr (hexDigit_mem (by omega))

/-- The text whose UTF-8 the bytes are. -/
def utf8Decode (bytes : List UInt8) : Option (List Char) :=
  bytes.toByteArray.utf8Decode?.map Array.toList

theorem utf8Decode_flatMap (cs : List Char) :
    utf8Decode (cs.flatMap String.utf8EncodeChar) = some cs := by
  have h : cs.utf8Encode.utf8Decode? = some cs.toArray := List.utf8Decode?_utf8Encode
  show cs.utf8Encode.utf8Decode?.map Array.toList = some cs
  rw [h]
  rfl

/-! ### Texts -/

/-- The characters that are written as they are: none of those that mean something else. -/
structure SafeSet where
  contains : Char → Bool
  none_reserved : ['%', '+', '&', '='].any contains = false

theorem SafeSet.reserved (safe : SafeSet) {c : Char} (h : c ∈ ['%', '+', '&', '=']) :
    safe.contains c = false := by
  have hnone := List.any_eq_false.mp safe.none_reserved c h
  simpa using hnone

variable (safe : SafeSet)

/-- One character. -/
def encodeChar (c : Char) : List Char :=
  if safe.contains c then [c]
  else if c = ' ' then ['+']
  else (String.utf8EncodeChar c).flatMap percentByte

/-- A text. -/
def encode (cs : List Char) : List Char := cs.flatMap (encodeChar safe)

/-- The bytes that a written text stands for; a percent sign without two digits is refused. -/
def decodeBytes : List Char → Option (List UInt8)
  | [] => some []
  | '%' :: hi :: lo :: cs => do
    let h ← hexValue hi
    let l ← hexValue lo
    return UInt8.ofNat (16 * h + l) :: (← decodeBytes cs)
  | '%' :: _ => none
  | '+' :: cs => do return String.utf8EncodeChar ' ' ++ (← decodeBytes cs)
  | c :: cs => do return String.utf8EncodeChar c ++ (← decodeBytes cs)

/-- The text that a written text stands for. -/
def decode (cs : List Char) : Option (List Char) := decodeBytes cs >>= utf8Decode

theorem decodeBytes_percentByte (b : UInt8) (cs : List Char) :
    decodeBytes (percentByte b ++ cs) = (decodeBytes cs).map (b :: ·) := by
  have hlt := b.toNat_lt
  have hbyte : UInt8.ofNat (16 * (b.toNat / 16) + b.toNat % 16) = b := by
    rw [Nat.div_add_mod]
    exact UInt8.ofNat_toNat
  show (do
    let h ← hexValue (hexDigit (b.toNat / 16))
    let l ← hexValue (hexDigit (b.toNat % 16))
    return UInt8.ofNat (16 * h + l) :: (← decodeBytes cs)) = _
  rw [hexValue_hexDigit (by omega), hexValue_hexDigit (by omega)]
  simp only [Option.bind_eq_bind, Option.bind_some, hbyte]
  cases decodeBytes cs <;> rfl

theorem decodeBytes_percentBytes (bytes : List UInt8) (cs : List Char) :
    decodeBytes (bytes.flatMap percentByte ++ cs) = (decodeBytes cs).map (bytes ++ ·) := by
  induction bytes with
  | nil =>
    show decodeBytes cs = _
    cases decodeBytes cs <;> rfl
  | cons b bytes ih =>
    rw [List.flatMap_cons, List.append_assoc, decodeBytes_percentByte, ih, Option.map_map]
    rfl

theorem decodeBytes_cons {c : Char} (hpercent : c ≠ '%') (hplus : c ≠ '+') (cs : List Char) :
    decodeBytes (c :: cs) = (decodeBytes cs).map (String.utf8EncodeChar c ++ ·) := by
  rw [decodeBytes]
  · cases decodeBytes cs <;> rfl
  · rintro hi lo rest rfl
    exact fun _ => hpercent rfl
  · rintro rfl
    exact hpercent rfl
  · rintro rfl
    exact hplus rfl

theorem decodeBytes_plus (cs : List Char) :
    decodeBytes ('+' :: cs) = (decodeBytes cs).map (String.utf8EncodeChar ' ' ++ ·) := by
  rw [decodeBytes]
  cases decodeBytes cs <;> rfl

/-- A character is read back, whatever follows. -/
theorem decodeBytes_encodeChar (c : Char) (cs : List Char) :
    decodeBytes (encodeChar safe c ++ cs) =
      (decodeBytes cs).map (String.utf8EncodeChar c ++ ·) := by
  unfold encodeChar
  split_ifs with hsafe hspace
  · -- A safe character is none of those that mean something else.
    have hne : ∀ d ∈ ['%', '+', '&', '='], c ≠ d := by
      rintro d hd rfl
      rw [safe.reserved hd] at hsafe
      cases hsafe
    exact decodeBytes_cons (hne _ (by simp)) (hne _ (by simp)) cs
  · rw [hspace]
    exact decodeBytes_plus cs
  · exact decodeBytes_percentBytes _ cs

/-- **A text is read back.** -/
theorem decode_encode (cs : List Char) : decode (encode safe cs) = some cs := by
  have hbytes : decodeBytes (encode safe cs) = some (cs.flatMap String.utf8EncodeChar) := by
    unfold encode
    induction cs with
    | nil => rfl
    | cons c cs ih =>
      rw [List.flatMap_cons, decodeBytes_encodeChar, ih]
      rfl
  unfold decode
  rw [hbytes]
  exact utf8Decode_flatMap cs

/-- What is written: safe characters, and those of `%XX` and the plus sign. -/
theorem mem_encode {cs : List Char} {c : Char} (h : c ∈ encode safe cs) :
    safe.contains c = true ∨ c = '+' ∨ c = '%' ∨ c ∈ "0123456789ABCDEF".toList := by
  obtain ⟨d, -, hc⟩ := List.mem_flatMap.mp h
  unfold encodeChar at hc
  split_ifs at hc with hsafe hspace
  · rw [List.mem_singleton.mp hc]
    exact .inl hsafe
  · exact .inr (.inl (List.mem_singleton.mp hc))
  · obtain ⟨b, -, hb⟩ := List.mem_flatMap.mp hc
    rcases mem_percentByte hb with hpercent | hdigit
    · exact .inr (.inr (.inl hpercent))
    · exact .inr (.inr (.inr hdigit))

/-- A character that is neither safe nor one of those is not written. -/
theorem notMem_encode {c : Char} (hsafe : safe.contains c = false)
    (hother : c ∉ '+' :: '%' :: "0123456789ABCDEF".toList) (cs : List Char) :
    c ∉ encode safe cs := by
  intro h
  rcases mem_encode safe h with hc | rfl | rfl | hc
  · rw [hsafe] at hc
    cases hc
  · exact hother List.mem_cons_self
  · exact hother (List.mem_cons_of_mem _ List.mem_cons_self)
  · exact hother (List.mem_cons_of_mem _ (List.mem_cons_of_mem _ hc))

theorem ampersand_notMem_encode (cs : List Char) : '&' ∉ encode safe cs :=
  notMem_encode safe (safe.reserved (by simp)) (by decide) cs

theorem equals_notMem_encode (cs : List Char) : '=' ∉ encode safe cs :=
  notMem_encode safe (safe.reserved (by simp)) (by decide) cs

/-! ### Queries -/

/-- A name and its value. -/
abbrev Field := List Char × List Char

def encodeField (field : Field) : List Char := encode safe field.1 ++ '=' :: encode safe field.2

/-- The fields, separated by ampersands. -/
def encodeQuery (fields : List Field) : List Char :=
  ['&'].intercalate (fields.map (encodeField safe))

/-- A field is cut at its first equals sign. -/
def decodeField (cs : List Char) : Option Field := do
  let name ← decode (cs.takeWhile (· != '='))
  let value ← decode ((cs.dropWhile (· != '=')).drop 1)
  return (name, value)

/-- The fields of a query, empty ones skipped. -/
def decodeQuery (cs : List Char) : Option (List Field) :=
  ((cs.splitOn '&').filter (!·.isEmpty)).mapM decodeField

theorem decodeField_encodeField (field : Field) :
    decodeField (encodeField safe field) = some field := by
  obtain ⟨name, value⟩ := field
  have hname : ∀ c ∈ encode safe name, (c != '=') = true := by
    rintro c hc
    rw [bne_iff_ne]
    rintro rfl
    exact equals_notMem_encode safe name hc
  unfold decodeField encodeField
  simp only
  rw [List.takeWhile_append_of_pos hname, List.dropWhile_append_of_pos hname]
  simp [decode_encode]

/-- A character that is not written in a text, and is no equals sign, is not in a field. -/
theorem notMem_encodeField {c : Char} (h : ∀ cs, c ∉ encode safe cs) (hequals : c ≠ '=')
    (field : Field) : c ∉ encodeField safe field := by
  unfold encodeField
  simp [h, hequals]

theorem encodeField_ne_nil (field : Field) : encodeField safe field ≠ [] := by
  unfold encodeField
  simp

/-- Nor in a query, unless it is the ampersand. -/
theorem notMem_encodeQuery {c : Char} (h : ∀ cs, c ∉ encode safe cs) (hequals : c ≠ '=')
    (hampersand : c ≠ '&') (fields : List Field) : c ∉ encodeQuery safe fields := by
  unfold encodeQuery
  induction fields with
  | nil => exact List.not_mem_nil
  | cons field fields ih =>
    have hfield := notMem_encodeField safe h hequals field
    cases fields with
    | nil => simpa using hfield
    | cons next fields =>
      rw [List.map_cons] at ih
      rw [List.map_cons, List.map_cons, List.intercalate_cons_cons]
      simp [hfield, hampersand, ih]

/-- **A query is read back.** No text ends a field or begins another. -/
theorem decodeQuery_encodeQuery (fields : List Field) :
    decodeQuery (encodeQuery safe fields) = some fields := by
  have hread : (fields.map (encodeField safe)).mapM decodeField = some fields := by
    induction fields with
    | nil => rfl
    | cons field fields ih =>
      rw [List.map_cons, List.mapM_cons, decodeField_encodeField, ih]
      rfl
  unfold decodeQuery encodeQuery
  by_cases hempty : fields = []
  · subst hempty
    rfl
  · have hsplit : (['&'].intercalate (fields.map (encodeField safe))).splitOn '&' =
        fields.map (encodeField safe) := by
      apply List.splitOn_intercalate
      · intro cs hcs
        obtain ⟨field, -, rfl⟩ := List.mem_map.mp hcs
        exact notMem_encodeField safe (ampersand_notMem_encode safe) (by decide) field
      · simpa using hempty
    have hfilter : (fields.map (encodeField safe)).filter (!·.isEmpty) =
        fields.map (encodeField safe) := by
      rw [List.filter_eq_self]
      intro cs hcs
      obtain ⟨field, -, rfl⟩ := List.mem_map.mp hcs
      simpa using encodeField_ne_nil safe field
    rw [hsplit, hfilter, hread]

end Algorandscout.Library.FormEncoding
