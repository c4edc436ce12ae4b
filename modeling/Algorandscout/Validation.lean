import Algorandscout.Library.Radix
import Algorandscout.Python.Text
import Mathlib.Data.List.Dedup
import Mathlib.Data.List.DropRight
import Mathlib.Data.List.Sort

namespace Algorandscout

open Library

/-!
# Input validation

The validators of `validation.py`, with the standard-library calls they make:
`base64.b32decode` (which discards the left-over low bits of the last symbol unseen) and the
regular expression `^[A-Z2-7]+$` (whose `$` also matches before a final line break).  The hash
function is a parameter.
-/

/-- RFC-4648 base32 — note the absent 0, 1, 8 and 9. -/
def base32Alphabet : List Char := "ABCDEFGHIJKLMNOPQRSTUVWXYZ234567".toList

/-- 32-byte public key + 4-byte checksum, base32, unpadded. -/
def addressLength : ℕ := 58

/-- 32-byte hash, base32, unpadded. -/
def txidLength : ℕ := 52

/-- Algorand ids are uint64 on the wire. -/
def maxUint64 : Int := 2 ^ 64 - 1

/-- The exceptions that occur inside the validators. -/
inductive Raised where
  | validationError (message : String)
  | binasciiError (message : String)
  | valueError (message : String)
  deriving DecidableEq, Repr

/-- `str(exc)`. -/
def Raised.message : Raised → String
  | .validationError m => m
  | .binasciiError m => m
  | .valueError m => m

/-- A 32-byte digest. -/
structure Digest where
  bytes : List UInt8
  length_eq : bytes.length = 32

/-- `digest()[-4:]`. -/
def Digest.lastFour (d : Digest) : List UInt8 := d.bytes.drop (d.bytes.length - 4)

@[simp] theorem Digest.length_lastFour (d : Digest) : d.lastFour.length = 4 := by
  simp [Digest.lastFour, d.length_eq]

/-! ### base32 -/

/-- The value of a base32 symbol. -/
def b32rev (c : Char) : Option ℕ := base32Alphabet.idxOf? c

/-- The symbol of a value below 32. -/
def b32symbol (v : ℕ) : Char := base32Alphabet.getD v 'A'

/-- `base64.b32decode(s)`. -/
def b32decode (s : List Char) : Except Raised (List UInt8) :=
  if s.any (·.toNat > 127) then
    .error (.valueError "string argument should contain only ASCII characters")
  else if s.length % 8 ≠ 0 then .error (.binasciiError "Incorrect padding")
  else
    -- Pads are stripped from the end only; a pad inside is no symbol.
    let stripped := s.rdropWhile (· == '=')
    let padchars := s.length - stripped.length
    match stripped.mapM b32rev with
    | none => .error (.binasciiError "Non-base32 digit found")
    | some symbols =>
      -- The left-over low bits of the last symbol are dropped without a look at them.
      if padchars ∈ [0, 1, 3, 4, 6] then .ok ((Radix.unpack 5 8 symbols).map UInt8.ofNat)
      else .error (.binasciiError "Incorrect padding")

/-- The unpadded base32 encoding of RFC 4648: the bits of the bytes in groups of five, the
    last group filled up with zeros. -/
def b32encode (raw : List UInt8) : List Char :=
  (Radix.pack 8 5 (raw.map UInt8.toNat)).map b32symbol

/-- `_BASE32_RE.match`: one or more symbols, then the end or a final line break. -/
def base32Re (s : List Char) : Bool :=
  -- `$` matches at the end and before a final line break.
  let body := if s.getLast? = some '\n' then s.dropLast else s
  !body.isEmpty && body.all (base32Alphabet.contains ·)

/-- `_b32_decode`. -/
def b32Decode (value : List Char) (expectedBytes : ℕ) : Except Raised (List UInt8) := do
  let padding := List.replicate (-(value.length : Int) % 8).toNat '='
  let raw ← b32decode (value ++ padding)
  if raw.length ≠ expectedBytes then
    throw (.validationError s!"decoded to {raw.length} bytes, expected {expectedBytes}")
  return raw

/-- The `except ValidationError: raise` / `except Exception as exc: raise ValidationError`
    pair around a decode; `what` names the identifier. -/
def rewrapDecode (what : String) (raised : Raised) : Raised :=
  match raised with
  | .validationError m => .validationError m
  | e => .validationError s!"{what} is not decodable base32: {e.message}"

/-! ### The validators -/

/-- The characters of `s` outside the alphabet, sorted, each once. -/
def badCharacters (s : List Char) : List Char :=
  (s.filter (fun c => !base32Alphabet.contains c)).dedup.mergeSort (fun a b => a.toNat ≤ b.toNat)

/-- What `validate_address` and `validate_txid` share: `what` is the identifier's name in the
    messages, `badAlphabet` the message for a string outside the alphabet, and `check` the
    complaint, if any, about the decoded bytes. -/
def validateIdentifier (what : String) (length bytes : ℕ) (badAlphabet : List Char → String)
    (check : List UInt8 → Option String) (s : String) : Except Raised String := do
  let cs := s.toList
  if cs.isEmpty then
    throw (.validationError s!"{what} must be a non-empty string")
  if cs.length ≠ length then
    throw (.validationError s!"{what} must be {length} characters, got {cs.length}")
  if !base32Re cs then
    throw (.validationError (badAlphabet cs))
  let raw ← (b32Decode cs bytes).mapError (rewrapDecode what)
  match check raw with
  | some message => throw (.validationError message)
  | none => return s

/-- `validate_address`.  The checksum is the last 4 bytes of SHA-512/256 of the public key. -/
def validateAddress (sha512_256 : List UInt8 → Digest) (address : String) :
    Except Raised String :=
  validateIdentifier "address" addressLength 36
    (fun cs =>
      let bad := " ".intercalate ((badCharacters cs).map String.singleton)
      s!"address contains characters outside the base32 alphabet: {bad} "
        ++ "(note that 0, 1, 8 and 9 are not base32 digits)")
    (fun raw =>
      let publicKey := raw.take 32
      let checksum := raw.drop 32
      let expected := (sha512_256 publicKey).lastFour
      if checksum ≠ expected then
        some "address checksum does not match — likely a typo or truncation"
      else none)
    address

/-- `validate_txid`.  No checksum exists here. -/
def validateTxid (txid : String) : Except Raised String :=
  validateIdentifier "transaction id" txidLength 32
    (fun _ => "transaction id contains characters outside the base32 alphabet")
    (fun _ => none)
    txid

/-- `validate_uint64`: an integer that is not a `bool`, in the uint64 range. -/
def validateUint64 (value : Json) (name : String) : Except Raised Int := do
  match value with
  | .int n =>
    if n < 0 then
      throw (.validationError s!"{name} must not be negative, got {n}")
    if n > maxUint64 then
      throw (.validationError s!"{name} exceeds uint64 range, got {n}")
    return n
  | _ => throw (.validationError s!"{name} must be an integer")

/-- What a search term is, by shape. -/
inductive QueryKind where
  | address
  | transaction
  | numeric
  deriving DecidableEq, Repr

/-- `classify_query`; `none` is a name or unit search. -/
def classifyQuery (query : String) : Option QueryKind :=
  let term := Text.strip query
  let cs := term.toList
  -- By shape only: neither the checksum nor the decoded length is looked at.
  if cs.isEmpty then none
  else if cs.length = addressLength ∧ base32Re cs then some .address
  else if cs.length = txidLength ∧ base32Re cs then some .transaction
  else if Text.isdigit term then some .numeric
  else none

end Algorandscout
