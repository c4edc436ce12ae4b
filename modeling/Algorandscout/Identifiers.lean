import Algorandscout.Canonical

namespace Algorandscout

open Library

/-!
# The identifier validators against the canonical encodings

`validate_address` and `validate_txid` accept exactly the strings of `Accepts`, with the
checksum as the condition on the bytes of an address.  What each is meant to accept is the
canonical encodings (`CanonicalAddress`, `CanonicalTxid`); the two differ on the proper twins
and on nothing else.
-/

/-- The bytes of an address: a public key followed by its checksum. -/
def ChecksumOk (sha512_256 : List UInt8 → Digest) (raw : List UInt8) : Prop :=
  raw.drop 32 = (sha512_256 (raw.take 32)).lastFour

/-- `s` encodes `pk ++ last4 (H pk)` for some 32-byte `pk`. -/
def CanonicalAddress (sha512_256 : List UInt8 → Digest) (s : String) : Prop :=
  ∃ pk : List UInt8, pk.length = 32 ∧ s.toList = b32encode (pk ++ (sha512_256 pk).lastFour)

/-- `s` encodes some 32 bytes. -/
def CanonicalTxid (s : String) : Prop :=
  ∃ hash : List UInt8, hash.length = 32 ∧ s.toList = b32encode hash

variable {sha512_256 : List UInt8 → Digest}

theorem canonicalAddress_iff (s : String) :
    CanonicalAddress sha512_256 s ↔ Encodes 36 (ChecksumOk sha512_256) s := by
  constructor
  · rintro ⟨pk, hlen, hs⟩
    refine ⟨pk ++ (sha512_256 pk).lastFour, by simp [hlen], ?_, hs⟩
    have htake : (pk ++ (sha512_256 pk).lastFour).take 32 = pk := by simp [← hlen]
    rw [ChecksumOk, htake]
    simp [← hlen]
  · rintro ⟨raw, hlen, hP, hs⟩
    refine ⟨raw.take 32, by simp [hlen], ?_⟩
    rw [← hP, List.take_append_drop]
    exact hs

theorem canonicalTxid_iff (s : String) : CanonicalTxid s ↔ Encodes 32 (fun _ => True) s := by
  constructor
  · rintro ⟨hash, hlen, hs⟩
    exact ⟨hash, hlen, trivial, hs⟩
  · rintro ⟨hash, hlen, _, hs⟩
    exact ⟨hash, hlen, hs⟩

/-! ### What the validators accept -/

/-- The regular expression and the length check hold of every string of symbols. -/
theorem base32Re_symbols {syms : List ℕ} (hs : Radix.IsDigits 32 syms) (hne : 0 < syms.length) :
    base32Re (syms.map b32symbol) = true := by
  have hmem := mem_alphabet_of_mem_symbols hs
  have hnl : (syms.map b32symbol).getLast? ≠ some '\n' := by
    intro h
    exact (alphabet_chars '\n' (hmem _ (List.mem_of_getLast? h))).1 rfl
  rw [base32Re, if_neg hnl]
  simp only [Bool.and_eq_true, List.all_eq_true, List.contains_iff_mem]
  refine ⟨?_, hmem⟩
  cases syms with
  | nil => simp at hne
  | cons v vs => rfl

/-- `validateIdentifier` with its early exits written as nested tests. -/
theorem validateIdentifier_eq (what : String) (n m : ℕ) (badAlphabet : List Char → String)
    (check : List UInt8 → Option String) (s : String) :
    validateIdentifier what n m badAlphabet check s =
      if s.toList.isEmpty then .error (.validationError s!"{what} must be a non-empty string")
      else if s.toList.length ≠ n then
        .error (.validationError s!"{what} must be {n} characters, got {s.toList.length}")
      else if !base32Re s.toList then .error (.validationError (badAlphabet s.toList))
      else
        match b32Decode s.toList m with
        | .error e => .error (rewrapDecode what e)
        | .ok raw =>
          match check raw with
          | some message => .error (.validationError message)
          | none => .ok s := by
  unfold validateIdentifier
  simp only [bind, Except.bind, pure, Except.pure, throw, throwThe, MonadExceptOf.throw]
  split_ifs
  · rfl
  · rfl
  · rfl
  · cases b32Decode s.toList m with
    | error e => rfl
    | ok raw => cases hck : check raw <;> simp [Except.mapError, hck]

/-- **What a validator accepts.** Strings of the right number of symbols whose bytes pass the
    check, and it returns the string itself. -/
theorem validateIdentifier_eq_ok_iff {what : String} {n m r : ℕ} (hn : Sizes n m r)
    (hpad : (8 - n % 8) % 8 ∈ [0, 1, 3, 4, 6]) (badAlphabet : List Char → String)
    (check : List UInt8 → Option String) (s t : String) :
    validateIdentifier what n m badAlphabet check s = .ok t ↔
      t = s ∧ Accepts n (fun raw => check raw = none) s := by
  have hpos := hn.nonempty
  have hdec : ∀ syms, Radix.IsDigits 32 syms → syms.length = n →
      b32Decode (syms.map b32symbol) m = .ok (symbolBytes syms) := fun syms hs hsl =>
    b32Decode_symbols hs (by rw [hsl]; exact hn.bytes) (by rw [hsl]; exact hpad)
  rw [validateIdentifier_eq]
  constructor
  · intro h
    split_ifs at h with hempty hlen hre
    rw [not_not] at hlen
    rw [Bool.not_eq_true, Bool.not_eq_false'] at hre
    cases hd : b32Decode s.toList m with
    | error e => simp [hd] at h
    | ok raw =>
      obtain ⟨syms, hs, hcs⟩ := symbols_of_b32Decode_ok hre hd
      have hsl : syms.length = n := by rw [← hlen, hcs, List.length_map]
      rw [hcs, hdec syms hs hsl, Except.ok.injEq] at hd
      subst hd
      simp only [hcs, hdec syms hs hsl] at h
      cases hck : check (symbolBytes syms) with
      | some message => simp [hck] at h
      | none =>
        simp only [hck, Except.ok.injEq] at h
        exact ⟨h.symm, syms, hs, hsl, hcs, hck⟩
  · rintro ⟨rfl, syms, hs, hsl, hcs, hck⟩
    have hempty : t.toList.isEmpty = false := by
      rw [List.isEmpty_eq_false_iff]
      intro h0
      rw [h0] at hcs
      have := congrArg List.length hcs
      rw [List.length_map, hsl, List.length_nil] at this; omega
    have hre : base32Re t.toList = true := hcs ▸ base32Re_symbols hs (by omega)
    have hlen : t.toList.length = n := by rw [hcs, List.length_map, hsl]
    -- A string of symbols passes all the tests up to the check.
    rw [if_neg (by simp [hempty]), if_neg (by simp [hlen]), if_neg (by simp [hre]), hcs,
      hdec syms hs hsl]
    simp [hck]

/-- **A validator raises `ValidationError` and nothing else.** -/
theorem validateIdentifier_error {what : String} {n m : ℕ} {badAlphabet : List Char → String}
    {check : List UInt8 → Option String} {s : String} {e : Raised}
    (h : validateIdentifier what n m badAlphabet check s = .error e) :
    ∃ message, e = .validationError message := by
  rw [validateIdentifier_eq] at h
  split_ifs at h
  case pos => exact ⟨_, (Except.error.inj h).symm⟩
  case pos => exact ⟨_, (Except.error.inj h).symm⟩
  case pos => exact ⟨_, (Except.error.inj h).symm⟩
  case neg =>
    cases hd : b32Decode s.toList m with
    | error e' =>
      simp only [hd, Except.error.injEq] at h
      subst h
      cases e' <;> exact ⟨_, rfl⟩
    | ok raw =>
      cases hck : check raw with
      | some message => exact ⟨message, by simpa [hd, hck, eq_comm] using h⟩
      | none => simp [hd, hck] at h

theorem validateAddress_eq_ok_iff (s t : String) :
    validateAddress sha512_256 s = .ok t ↔
      t = s ∧ Accepts addressLength (ChecksumOk sha512_256) s := by
  have hcheck : ChecksumOk sha512_256 = fun raw =>
      (if raw.drop 32 ≠ (sha512_256 (raw.take 32)).lastFour then
        some "address checksum does not match — likely a typo or truncation"
      else none) = none := by
    funext raw
    simp [ChecksumOk]
  rw [validateAddress, validateIdentifier_eq_ok_iff addressSizes (by decide), hcheck]

theorem validateTxid_eq_ok_iff (s t : String) :
    validateTxid s = .ok t ↔ t = s ∧ Accepts txidLength (fun _ => True) s := by
  rw [validateTxid, validateIdentifier_eq_ok_iff txidSizes (by decide)]
  simp

/-! ### Canonicity -/

/-- The contract of `validate_address` at `s`: it returns `s` iff `s` is canonical, and raises
    `ValidationError` otherwise. -/
def AddressContract (sha512_256 : List UInt8 → Digest) (s : String) : Prop :=
  (validateAddress sha512_256 s = .ok s ↔ CanonicalAddress sha512_256 s) ∧
    (¬ CanonicalAddress sha512_256 s →
      ∃ message, validateAddress sha512_256 s = .error (.validationError message))

/-- The contract of `validate_txid` at `s`. -/
def TxidContract (s : String) : Prop :=
  (validateTxid s = .ok s ↔ CanonicalTxid s) ∧
    (¬ CanonicalTxid s → ∃ message, validateTxid s = .error (.validationError message))

/-- `s` differs from a canonical address in the two unused bits of its last symbol only. -/
def AddressTwin (sha512_256 : List UInt8 → Digest) (s : String) : Prop :=
  ∃ t, CanonicalAddress sha512_256 t ∧ t ≠ s ∧ SameUsedBits 2 s t

/-- `s` differs from a canonical transaction id in the four unused bits of its last symbol
    only. -/
def TxidTwin (s : String) : Prop :=
  ∃ t, CanonicalTxid t ∧ t ≠ s ∧ SameUsedBits 4 s t

theorem addressTwin_iff (s : String) :
    AddressTwin sha512_256 s ↔ ProperTwin 36 2 (ChecksumOk sha512_256) s := by
  simp only [AddressTwin, ProperTwin, canonicalAddress_iff]

theorem txidTwin_iff (s : String) : TxidTwin s ↔ ProperTwin 32 4 (fun _ => True) s := by
  simp only [TxidTwin, ProperTwin, canonicalTxid_iff]

theorem validateAddress_ok_iff_accepts (s : String) :
    validateAddress sha512_256 s = .ok s ↔ Accepts addressLength (ChecksumOk sha512_256) s := by
  rw [validateAddress_eq_ok_iff]
  simp

theorem validateTxid_ok_iff_accepts (s : String) :
    validateTxid s = .ok s ↔ Accepts txidLength (fun _ => True) s := by
  rw [validateTxid_eq_ok_iff]
  simp

/-- The second half of a contract follows from the first: what is not returned is rejected, and
    a rejection is a `ValidationError`. -/
theorem contract_iff {what : String} {n m : ℕ} {badAlphabet : List Char → String}
    {check : List UInt8 → Option String} {s : String} {canonical : Prop}
    (hself : ∀ t, validateIdentifier what n m badAlphabet check s = .ok t → t = s) :
    ((validateIdentifier what n m badAlphabet check s = .ok s ↔ canonical) ∧
      (¬ canonical → ∃ message,
        validateIdentifier what n m badAlphabet check s = .error (.validationError message))) ↔
    (validateIdentifier what n m badAlphabet check s = .ok s ↔ canonical) := by
  refine ⟨fun h => h.1, fun h => ⟨h, fun hc => ?_⟩⟩
  cases hv : validateIdentifier what n m badAlphabet check s with
  | ok t =>
    have ht := hself t hv
    subst ht
    exact absurd (h.mp hv) hc
  | error e =>
    obtain ⟨message, rfl⟩ := validateIdentifier_error hv
    exact ⟨message, rfl⟩

/-- **The address contract fails at the proper twins and nowhere else.** -/
theorem addressContract_iff (s : String) :
    AddressContract sha512_256 s ↔ ¬ AddressTwin sha512_256 s := by
  rw [addressTwin_iff, ← accepts_iff_encodes addressSizes, ← canonicalAddress_iff,
    ← validateAddress_ok_iff_accepts]
  exact contract_iff fun t h => ((validateAddress_eq_ok_iff s t).mp h).1

/-- **The transaction id contract fails at the proper twins and nowhere else.** -/
theorem txidContract_iff (s : String) : TxidContract s ↔ ¬ TxidTwin s := by
  rw [txidTwin_iff, ← accepts_iff_encodes txidSizes, ← canonicalTxid_iff,
    ← validateTxid_ok_iff_accepts]
  exact contract_iff fun t h => ((validateTxid_eq_ok_iff s t).mp h).1

/-- The bytes a string of symbols decodes to, as `_b32_decode` returns them. -/
theorem Accepts.b32Decode {n m r : ℕ} {P : List UInt8 → Prop} (hn : Sizes n m r)
    (hpad : (8 - n % 8) % 8 ∈ [0, 1, 3, 4, 6]) {s : String} {raw : List UInt8}
    (h : Accepts n P s) (hdec : b32Decode s.toList m = .ok raw) :
    ∃ syms, Radix.IsDigits 32 syms ∧ syms.length = n ∧ s.toList = syms.map b32symbol ∧
      raw = symbolBytes syms ∧ P raw := by
  obtain ⟨syms, hs, hsl, hcs, hP⟩ := h
  rw [hcs, b32Decode_symbols hs (by rw [hsl]; exact hn.bytes) (by rw [hsl]; exact hpad),
    Except.ok.injEq] at hdec
  exact ⟨syms, hs, hsl, hcs, hdec.symm, hdec ▸ hP⟩

/-- Accepted addresses of one account are equal, the proper twins apart. -/
theorem address_eq_of_account {s t : String} {raw raw' : List UInt8}
    (hs : validateAddress sha512_256 s = .ok s) (ht : validateAddress sha512_256 t = .ok t)
    (hns : ¬ AddressTwin sha512_256 s) (hnt : ¬ AddressTwin sha512_256 t)
    (hds : b32Decode s.toList 36 = .ok raw) (hdt : b32Decode t.toList 36 = .ok raw')
    (haccount : raw.take 32 = raw'.take 32) : s = t := by
  have hes := (canonicalAddress_iff s).mp (((addressContract_iff s).mpr hns).1.mp hs)
  have het := (canonicalAddress_iff t).mp (((addressContract_iff t).mpr hnt).1.mp ht)
  obtain ⟨vs, hv, _, hvs, rfl, hcs⟩ :=
    ((validateAddress_ok_iff_accepts s).mp hs).b32Decode addressSizes (by decide) hds
  obtain ⟨ws, hw, _, hws, rfl, hct⟩ :=
    ((validateAddress_ok_iff_accepts t).mp ht).b32Decode addressSizes (by decide) hdt
  -- The checksum is a function of the public key, so the whole decoded strings agree.
  have hraw : symbolBytes vs = symbolBytes ws := by
    rw [← List.take_append_drop 32 (symbolBytes vs), ← List.take_append_drop 32 (symbolBytes ws),
      hcs, hct, haccount]
  exact hes.ext het hv hw hvs hws hraw

/-- Accepted transaction ids of one hash are equal, the proper twins apart. -/
theorem txid_eq_of_hash {s t : String} {raw : List UInt8}
    (hs : validateTxid s = .ok s) (ht : validateTxid t = .ok t)
    (hns : ¬ TxidTwin s) (hnt : ¬ TxidTwin t)
    (hds : b32Decode s.toList 32 = .ok raw) (hdt : b32Decode t.toList 32 = .ok raw) : s = t := by
  have hes := (canonicalTxid_iff s).mp (((txidContract_iff s).mpr hns).1.mp hs)
  have het := (canonicalTxid_iff t).mp (((txidContract_iff t).mpr hnt).1.mp ht)
  obtain ⟨vs, hv, _, hvs, rfl, _⟩ :=
    ((validateTxid_ok_iff_accepts s).mp hs).b32Decode txidSizes (by decide) hds
  obtain ⟨ws, hw, _, hws, hraw, _⟩ :=
    ((validateTxid_ok_iff_accepts t).mp ht).b32Decode txidSizes (by decide) hdt
  exact hes.ext het hv hw hvs hws hraw

/-- Changing the last character of an accepted address keeps it accepted only when the used
    bits of that character stay. -/
theorem sameUsedBits_of_last_changed {init : List Char} {c d : Char}
    (hc : validateAddress sha512_256 (String.ofList (init ++ [c])) =
      .ok (String.ofList (init ++ [c])))
    (hd : validateAddress sha512_256 (String.ofList (init ++ [d])) =
      .ok (String.ofList (init ++ [d]))) :
    SameUsedBits 2 (String.ofList (init ++ [d])) (String.ofList (init ++ [c])) := by
  obtain ⟨vs, hv, hvl, hvs, hcv⟩ := (validateAddress_ok_iff_accepts _).mp hc
  obtain ⟨ws, hw, hwl, hws, hcw⟩ := (validateAddress_ok_iff_accepts _).mp hd
  rw [String.toList_ofList] at hvs hws
  obtain ⟨xs, v, rfl⟩ := exists_concat (hvl ▸ addressSizes.nonempty)
  obtain ⟨ys, w, rfl⟩ := exists_concat (hwl ▸ addressSizes.nonempty)
  rw [List.map_append, List.map_singleton] at hvs hws
  obtain ⟨hxs, hvc⟩ := List.append_inj' hvs rfl
  obtain ⟨hys, hwd⟩ := List.append_inj' hws rfl
  obtain ⟨hdx, hv32⟩ := Radix.isDigits_concat.mp hv
  obtain ⟨hdy, hw32⟩ := Radix.isDigits_concat.mp hw
  obtain rfl : xs = ys := map_symbol_inj hdx hdy (hxs.symm.trans hys)
  have hlen : xs.length + 1 = addressLength := by simpa using hvl
  -- The public key is read from the earlier characters, so both checksums are the same.
  have htake : (symbolBytes (xs ++ [v])).take 32 = (symbolBytes (xs ++ [w])).take 32 := by
    have hbits : 8 * 32 ≤ 5 * xs.length := by
      unfold addressLength at hlen
      omega
    rw [symbolBytes, symbolBytes, ← List.map_take, ← List.map_take,
      Radix.take_unpack_eq (by omega) (by omega) hv hw hbits]
  have hraw : symbolBytes (xs ++ [v]) = symbolBytes (xs ++ [w]) := by
    rw [← List.take_append_drop 32 (symbolBytes (xs ++ [v])),
      ← List.take_append_drop 32 (symbolBytes (xs ++ [w])), hcv, hcw, htake]
  have hbits := ((symbolBytes_eq_iff addressSizes hv hw hlen hlen).mp hraw).2
  simp only [List.cons.injEq, and_true] at hvc hwd
  exact ⟨init, d, c, w, v, String.toList_ofList, String.toList_ofList,
    hwd ▸ b32rev_symbol w hw32, hvc ▸ b32rev_symbol v hv32, hbits.symm⟩

/-- **The identifier validators, exactly.** Each contract holds at a string iff the string is
    no proper twin of a canonical one; away from the twins, accepted strings decode
    injectively; and changing the last character of a valid address makes it rejected iff a
    used bit changed. -/
theorem identifierContracts_exact (sha512_256 : List UInt8 → Digest) :
    (∀ s, AddressContract sha512_256 s ↔ ¬ AddressTwin sha512_256 s) ∧
    (∀ s, TxidContract s ↔ ¬ TxidTwin s) ∧
    (∀ s t raw raw', validateAddress sha512_256 s = .ok s → validateAddress sha512_256 t = .ok t →
      ¬ AddressTwin sha512_256 s → ¬ AddressTwin sha512_256 t →
      b32Decode s.toList 36 = .ok raw → b32Decode t.toList 36 = .ok raw' →
      raw.take 32 = raw'.take 32 → s = t) ∧
    (∀ s t raw, validateTxid s = .ok s → validateTxid t = .ok t →
      ¬ TxidTwin s → ¬ TxidTwin t →
      b32Decode s.toList 32 = .ok raw → b32Decode t.toList 32 = .ok raw → s = t) ∧
    (∀ init c d,
      validateAddress sha512_256 (String.ofList (init ++ [c]))
        = .ok (String.ofList (init ++ [c])) →
      ((∃ message, validateAddress sha512_256 (String.ofList (init ++ [d]))
          = .error (.validationError message)) ↔
        ¬ SameUsedBits 2 (String.ofList (init ++ [d])) (String.ofList (init ++ [c])))) := by
  refine ⟨addressContract_iff, txidContract_iff,
    fun s t raw raw' hs ht hns hnt hds hdt h => address_eq_of_account hs ht hns hnt hds hdt h,
    fun s t raw hs ht hns hnt hds hdt => txid_eq_of_hash hs ht hns hnt hds hdt, ?_⟩
  intro init c d hc
  constructor
  · rintro ⟨message, herr⟩ hbits
    have hacc := ((validateAddress_ok_iff_accepts _).mp hc).of_sameUsedBits addressSizes hbits
    rw [(validateAddress_ok_iff_accepts _).mpr hacc] at herr
    exact absurd herr (by simp)
  · intro hbits
    cases hd : validateAddress sha512_256 (String.ofList (init ++ [d])) with
    | ok t =>
      obtain ⟨rfl, _⟩ := (validateAddress_eq_ok_iff _ _).mp hd
      exact absurd (sameUsedBits_of_last_changed hc hd) hbits
    | error e =>
      obtain ⟨message, rfl⟩ := validateIdentifier_error hd
      exact ⟨message, rfl⟩

/-- SHA-512/256 as far as the all-zero public key goes. -/
def zeroKeyDigest : Digest where
  bytes := [175, 19, 192, 72, 153, 18, 36, 165, 228, 198, 100, 68, 107, 104, 138, 175,
    72, 251, 84, 86, 219, 54, 41, 96, 27, 0, 236, 22, 12, 116, 229, 84]
  length_eq := rfl

/-- The all-zero address ends in `Q`, whose two low bits are unused: with `R` for it the string
    is still accepted, and so is a transaction id that ends in `B` where its canonical form
    ends in `A`. -/
theorem validators_accept_twins :
    ¬ AddressContract (fun _ => zeroKeyDigest)
      "AAAAAAAAAAAAAAAAAAAAAAAAAAAAAAAAAAAAAAAAAAAAAAAAAAAAY5HFKR" ∧
    ¬ TxidContract "AAAAAAAAAAAAAAAAAAAAAAAAAAAAAAAAAAAAAAAAAAAAAAAAAAAB" := by
  constructor
  · rw [addressContract_iff, not_not]
    refine ⟨"AAAAAAAAAAAAAAAAAAAAAAAAAAAAAAAAAAAAAAAAAAAAAAAAAAAAY5HFKQ",
      ⟨List.replicate 32 0, rfl, by decide⟩, by decide, ?_⟩
    exact ⟨List.replicate 52 'A' ++ ['Y', '5', 'H', 'F', 'K'], 'R', 'Q', 17, 16, by decide,
      by decide, by decide, by decide, by decide⟩
  · rw [txidContract_iff, not_not]
    refine ⟨"AAAAAAAAAAAAAAAAAAAAAAAAAAAAAAAAAAAAAAAAAAAAAAAAAAAA",
      ⟨List.replicate 32 0, rfl, by decide⟩, by decide, ?_⟩
    exact ⟨List.replicate 51 'A', 'B', 'A', 1, 0, by decide, by decide, by decide, by decide,
      by decide⟩

end Algorandscout
