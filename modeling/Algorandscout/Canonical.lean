import Algorandscout.Validation

namespace Algorandscout

open Library

/-!
# Which strings the identifier validators accept

A canonical identifier is the base32 encoding of some bytes.  `b32decode` looks at the bits of
a string in groups of eight and never at the bits left over, so a validator accepts, besides
each canonical string, its *twins*: the strings that differ from it in the unused low bits of
the last symbol only.

* `Accepts n P s` — `s` is `n` symbols whose decoded bytes satisfy `P`;
* `Encodes m P s` — `s` is the encoding of `m` bytes that satisfy `P`;
* `accepts_iff` — a string is accepted iff it shares the used bits of an encoding;
* `accepts_iff_encodes` — and the two notions agree on a string exactly when it is no proper
  twin of an encoding.

`validateAddress` and `validateTxid` are both of this kind (`validateAddress_eq_ok_iff`,
`validateTxid_eq_ok_iff`).
-/

/-! ### Symbols -/

theorem b32rev_symbol : ∀ v < 32, b32rev (b32symbol v) = some v := by decide

theorem mem_alphabet_iff (c : Char) : c ∈ base32Alphabet ↔ ∃ v < 32, c = b32symbol v := by
  have hall : (base32Alphabet.all fun c => (List.range 32).any fun v => c == b32symbol v) := by
    decide
  have hto : c ∈ base32Alphabet → ∃ v < 32, c = b32symbol v := by
    intro hc
    simpa using List.all_eq_true.mp hall c hc
  have hof : ∀ v < 32, b32symbol v ∈ base32Alphabet := by decide
  exact ⟨hto, fun ⟨v, hv, hc⟩ => hc ▸ hof v hv⟩

theorem b32rev_eq_some_iff (c : Char) (v : ℕ) : b32rev c = some v ↔ v < 32 ∧ c = b32symbol v := by
  constructor
  · intro h
    have hmem : c ∈ base32Alphabet := by
      by_contra hc
      rw [b32rev, List.idxOf?_eq_none_iff.mpr hc] at h
      exact absurd h (by simp)
    obtain ⟨w, hw, rfl⟩ := (mem_alphabet_iff c).mp hmem
    rw [b32rev_symbol w hw, Option.some.injEq] at h
    exact h ▸ ⟨hw, rfl⟩
  · rintro ⟨hv, rfl⟩
    exact b32rev_symbol v hv

theorem b32symbol_inj {v w : ℕ} (hv : v < 32) (hw : w < 32) (h : b32symbol v = b32symbol w) :
    v = w := by
  have := b32rev_symbol v hv
  rw [h, b32rev_symbol w hw] at this
  exact (Option.some.injEq _ _ ▸ this).symm

theorem mapM_b32rev (cs : List Char) (syms : List ℕ) :
    cs.mapM b32rev = some syms ↔ Radix.IsDigits 32 syms ∧ cs = syms.map b32symbol := by
  induction cs generalizing syms with
  | nil =>
    cases syms <;> simp [Radix.IsDigits]
  | cons c cs ih =>
    rw [List.mapM_cons]
    cases syms with
    | nil => cases hc : b32rev c <;> cases hr : cs.mapM b32rev <;> simp
    | cons v vs =>
      have hih := ih vs
      rw [List.map_cons, List.cons.injEq]
      constructor
      · intro h
        cases hc : b32rev c with
        | none => rw [hc] at h; exact absurd h (by simp)
        | some w =>
          cases hr : cs.mapM b32rev with
          | none => rw [hc, hr] at h; exact absurd h (by simp)
          | some ws =>
            rw [hc, hr] at h
            have hvw : w :: ws = v :: vs := by simpa using h
            obtain ⟨rfl, rfl⟩ := List.cons.inj hvw
            obtain ⟨hw, rfl⟩ := (b32rev_eq_some_iff c w).mp hc
            obtain ⟨hws, rfl⟩ := hih.mp hr
            exact ⟨Radix.isDigits_cons.mpr ⟨hw, hws⟩, rfl, rfl⟩
      · rintro ⟨hd, rfl, hcs⟩
        obtain ⟨hv, hvs⟩ := Radix.isDigits_cons.mp hd
        rw [b32rev_symbol v hv, hih.mpr ⟨hvs, hcs⟩]
        rfl

/-- A string over the alphabet is the image of its symbol values. -/
theorem exists_symbols {cs : List Char} (h : ∀ c ∈ cs, c ∈ base32Alphabet) :
    ∃ syms, Radix.IsDigits 32 syms ∧ cs = syms.map b32symbol := by
  induction cs with
  | nil => exact ⟨[], by simp [Radix.IsDigits], rfl⟩
  | cons c cs ih =>
    obtain ⟨syms, hs, rfl⟩ := ih (fun d hd => h d (by simp [hd]))
    obtain ⟨v, hv, rfl⟩ := (mem_alphabet_iff c).mp (h c (by simp))
    exact ⟨v :: syms, Radix.isDigits_cons.mpr ⟨hv, hs⟩, rfl⟩

/-- The symbols of the alphabet are the images of the values below 32. -/
theorem mem_alphabet_of_mem_symbols {syms : List ℕ} (hs : Radix.IsDigits 32 syms) :
    ∀ c ∈ syms.map b32symbol, c ∈ base32Alphabet := by
  intro c hc
  obtain ⟨v, hv, rfl⟩ := List.mem_map.mp hc
  exact (mem_alphabet_iff _).mpr ⟨v, hs v hv, rfl⟩

theorem map_symbol_inj {vs ws : List ℕ} (hv : Radix.IsDigits 32 vs) (hw : Radix.IsDigits 32 ws)
    (h : vs.map b32symbol = ws.map b32symbol) : vs = ws := by
  have h1 := (mapM_b32rev (vs.map b32symbol) vs).mpr ⟨hv, rfl⟩
  have h2 := (mapM_b32rev (vs.map b32symbol) ws).mpr ⟨hw, h⟩
  rw [h1] at h2
  exact Option.some.inj h2

/-! ### The decoder on `n` symbols -/

/-- The bytes `n` symbols decode to. -/
def symbolBytes (syms : List ℕ) : List UInt8 := (Radix.unpack 5 8 syms).map UInt8.ofNat

theorem map_toNat_symbolBytes (syms : List ℕ) :
    (symbolBytes syms).map UInt8.toNat = Radix.unpack 5 8 syms := by
  rw [symbolBytes, List.map_map]
  conv_rhs => rw [← List.map_id (Radix.unpack 5 8 syms)]
  refine List.map_congr_left fun v hv => ?_
  have hv' : v < 2 ^ 8 := Radix.isDigits_unpack (by omega) syms v hv
  simpa using hv'

theorem isDigits_toNat (raw : List UInt8) : Radix.IsDigits (2 ^ 8) (raw.map UInt8.toNat) := by
  intro d hd
  obtain ⟨b, _, rfl⟩ := List.mem_map.mp hd
  exact b.toNat_lt

theorem symbolBytes_pack (raw : List UInt8) :
    symbolBytes (Radix.pack 8 5 (raw.map UInt8.toNat)) = raw := by
  rw [symbolBytes, Radix.unpack_pack (by omega) (by omega) (isDigits_toNat raw), List.map_map]
  conv_rhs => rw [← List.map_id raw]
  exact List.map_congr_left fun b _ => by simp

/-- What the alphabet excludes: nothing in it is a line break, a pad or above ASCII. -/
theorem alphabet_chars : ∀ c ∈ base32Alphabet, c ≠ '\n' ∧ (c == '=') = false ∧ ¬ c.toNat > 127 := by
  have hall : (base32Alphabet.all fun c => c != '\n' && !(c == '=') && c.toNat ≤ 127) := by decide
  intro c hc
  simpa [and_assoc] using List.all_eq_true.mp hall c hc

/-- Stripping takes the pads off, and no more where the last character is none. -/
theorem strip_pads {cs : List Char} (h : ∀ hne : cs ≠ [], cs.getLast hne ≠ '=') (k : ℕ) :
    (cs ++ List.replicate k '=').rdropWhile (· == '=') = cs := by
  induction k with
  | zero =>
    rw [List.replicate_zero, List.append_nil, List.rdropWhile_eq_self_iff]
    intro hne
    simpa using h hne
  | succ k ih =>
    rw [List.replicate_succ', ← List.append_assoc, List.rdropWhile_concat_pos _ _ _ (by simp)]
    exact ih

/-- `base64.b32decode` on a string over the alphabet with the pads that it needs. -/
theorem b32decode_symbols {syms : List ℕ} (hs : Radix.IsDigits 32 syms) {k : ℕ}
    (hmod : (syms.length + k) % 8 = 0) (hk : k ∈ [0, 1, 3, 4, 6]) :
    b32decode (syms.map b32symbol ++ List.replicate k '=') = .ok (symbolBytes syms) := by
  have hmem := mem_alphabet_of_mem_symbols hs
  have hascii : (syms.map b32symbol ++ List.replicate k '=').any (·.toNat > 127) = false := by
    rw [List.any_eq_false]
    intro c hc
    rcases List.mem_append.mp hc with hc | hc
    · simpa using (alphabet_chars c (hmem c hc)).2.2
    · rw [List.eq_of_mem_replicate hc]
      decide
  have hlength : (syms.map b32symbol ++ List.replicate k '=').length % 8 = 0 := by
    rw [List.length_append, List.length_map, List.length_replicate, hmod]
  have hstrip : (syms.map b32symbol ++ List.replicate k '=').rdropWhile (· == '=')
      = syms.map b32symbol := by
    apply strip_pads
    intro hne
    -- No symbol is a pad.
    simpa using (alphabet_chars _ (hmem _ (List.getLast_mem hne))).2.1
  have hmap := (mapM_b32rev (syms.map b32symbol) syms).mpr ⟨hs, rfl⟩
  rw [b32decode, hascii, hlength]
  simp only [Bool.false_eq_true, ↓reduceIte, ne_eq, not_true_eq_false, hstrip, hmap]
  rw [if_pos (by simpa using hk)]
  rfl

/-- `_b32_decode` on a string over the alphabet, for the lengths base32 can have. -/
theorem b32Decode_symbols {syms : List ℕ} (hs : Radix.IsDigits 32 syms) {n : ℕ}
    (hlen : 5 * syms.length / 8 = n)
    (hpad : (8 - syms.length % 8) % 8 ∈ [0, 1, 3, 4, 6]) :
    b32Decode (syms.map b32symbol) n = .ok (symbolBytes syms) := by
  have hpads : (-((syms.map b32symbol).length : Int) % 8).toNat = (8 - syms.length % 8) % 8 := by
    rw [List.length_map]
    omega
  -- The length check after the decoding passes.
  have hbytes : (symbolBytes syms).length = n := by
    rw [symbolBytes, List.length_map, Radix.length_unpack (by omega) (by omega) hs, hlen]
  have hdec := b32decode_symbols hs (k := (8 - syms.length % 8) % 8) (by omega) hpad
  unfold b32Decode
  simp only [hpads, hdec]
  simp [bind, Except.bind, pure, Except.pure, hbytes]

/-- `_b32_decode` after the regular expression: a string it decodes is over the alphabet.  The
    one string the expression lets through that is not, a final line break, is no symbol. -/
theorem symbols_of_b32Decode_ok {cs : List Char} {n : ℕ} {raw : List UInt8}
    (hre : base32Re cs = true) (h : b32Decode cs n = .ok raw) :
    ∃ syms, Radix.IsDigits 32 syms ∧ cs = syms.map b32symbol := by
  by_cases hnl : cs.getLast? = some '\n'
  · -- The line break survives the stripping of the pads and has no symbol value.
    exfalso
    obtain ⟨init, rfl⟩ := List.getLast?_eq_some_iff.mp hnl
    have hdrop : ∀ k, (init ++ ['\n'] ++ List.replicate k '=').rdropWhile (· == '=')
        = init ++ ['\n'] := by
      apply strip_pads
      intro hne
      rw [List.getLast_append_singleton]
      decide
    have hnone : (init ++ ['\n']).mapM b32rev = none := by
      rw [Option.eq_none_iff_forall_ne_some]
      intro syms hsyms
      obtain ⟨hd, heq⟩ := (mapM_b32rev _ _).mp hsyms
      have hmem : '\n' ∈ syms.map b32symbol := heq ▸ (by simp)
      exact (alphabet_chars '\n' (mem_alphabet_of_mem_symbols hd _ hmem)).1 rfl
    unfold b32Decode b32decode at h
    simp only [hdrop, hnone] at h
    split at h
    · simp [bind, Except.bind] at h
    · split at h <;> simp [bind, Except.bind] at h
  · rw [base32Re, if_neg hnl] at hre
    simp only [Bool.and_eq_true, List.all_eq_true, List.contains_iff_mem] at hre
    exact exists_symbols hre.2

/-! ### Encodings, their twins, and what is accepted -/

/-- `s` is `n` symbols whose decoded bytes satisfy `P`. -/
def Accepts (n : ℕ) (P : List UInt8 → Prop) (s : String) : Prop :=
  ∃ syms, Radix.IsDigits 32 syms ∧ syms.length = n ∧ s.toList = syms.map b32symbol ∧
    P (symbolBytes syms)

/-- `s` is the base32 encoding of `m` bytes that satisfy `P`. -/
def Encodes (m : ℕ) (P : List UInt8 → Prop) (s : String) : Prop :=
  ∃ raw : List UInt8, raw.length = m ∧ P raw ∧ s.toList = b32encode raw

/-- `s` and `t` are equal but for the low `r` bits of their last symbols. -/
def SameUsedBits (r : ℕ) (s t : String) : Prop :=
  ∃ (init : List Char) (c d : Char) (v w : ℕ), s.toList = init ++ [c] ∧ t.toList = init ++ [d] ∧
    b32rev c = some v ∧ b32rev d = some w ∧ v / 2 ^ r = w / 2 ^ r

/-- `s` is a proper twin: it shares the used bits of an encoding and is another string. -/
def ProperTwin (m r : ℕ) (P : List UInt8 → Prop) (s : String) : Prop :=
  ∃ t, Encodes m P t ∧ t ≠ s ∧ SameUsedBits r s t

/-- The sizes of an identifier: `n` symbols hold `m` bytes and `r` unused bits. -/
structure Sizes (n m r : ℕ) : Prop where
  bytes : 5 * n / 8 = m
  unused : Radix.leftover 5 8 n = r
  minimal : r < 5
  nonempty : 0 < n

theorem addressSizes : Sizes addressLength 36 2 := by constructor <;> decide

theorem txidSizes : Sizes txidLength 32 4 := by constructor <;> decide

variable {n m r : ℕ} {P : List UInt8 → Prop}

theorem Sizes.packedLength (hn : Sizes n m r) : Radix.packedLength 8 5 m = n := by
  rw [← hn.bytes]
  exact Radix.packedLength_unpacked (by omega) (by rw [hn.unused]; exact hn.minimal)

/-- An encoding is accepted. -/
theorem Encodes.accepts (hn : Sizes n m r) {s : String} (h : Encodes m P s) : Accepts n P s := by
  obtain ⟨raw, hlen, hP, hs⟩ := h
  refine ⟨Radix.pack 8 5 (raw.map UInt8.toNat), Radix.isDigits_pack (by omega) _, ?_, hs, ?_⟩
  · rw [Radix.length_pack (by omega) (by omega) (isDigits_toNat raw), List.length_map, hlen,
      hn.packedLength]
  · rwa [symbolBytes_pack]

/-- An encoding is determined by the bytes it decodes to. -/
theorem Encodes.ext {s t : String} (hs : Encodes m P s) (ht : Encodes m P t)
    {vs ws : List ℕ} (hv : Radix.IsDigits 32 vs) (hw : Radix.IsDigits 32 ws)
    (hvs : s.toList = vs.map b32symbol) (hwt : t.toList = ws.map b32symbol)
    (hbytes : symbolBytes vs = symbolBytes ws) : s = t := by
  obtain ⟨raw, _, _, hs⟩ := hs
  obtain ⟨raw', _, _, ht⟩ := ht
  have h1 : vs = Radix.pack 8 5 (raw.map UInt8.toNat) :=
    map_symbol_inj hv (Radix.isDigits_pack (by omega) _) (hvs.symm.trans hs)
  have h2 : ws = Radix.pack 8 5 (raw'.map UInt8.toNat) :=
    map_symbol_inj hw (Radix.isDigits_pack (by omega) _) (hwt.symm.trans ht)
  rw [h1, h2, symbolBytes_pack, symbolBytes_pack] at hbytes
  rw [← String.toList_inj, hs, ht, hbytes]

/-- The decoded bytes see exactly the used bits. -/
theorem symbolBytes_eq_iff (hn : Sizes n m r) {vs ws : List ℕ} {v w : ℕ}
    (hv : Radix.IsDigits 32 (vs ++ [v])) (hw : Radix.IsDigits 32 (ws ++ [w]))
    (hlen : vs.length + 1 = n) (hlen' : ws.length + 1 = n) :
    symbolBytes (vs ++ [v]) = symbolBytes (ws ++ [w]) ↔ vs = ws ∧ v / 2 ^ r = w / 2 ^ r := by
  have hr : Radix.leftover 5 8 (vs.length + 1) = r := by rw [hlen]; exact hn.unused
  have hiff := Radix.unpack_eq_iff (i := 5) (j := 8) (by omega) (by omega) hv hw (by omega)
    (by rw [hr]; exact hn.minimal)
  rw [hr] at hiff
  rw [← hiff]
  constructor
  · intro h
    rw [← map_toNat_symbolBytes, ← map_toNat_symbolBytes, h]
  · intro h
    rw [symbolBytes, symbolBytes, h]

/-- **Acceptance only sees the used bits.** -/
theorem Accepts.of_sameUsedBits (hn : Sizes n m r) {s t : String} (ht : Accepts n P t)
    (h : SameUsedBits r s t) : Accepts n P s := by
  obtain ⟨syms, hd, hlen, hsyms, hP⟩ := ht
  obtain ⟨init, c, d, v, w, hs, ht, hc, hdw, hvw⟩ := h
  obtain ⟨hv, rfl⟩ := (b32rev_eq_some_iff c v).mp hc
  obtain ⟨hw, rfl⟩ := (b32rev_eq_some_iff d w).mp hdw
  rw [ht] at hsyms
  -- The symbols of `t` end in `w`; those of `s` are the same with `v` for it.
  obtain ⟨ws, us, rfl, hws, hus⟩ := List.append_eq_map_iff.mp hsyms
  obtain ⟨u, rfl, hu⟩ : ∃ u, us = [u] ∧ b32symbol u = b32symbol w := by
    cases us with
    | nil => simp at hus
    | cons u us => cases us with
      | nil => exact ⟨u, rfl, by simpa using hus⟩
      | cons a b => simp at hus
  have huw : u = w := b32symbol_inj (hd u (by simp)) hw hu
  subst huw
  have hdv : Radix.IsDigits 32 (ws ++ [v]) :=
    Radix.isDigits_concat.mpr ⟨(Radix.isDigits_concat.mp hd).1, hv⟩
  have hlen' : ws.length + 1 = n := by simpa using hlen
  refine ⟨ws ++ [v], hdv, by simpa using hlen, by simp [hs, hws], ?_⟩
  rwa [(symbolBytes_eq_iff hn hdv hd hlen' hlen').mpr ⟨rfl, hvw⟩]

/-- A string of symbols ends in a symbol. -/
theorem exists_concat {syms : List ℕ} (h : 0 < syms.length) :
    ∃ init last, syms = init ++ [last] := by
  have hne := List.length_pos_iff.mp h
  exact ⟨syms.dropLast, syms.getLast hne, (List.dropLast_append_getLast hne).symm⟩

/-- An accepted string shares its used bits with the encoding of the bytes it decodes to. -/
theorem Accepts.exists_encodes (hn : Sizes n m r) {s : String} (h : Accepts n P s) :
    ∃ t, Encodes m P t ∧ SameUsedBits r s t := by
  obtain ⟨syms, hd, hlen, hs, hP⟩ := h
  obtain ⟨vs, v, rfl⟩ := exists_concat (hlen ▸ hn.nonempty)
  have hlen' : vs.length + 1 = n := by simpa using hlen
  have hr : Radix.leftover 5 8 (vs.length + 1) = r := by rw [hlen']; exact hn.unused
  have hpu := Radix.pack_unpack (i := 5) (j := 8) (by omega) (by omega) hd
    (by rw [hr]; exact hn.minimal)
  rw [hr] at hpu
  have hv : v < 32 := (Radix.isDigits_concat.mp hd).2
  have hle : v / 2 ^ r * 2 ^ r ≤ v := Nat.div_mul_le_self v (2 ^ r)
  -- The encoding of the decoded bytes clears the unused bits and keeps the rest.
  refine ⟨String.ofList (b32encode (symbolBytes (vs ++ [v]))),
    ⟨symbolBytes (vs ++ [v]), ?_, hP, String.toList_ofList⟩, ?_⟩
  · rw [symbolBytes, List.length_map, Radix.length_unpack (by omega) (by omega) hd, hlen, hn.bytes]
  · refine ⟨vs.map b32symbol, b32symbol v, b32symbol (v / 2 ^ r * 2 ^ r), v, v / 2 ^ r * 2 ^ r,
      by simp [hs], ?_, b32rev_symbol v hv, b32rev_symbol _ (by omega), ?_⟩
    · rw [String.toList_ofList, b32encode, map_toNat_symbolBytes, hpu, List.map_append]
      rfl
    · rw [Nat.mul_div_cancel _ (Nat.two_pow_pos r)]

/-- **A string is accepted iff it shares the used bits of an encoding.** -/
theorem accepts_iff (hn : Sizes n m r) (s : String) :
    Accepts n P s ↔ ∃ t, Encodes m P t ∧ SameUsedBits r s t :=
  ⟨fun h => h.exists_encodes hn, fun ⟨_, ht, h⟩ => (ht.accepts hn).of_sameUsedBits hn h⟩

/-- Two encodings that share their used bits are equal. -/
theorem Encodes.eq_of_sameUsedBits (hn : Sizes n m r) {s t : String} (hs : Encodes m P s)
    (ht : Encodes m P t) (h : SameUsedBits r s t) : s = t := by
  obtain ⟨vs, hv, hvl, hvs, _⟩ := hs.accepts hn
  obtain ⟨ws, hw, hwl, hws, _⟩ := ht.accepts hn
  refine hs.ext ht hv hw hvs hws ?_
  obtain ⟨us, hu, hul, hus, hub⟩ :=
    Accepts.of_sameUsedBits (P := (· = symbolBytes ws)) hn ⟨ws, hw, hwl, hws, rfl⟩ h
  rw [map_symbol_inj hv hu (hvs.symm.trans hus), hub]

/-- **Acceptance is canonicity, except on proper twins.** -/
theorem accepts_iff_encodes (hn : Sizes n m r) (s : String) :
    (Accepts n P s ↔ Encodes m P s) ↔ ¬ ProperTwin m r P s := by
  constructor
  · rintro h ⟨t, ht, hne, hbits⟩
    have hs := h.mp ((ht.accepts hn).of_sameUsedBits hn hbits)
    exact hne (hs.eq_of_sameUsedBits hn ht hbits).symm
  · intro h
    refine ⟨fun ha => ?_, fun he => he.accepts hn⟩
    obtain ⟨t, ht, hbits⟩ := ha.exists_encodes hn
    by_cases hts : t = s
    · exact hts ▸ ht
    · exact absurd ⟨t, ht, hts, hbits⟩ h

end Algorandscout
