import Mathlib.Data.Nat.Digits.Lemmas
import Mathlib.Tactic.Ring

namespace Algorandscout.Library.Radix

/-!
# Repacking digit strings between radices `2 ^ i` and `2 ^ j`

A digit string is a list of numbers below the radix, most significant first, read as one
number (`value`) and written with a fixed number of digits (`digits`).

* `unpack i j` — read `i`-bit digits as one bit string and cut it into `j`-bit digits; the
  bits left over at the end, fewer than `j`, are discarded *without being looked at*;
* `pack j i` — the encoding direction: `j`-bit digits into as few `i`-bit digits as hold
  them, the last one filled up with zero bits.

`unpack_pack` says that packing loses nothing.  `pack_unpack` says what unpacking forgets:
the low bits of the last digit, and only these, come back as zero.
-/

/-- The number a digit string denotes in radix `b`. -/
def value (b : ℕ) (ds : List ℕ) : ℕ := Nat.ofDigits b ds.reverse

/-- The `n` digits of `x` in radix `b`. -/
def digits (b n x : ℕ) : List ℕ := (Nat.digitsAppend b n x).reverse

/-- Every digit is below the radix. -/
def IsDigits (b : ℕ) (ds : List ℕ) : Prop := ∀ d ∈ ds, d < b

variable {b : ℕ}

theorem isDigits_cons {d : ℕ} {ds : List ℕ} :
    IsDigits b (d :: ds) ↔ d < b ∧ IsDigits b ds := List.forall_mem_cons

theorem isDigits_append {ds es : List ℕ} :
    IsDigits b (ds ++ es) ↔ IsDigits b ds ∧ IsDigits b es := List.forall_mem_append

theorem isDigits_concat {ds : List ℕ} {d : ℕ} :
    IsDigits b (ds ++ [d]) ↔ IsDigits b ds ∧ d < b := by
  rw [isDigits_append]
  exact and_congr_right' List.forall_mem_singleton

theorem value_append_singleton (ds : List ℕ) (d : ℕ) :
    value b (ds ++ [d]) = b * value b ds + d := by
  simp [value, Nat.ofDigits_cons, Nat.add_comm]

theorem value_lt (hb : 1 < b) {ds : List ℕ} (h : IsDigits b ds) : value b ds < b ^ ds.length := by
  have := Nat.ofDigits_lt_base_pow_length hb (l := ds.reverse)
    (fun x hx => h x (by simpa using hx))
  simpa [value] using this

theorem length_digits (hb : 1 < b) {n x : ℕ} (hx : x < b ^ n) : (digits b n x).length = n := by
  simpa [digits] using Nat.length_digitsAppend hb n hx

theorem isDigits_digits (hb : 1 < b) (n x : ℕ) : IsDigits b (digits b n x) := by
  intro d hd
  exact Nat.lt_of_mem_digitsAppend hb n d (by simpa [digits] using hd)

theorem value_digits (hb : 1 < b) {n x : ℕ} (hx : x < b ^ n) : value b (digits b n x) = x := by
  have := (Nat.setInvOn_digitsAppend_ofDigits hb n).2 hx
  simpa [value, digits] using this

theorem digits_value (hb : 1 < b) {ds : List ℕ} (h : IsDigits b ds) :
    digits b ds.length (value b ds) = ds := by
  have hmem : ds.reverse ∈ {L : List ℕ | L.length = ds.length ∧ ∀ x ∈ L, x < b} := by
    refine ⟨by simp, ?_⟩
    intro x hx
    exact h x (by simpa using hx)
  have := (Nat.setInvOn_digitsAppend_ofDigits hb ds.length).1 hmem
  rw [digits, value, this, List.reverse_reverse]

/-- Two digit strings of one length with the same value are equal. -/
theorem value_inj (hb : 1 < b) {ds es : List ℕ} (hd : IsDigits b ds) (he : IsDigits b es)
    (hlen : ds.length = es.length) (h : value b ds = value b es) : ds = es := by
  rw [← digits_value hb hd, ← digits_value hb he, h, hlen]

theorem value_append (ds es : List ℕ) :
    value b (ds ++ es) = b ^ es.length * value b ds + value b es := by
  simp [value, Nat.ofDigits_append, Nat.add_comm]

/-- The leading digits of a number are the digits of its quotient. -/
theorem take_digits (hb : 1 < b) {k l x : ℕ} (hx : x < b ^ (k + l)) :
    (digits b (k + l) x).take k = digits b k (x / b ^ l) := by
  have hpos : 0 < b ^ l := Nat.pow_pos (by omega)
  have hhi : x / b ^ l < b ^ k := by
    rwa [Nat.div_lt_iff_lt_mul hpos, ← pow_add]
  have hlo : x % b ^ l < b ^ l := Nat.mod_lt x hpos
  have hsplit : digits b (k + l) x = digits b k (x / b ^ l) ++ digits b l (x % b ^ l) := by
    refine value_inj hb (isDigits_digits hb _ _) ?_ ?_ ?_
    · exact isDigits_append.mpr ⟨isDigits_digits hb _ _, isDigits_digits hb _ _⟩
    · rw [length_digits hb hx, List.length_append, length_digits hb hhi, length_digits hb hlo]
    · rw [value_digits hb hx, value_append, length_digits hb hlo, value_digits hb hhi,
        value_digits hb hlo, Nat.div_add_mod]
  rw [hsplit, List.take_left' (length_digits hb hhi)]

/-! ### Repacking -/

/-- Cut the bit string of `i`-bit digits into `j`-bit digits, discarding what is left over. -/
def unpack (i j : ℕ) (ds : List ℕ) : List ℕ :=
  digits (2 ^ j) (i * ds.length / j) (value (2 ^ i) ds / 2 ^ (i * ds.length % j))

/-- The least number of `i`-bit digits that holds `n` digits of `j` bits. -/
def packedLength (j i n : ℕ) : ℕ := (j * n + (i - 1)) / i

/-- Write `j`-bit digits as `i`-bit digits, filling the last one up with zero bits. -/
def pack (j i : ℕ) (bs : List ℕ) : List ℕ :=
  let n := packedLength j i bs.length
  digits (2 ^ i) n (value (2 ^ j) bs * 2 ^ (i * n - j * bs.length))

variable {i j : ℕ}

theorem one_lt_two_pow (h : 0 < i) : 1 < 2 ^ i := Nat.one_lt_two_pow (by omega)

/-- The number `unpack` writes fits in the digits it writes it with. -/
theorem unpack_lt (hi : 0 < i) {ds : List ℕ} (h : IsDigits (2 ^ i) ds) :
    value (2 ^ i) ds / 2 ^ (i * ds.length % j) < (2 ^ j) ^ (i * ds.length / j) := by
  have hv := value_lt (one_lt_two_pow hi) h
  rw [← pow_mul] at hv ⊢
  rw [Nat.div_lt_iff_lt_mul (Nat.two_pow_pos _), ← pow_add, Nat.div_add_mod]
  exact hv

theorem length_unpack (hi : 0 < i) (hj : 0 < j) {ds : List ℕ} (h : IsDigits (2 ^ i) ds) :
    (unpack i j ds).length = i * ds.length / j :=
  length_digits (one_lt_two_pow hj) (unpack_lt hi h)

theorem isDigits_unpack (hj : 0 < j) (ds : List ℕ) : IsDigits (2 ^ j) (unpack i j ds) :=
  isDigits_digits (one_lt_two_pow hj) _ _

theorem le_packedLength (hi : 0 < i) (n : ℕ) : j * n ≤ i * packedLength j i n := by
  have h := Nat.div_add_mod (j * n + (i - 1)) i
  have hm := Nat.mod_lt (j * n + (i - 1)) hi
  unfold packedLength
  omega

theorem packedLength_lt (hi : 0 < i) (n : ℕ) : i * packedLength j i n < j * n + i := by
  have h := Nat.div_add_mod (j * n + (i - 1)) i
  unfold packedLength
  omega

/-- The number `pack` writes fits in the digits it writes it with. -/
theorem pack_lt (hi : 0 < i) (hj : 0 < j) {bs : List ℕ} (h : IsDigits (2 ^ j) bs) :
    value (2 ^ j) bs * 2 ^ (i * packedLength j i bs.length - j * bs.length)
      < (2 ^ i) ^ packedLength j i bs.length := by
  have hv := value_lt (one_lt_two_pow hj) h
  have hle := le_packedLength (j := j) hi bs.length
  rw [← pow_mul] at hv ⊢
  calc value (2 ^ j) bs * 2 ^ (i * packedLength j i bs.length - j * bs.length)
      < 2 ^ (j * bs.length) * 2 ^ (i * packedLength j i bs.length - j * bs.length) :=
        Nat.mul_lt_mul_of_pos_right hv (Nat.two_pow_pos _)
    _ = 2 ^ (i * packedLength j i bs.length) := by rw [← pow_add]; congr 1; omega

theorem length_pack (hi : 0 < i) (hj : 0 < j) {bs : List ℕ} (h : IsDigits (2 ^ j) bs) :
    (pack j i bs).length = packedLength j i bs.length :=
  length_digits (one_lt_two_pow hi) (pack_lt hi hj h)

theorem isDigits_pack (hi : 0 < i) (bs : List ℕ) : IsDigits (2 ^ i) (pack j i bs) :=
  isDigits_digits (one_lt_two_pow hi) _ _

/-- **Packing loses nothing**, as long as a digit of the wider radix is at least as wide. -/
theorem unpack_pack (hi : 0 < i) (hij : i ≤ j) {bs : List ℕ} (h : IsDigits (2 ^ j) bs) :
    unpack i j (pack j i bs) = bs := by
  have hj : 0 < j := by omega
  have hle := le_packedLength (j := j) hi bs.length
  have hlt := packedLength_lt (j := j) hi bs.length
  -- The filling bits are fewer than a digit, so they are exactly what `unpack` discards.
  have hsplit : i * packedLength j i bs.length
      = (i * packedLength j i bs.length - j * bs.length) + j * bs.length := by omega
  have hdiv : i * packedLength j i bs.length / j = bs.length := by
    rw [hsplit, Nat.add_mul_div_left _ _ hj, Nat.div_eq_of_lt (by omega), Nat.zero_add]
  have hmod : i * packedLength j i bs.length % j
      = i * packedLength j i bs.length - j * bs.length := by
    rw [hsplit, Nat.add_mul_mod_self_left, Nat.mod_eq_of_lt (by omega)]
    omega
  rw [unpack, length_pack hi hj h, hdiv, hmod]
  -- So the number comes back as it was, and with it its digits.
  have hval : value (2 ^ i) (pack j i bs)
      = value (2 ^ j) bs * 2 ^ (i * packedLength j i bs.length - j * bs.length) :=
    value_digits (one_lt_two_pow hi) (pack_lt hi hj h)
  rw [hval, Nat.mul_div_cancel _ (Nat.two_pow_pos _), digits_value (one_lt_two_pow hj) h]

/-- Digit strings that pack to the same string are equal. -/
theorem pack_inj (hi : 0 < i) (hij : i ≤ j) {bs cs : List ℕ} (hb : IsDigits (2 ^ j) bs)
    (hc : IsDigits (2 ^ j) cs) (h : pack j i bs = pack j i cs) : bs = cs := by
  rw [← unpack_pack hi hij hb, ← unpack_pack hi hij hc, h]

/-- The number of bits `unpack` discards from `n` digits. -/
def leftover (i j n : ℕ) : ℕ := i * n % j

/-- Unpacking what `i`-bit digits hold, when the left-over bits are fewer than one digit,
    and packing again needs as many digits as before. -/
theorem packedLength_unpacked (hi : 0 < i) {n : ℕ} (hr : leftover i j n < i) :
    packedLength j i (i * n / j) = n := by
  have h := Nat.div_add_mod (i * n) j
  unfold leftover at hr
  have hsplit : j * (i * n / j) + (i - 1) = (i - 1 - i * n % j) + i * n := by omega
  rw [packedLength, hsplit, Nat.add_mul_div_left _ _ hi, Nat.div_eq_of_lt (by omega),
    Nat.zero_add]

/-- **What unpacking forgets.** Unpacking a digit string and packing it again clears the
    left-over low bits of the last digit and changes nothing else. -/
theorem pack_unpack (hi : 0 < i) (hij : i ≤ j) {ds : List ℕ} {d : ℕ}
    (h : IsDigits (2 ^ i) (ds ++ [d])) (hr : leftover i j (ds.length + 1) < i) :
    pack j i (unpack i j (ds ++ [d]))
      = ds ++ [d / 2 ^ leftover i j (ds.length + 1) * 2 ^ leftover i j (ds.length + 1)] := by
  have hj : 0 < j := by omega
  have hlen : (ds ++ [d]).length = ds.length + 1 := by simp
  have hdm := Nat.div_add_mod (i * (ds.length + 1)) j
  have hpl := packedLength_unpacked (j := j) hi hr
  generalize hR : leftover i j (ds.length + 1) = r at *
  have hmod : i * (ds.length + 1) % j = r := hR
  -- The value of the whole string, split at the last digit.
  have hcut : d / 2 ^ r * 2 ^ r ≤ d := Nat.div_mul_le_self d (2 ^ r)
  obtain ⟨hds, hd⟩ := isDigits_concat.mp h
  have hpow : (2 : ℕ) ^ i = 2 ^ (i - r) * 2 ^ r := by
    rw [← pow_add]; congr 1; omega
  have hval : value (2 ^ i) (ds ++ [d]) / 2 ^ r * 2 ^ r
      = value (2 ^ i) (ds ++ [d / 2 ^ r * 2 ^ r]) := by
    rw [value_append_singleton, value_append_singleton, hpow]
    have hq : (2 ^ (i - r) * 2 ^ r * value (2 ^ (i - r) * 2 ^ r) ds + d) / 2 ^ r
        = 2 ^ (i - r) * value (2 ^ (i - r) * 2 ^ r) ds + d / 2 ^ r := by
      rw [show 2 ^ (i - r) * 2 ^ r * value (2 ^ (i - r) * 2 ^ r) ds
          = 2 ^ r * (2 ^ (i - r) * value (2 ^ (i - r) * 2 ^ r) ds) by ring,
        Nat.mul_add_div (Nat.two_pow_pos r)]
    rw [hq]; ring
  have hdigits : IsDigits (2 ^ i) (ds ++ [d / 2 ^ r * 2 ^ r]) :=
    isDigits_concat.mpr ⟨hds, hcut.trans_lt hd⟩
  have hun : value (2 ^ j) (unpack i j (ds ++ [d])) = value (2 ^ i) (ds ++ [d]) / 2 ^ r := by
    have := value_digits (one_lt_two_pow hj) (unpack_lt (j := j) hi h)
    rw [hlen, hmod] at this
    rw [unpack, hlen, hmod, this]
  have hbits : i * (ds.length + 1) - j * (i * (ds.length + 1) / j) = r := by omega
  rw [pack, length_unpack hi hj h, hlen]
  simp only [hpl, hbits, hun, hval]
  have := digits_value (one_lt_two_pow hi) hdigits
  simpa using this

/-- Two digit strings of one length unpack alike iff they differ at most in the left-over
    low bits of their last digits. -/
theorem unpack_eq_iff (hi : 0 < i) (hij : i ≤ j) {ds es : List ℕ} {d e : ℕ}
    (hd : IsDigits (2 ^ i) (ds ++ [d])) (he : IsDigits (2 ^ i) (es ++ [e]))
    (hlen : ds.length = es.length) (hr : leftover i j (ds.length + 1) < i) :
    unpack i j (ds ++ [d]) = unpack i j (es ++ [e]) ↔
      ds = es ∧ d / 2 ^ leftover i j (ds.length + 1) = e / 2 ^ leftover i j (ds.length + 1) := by
  have hj : 0 < j := by omega
  have hpd := pack_unpack hi hij hd hr
  have hpe := pack_unpack hi hij he (by rwa [← hlen])
  rw [← hlen] at hpe
  constructor
  · intro h
    rw [h, hpe] at hpd
    obtain ⟨h1, h2⟩ := List.append_inj' hpd rfl
    simp only [List.cons.injEq, and_true] at h2
    exact ⟨h1.symm, (Nat.eq_of_mul_eq_mul_right (Nat.two_pow_pos _) h2).symm⟩
  · rintro ⟨rfl, h⟩
    refine pack_inj hi hij (isDigits_unpack hj _) (isDigits_unpack hj _) ?_
    rw [hpd, hpe, h]

/-- The leading unpacked digits do not depend on the last packed one. -/
theorem take_unpack_eq (hi : 0 < i) (hij : i ≤ j) {ds : List ℕ} {d e k : ℕ}
    (hd : IsDigits (2 ^ i) (ds ++ [d])) (he : IsDigits (2 ^ i) (ds ++ [e]))
    (hk : j * k ≤ i * ds.length) :
    (unpack i j (ds ++ [d])).take k = (unpack i j (ds ++ [e])).take k := by
  have hj : 0 < j := by omega
  have hdm := Nat.div_add_mod (i * (ds.length + 1)) j
  have hkm : k ≤ i * (ds.length + 1) / j := by
    rw [Nat.le_div_iff_mul_le hj, Nat.mul_comm]
    calc j * k ≤ i * ds.length := hk
      _ ≤ i * (ds.length + 1) := Nat.mul_le_mul_left i (Nat.le_succ _)
  obtain ⟨l, hl⟩ := Nat.exists_eq_add_of_le hkm
  -- Both sides are the digits of the number cut at least one packed digit from its end.
  have key : ∀ v, IsDigits (2 ^ i) (ds ++ [v]) →
      (unpack i j (ds ++ [v])).take k
        = digits (2 ^ j) k
            (value (2 ^ i) ds / 2 ^ (i * (ds.length + 1) % j + j * l - i)) := by
    intro v hv
    have hlt := unpack_lt (j := j) hi hv
    have hvi : v < 2 ^ i := (isDigits_concat.mp hv).2
    rw [List.length_append, List.length_singleton, hl] at hlt
    have hcut : i ≤ i * (ds.length + 1) % j + j * l := by
      have hsucc : i * (ds.length + 1) = i * ds.length + i := Nat.mul_succ _ _
      rw [hl, Nat.mul_add] at hdm
      omega
    rw [unpack, List.length_append, List.length_singleton, hl,
      take_digits (one_lt_two_pow hj) hlt, ← pow_mul, Nat.div_div_eq_div_mul, ← pow_add,
      value_append_singleton]
    congr 1
    obtain ⟨t, ht⟩ := Nat.exists_eq_add_of_le hcut
    rw [ht, pow_add, ← Nat.div_div_eq_div_mul, Nat.mul_add_div (Nat.two_pow_pos i),
      Nat.div_eq_of_lt hvi, Nat.add_zero, Nat.add_sub_cancel_left]
  rw [key d hd, key e he]

end Algorandscout.Library.Radix
