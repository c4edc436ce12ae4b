import Algorandscout.Library.Numeral
import Algorandscout.Mapping

namespace Algorandscout

open Library

/-!
# What `decimal_string` denotes

`decimal_string` pads the digits of an amount, slices them before the last `decimals` and strips
the zeros at the end.  `decimalNumeral` is the numeral this writes:

* `renderDecimal_eq_render` — the string is the numeral, written;
* `value_decimalNumeral`, `canonical_decimalNumeral` — its value and its canonicity;
* `decimalString_int` — the function, which gives the numeral when `str` writes the amount;
* `decimalString_exact` — when it is exact and canonical.
-/

/-! ### Padding and slicing -/

theorem padDigits_eq (n width : ℕ) :
    padDigits n width =
      List.replicate (width - (Nat.toDigits 10 n).length) '0' ++ Nat.toDigits 10 n := by
  show List.replicate (width - (Nat.repr n).toList.length) '0' ++ (Nat.repr n).toList = _
  rw [Nat.toList_repr]

theorem length_padDigits (n width : ℕ) :
    (padDigits n width).length = max width (Nat.toDigits 10 n).length := by
  rw [padDigits_eq, List.length_append, List.length_replicate]
  omega

theorem isDigits_padDigits (n width : ℕ) : Numeral.IsDigits (padDigits n width) := by
  rw [padDigits_eq]
  intro c hc
  rcases List.mem_append.mp hc with hc | hc
  · rw [List.eq_of_mem_replicate hc]
    decide
  · exact Numeral.isDigits_toDigits n c hc

/-- The zeros in front do not count. -/
theorem ofDigitChars_padDigits (n width : ℕ) :
    Nat.ofDigitChars 10 (padDigits n width) 0 = n := by
  rw [padDigits_eq, Nat.ofDigitChars_append, Nat.ofDigitChars_replicate_zero, Nat.mul_zero,
    Nat.ofDigitChars_ten_toDigits]

/-- The numeral that `decimal_string` writes. -/
def decimalNumeral (amount : Int) (decimals : ℕ) : Numeral :=
  let digits := padDigits amount.natAbs (decimals + 1)
  { negative := amount < 0
    whole := digits.take (digits.length - decimals)
    frac := (digits.drop (digits.length - decimals)).rdropWhile (· == '0') }

theorem renderDecimal_eq_render (amount : Int) (decimals : ℕ) :
    renderDecimal amount decimals = (decimalNumeral amount decimals).render := by
  unfold renderDecimal Numeral.render Numeral.toChars decimalNumeral
  simp only [decide_eq_true_eq]
  rfl

/-! ### The number denoted -/

theorem length_drop_padDigits (n decimals : ℕ) :
    ((padDigits n (decimals + 1)).drop ((padDigits n (decimals + 1)).length - decimals)).length =
      decimals := by
  have hlen := length_padDigits n (decimals + 1)
  rw [List.length_drop]
  omega

/-- **The numeral denotes the amount, scaled.** -/
theorem value_decimalNumeral (amount : Int) (decimals : ℕ) :
    (decimalNumeral amount decimals).value = amount / 10 ^ decimals := by
  have hstrip := Numeral.ofDigitChars_strip
    ((padDigits amount.natAbs (decimals + 1)).take
      ((padDigits amount.natAbs (decimals + 1)).length - decimals))
    ((padDigits amount.natAbs (decimals + 1)).drop
      ((padDigits amount.natAbs (decimals + 1)).length - decimals))
  rw [List.take_append_drop, ofDigitChars_padDigits, length_drop_padDigits] at hstrip
  have hsign : (if amount < 0 then -1 else 1 : ℚ) * (amount.natAbs : ℚ) = amount := by
    have habs : (amount.natAbs : ℚ) = ((amount.natAbs : ℤ) : ℚ) := (Int.cast_natCast _).symm
    rw [habs, Int.natCast_natAbs]
    split_ifs with hneg
    · rw [abs_of_neg hneg]
      push_cast
      ring
    · rw [abs_of_nonneg (by omega), one_mul]
  unfold Numeral.value decimalNumeral
  simp only [decide_eq_true_eq]
  rw [mul_div_assoc, ← hstrip, ← mul_div_assoc, hsign]

/-! ### Canonicity -/

/-- The part before the point is a single digit, or the leading digits of the amount. -/
theorem no_leading_zero_decimalNumeral (amount : Int) (decimals : ℕ)
    (h : (decimalNumeral amount decimals).whole.head? = some '0') :
    (decimalNumeral amount decimals).whole = ['0'] := by
  have hlen := length_padDigits amount.natAbs (decimals + 1)
  unfold decimalNumeral at h ⊢
  simp only at h ⊢
  by_cases hshort : (Nat.toDigits 10 amount.natAbs).length ≤ decimals + 1
  · -- All but the last `decimals` characters are one character.
    have hone : (padDigits amount.natAbs (decimals + 1)).length - decimals = 1 := by omega
    rw [hone] at h ⊢
    cases hdigits : padDigits amount.natAbs (decimals + 1) with
    | nil =>
      rw [hdigits] at h
      cases h
    | cons c cs =>
      rw [hdigits] at h
      have hc : c = '0' := Option.some.inj h
      rw [hc]
      rfl
  · -- Nothing is padded, so the first digit is the amount's, which is not zero.
    have hpos : 0 < amount.natAbs := by
      by_contra hzero
      have hz : amount.natAbs = 0 := by omega
      rw [hz, Nat.toDigits_zero, List.length_singleton] at hshort
      omega
    have hpad : padDigits amount.natAbs (decimals + 1) = Nat.toDigits 10 amount.natAbs := by
      have hnone : decimals + 1 - (Nat.toDigits 10 amount.natAbs).length = 0 := by omega
      rw [padDigits_eq, hnone, List.replicate_zero, List.nil_append]
    have htake : (padDigits amount.natAbs (decimals + 1)).length - decimals ≠ 0 := by omega
    rw [List.head?_take, if_neg htake, hpad] at h
    exact absurd h (Numeral.head?_toDigits_ne_zero hpos)

/-- **The numeral is canonical.** -/
theorem canonical_decimalNumeral (amount : Int) (decimals : ℕ) :
    (decimalNumeral amount decimals).Canonical decimals := by
  have hdigits := isDigits_padDigits amount.natAbs (decimals + 1)
  have hlen := length_padDigits amount.natAbs (decimals + 1)
  -- What is left of the fraction part is the beginning of it.
  have hbegins := List.rdropWhile_prefix (· == '0')
    ((padDigits amount.natAbs (decimals + 1)).drop
      ((padDigits amount.natAbs (decimals + 1)).length - decimals))
  refine ⟨⟨?_, ?_, ?_⟩, ?_, ?_, ?_, ?_⟩
  · apply List.ne_nil_of_length_pos
    show 0 < (List.take _ _).length
    rw [List.length_take]
    omega
  · intro c hc
    exact hdigits c (List.mem_of_mem_take hc)
  · intro c hc
    exact hdigits c (List.mem_of_mem_drop (hbegins.mem hc))
  · exact no_leading_zero_decimalNumeral amount decimals
  · have hle := hbegins.length_le
    rwa [length_drop_padDigits] at hle
  · intro hlast
    obtain ⟨kept, hkept⟩ := List.getLast?_eq_some_iff.mp hlast
    -- Stripping once more changes nothing, so the last digit kept is no zero.
    have hagain : (decimalNumeral amount decimals).frac.rdropWhile (· == '0') =
        (decimalNumeral amount decimals).frac := List.rdropWhile_idempotent _ _
    have hshort := (List.rdropWhile_prefix (· == '0') kept).length_le
    rw [hkept, List.rdropWhile_concat_pos _ _ _ (by decide)] at hagain
    have hlong := congrArg List.length hagain
    rw [List.length_append, List.length_singleton] at hlong
    omega
  · intro hneg
    have hlt : amount < 0 := of_decide_eq_true hneg
    rw [value_decimalNumeral]
    have hcast : (amount : ℚ) ≠ 0 := Int.cast_ne_zero.mpr hlt.ne
    exact div_ne_zero hcast (pow_ne_zero _ (by norm_num))

/-! ### The function -/

/-- Without decimals `decimal_string` is `str`, which writes the same numeral. -/
theorem renderDecimal_zero (amount : Int) : renderDecimal amount 0 = toString amount := by
  have hpad : padDigits amount.natAbs 1 = Nat.toDigits 10 amount.natAbs := by
    have hpos : 0 < (Nat.toDigits 10 amount.natAbs).length := Nat.length_toDigits_pos
    have hnone : 1 - (Nat.toDigits 10 amount.natAbs).length = 0 := by omega
    rw [padDigits_eq, hnone, List.replicate_zero, List.nil_append]
  have hall : renderDecimal amount 0 =
      String.ofList ((if amount < 0 then ['-'] else []) ++ Nat.toDigits 10 amount.natAbs) := by
    unfold renderDecimal
    simp [hpad]
  rw [hall, ← String.toList_inj, String.toList_ofList]
  cases amount with
  | ofNat n =>
    show _ = (Nat.repr n).toList
    rw [Nat.toList_repr]
    rfl
  | negSucc n =>
    show _ = ("-" ++ Nat.repr (n + 1)).toList
    have hsign : "-".toList = ['-'] := by decide
    rw [String.toList_append, Nat.toList_repr, hsign, if_pos (Int.negSucc_lt_zero n)]
    rfl

/-- What `str` writes has a decimal form, for any number of decimals. -/
theorem decimalString_of_writable {amount : Int} (h : Text.Writable amount) (decimals : Int) :
    decimalString (.int amount) (.int decimals) =
      .ok (some (renderDecimal amount decimals.toNat)) := by
  unfold decimalString
  simp only [Json.isNull_int, Bool.false_eq_true, ↓reduceIte, Json.asInt_int, ok_bind,
    Text.str_of_writable h, not_true_eq_false, h]
  split_ifs with hpos
  · rw [Int.toNat_of_nonpos hpos, renderDecimal_zero]
    rfl
  · rfl

/-- What `str` refuses is refused. -/
theorem decimalString_of_not_writable {amount : Int} (h : ¬Text.Writable amount)
    (decimals : Int) : decimalString (.int amount) (.int decimals) = .error .valueError := by
  unfold decimalString
  simp only [Json.isNull_int, Bool.false_eq_true, ↓reduceIte, Json.asInt_int, ok_bind,
    Text.str_of_not_writable h, not_false_eq_true, h]
  split_ifs
  · rfl
  · rfl

/-- **`decimal_string` on integers.** -/
theorem decimalString_int (amount decimals : Int) :
    decimalString (.int amount) (.int decimals) =
      if Text.Writable amount then .ok (some (renderDecimal amount decimals.toNat))
      else .error .valueError := by
  split_ifs with h
  · exact decimalString_of_writable h decimals
  · exact decimalString_of_not_writable h decimals

/-- `decimal_string` gives a string that reads as a canonical numeral of the value
    `amount / 10 ^ decimals`, from which the amount is recovered; and it gives that string of no
    other amount. -/
def WrittenExactly (amount : Int) (decimals : ℕ) : Prop :=
  ∃ s n, decimalString (.int amount) (.int decimals) = .ok (some s) ∧
    Numeral.parse s = some n ∧ n.render = s ∧ n.value = amount / 10 ^ decimals ∧
    n.Canonical decimals ∧ n.value * 10 ^ decimals = amount ∧
    ∀ other : Int, decimalString (.int other) (.int decimals) = .ok (some s) → other = amount

/-- The amount is recovered from its numeral. -/
theorem value_mul_decimalNumeral (amount : Int) (decimals : ℕ) :
    (decimalNumeral amount decimals).value * 10 ^ decimals = amount := by
  rw [value_decimalNumeral]
  exact div_mul_cancel₀ _ (pow_ne_zero _ (by norm_num))

theorem parse_renderDecimal (amount : Int) (decimals : ℕ) :
    Numeral.parse (renderDecimal amount decimals) = some (decimalNumeral amount decimals) := by
  rw [renderDecimal_eq_render]
  exact Numeral.parse_render (canonical_decimalNumeral amount decimals).toWellFormed

/-- Two amounts are not written the same. -/
theorem renderDecimal_inj {amount other : Int} {decimals : ℕ}
    (h : renderDecimal other decimals = renderDecimal amount decimals) : other = amount := by
  -- The same string is read as the same numeral.
  have hparse := congrArg Numeral.parse h
  rw [parse_renderDecimal, parse_renderDecimal] at hparse
  have hvalue := congrArg Numeral.value (Option.some.inj hparse)
  have hcast : (other : ℚ) = amount := by
    rw [← value_mul_decimalNumeral other decimals, hvalue, value_mul_decimalNumeral]
  exact_mod_cast hcast

theorem writtenExactly_of_writable {amount : Int} (h : Text.Writable amount) (decimals : ℕ) :
    WrittenExactly amount decimals := by
  refine ⟨renderDecimal amount decimals, decimalNumeral amount decimals,
    decimalString_of_writable h decimals, parse_renderDecimal amount decimals,
    (renderDecimal_eq_render amount decimals).symm, value_decimalNumeral amount decimals,
    canonical_decimalNumeral amount decimals, value_mul_decimalNumeral amount decimals, ?_⟩
  intro other hother
  rw [decimalString_int] at hother
  split_ifs at hother
  exact renderDecimal_inj (Option.some.inj (Except.ok.inj hother))

/-- **`decimal_string` is exact and canonical** on the amounts that `str` writes, which are those
    of at most 4300 digits; it refuses every other. -/
theorem decimalString_exact (amount : Int) (decimals : ℕ) :
    (WrittenExactly amount decimals ↔ Text.Writable amount) ∧
      (decimalString (.int amount) (.int decimals) = .error .valueError ↔
        ¬Text.Writable amount) := by
  by_cases h : Text.Writable amount
  · have hwritten := writtenExactly_of_writable h decimals
    refine ⟨iff_of_true hwritten h, iff_of_false ?_ (not_not_intro h)⟩
    rw [decimalString_of_writable h]
    exact fun herror => nomatch herror
  · have hrefused := decimalString_of_not_writable h decimals
    refine ⟨iff_of_false ?_ h, iff_of_true hrefused h⟩
    rintro ⟨s, n, hs, -⟩
    cases hrefused.symm.trans hs

/-- A one and `k` zeros are more than `k` digits. -/
theorem length_toDigits_pow_gt {k : ℕ} (hk : 0 < k) :
    ¬(Nat.toDigits 10 ((10 : ℤ) ^ k).natAbs).length ≤ k := by
  rw [Nat.length_toDigits_le_iff (by decide) hk, Int.natAbs_pow]
  exact lt_irrefl _

/-- The first amount that is too long: a one and 4300 zeros. -/
theorem decimalString_refuses_long :
    decimalString (.int (10 ^ 4300)) (.int 6) = .error .valueError ∧
      ¬WrittenExactly (10 ^ 4300) 6 := by
  have hlong : ¬Text.Writable (10 ^ 4300) := length_toDigits_pow_gt (by decide)
  refine ⟨decimalString_of_not_writable hlong 6, ?_⟩
  rintro ⟨s, n, hs, -⟩
  cases (decimalString_of_not_writable hlong 6).symm.trans hs

end Algorandscout
