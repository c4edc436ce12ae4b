import Mathlib.Algebra.Order.Field.Rat
import Mathlib.Data.List.DropRight
import Mathlib.Tactic.Common
import Mathlib.Tactic.FieldSimp
import Mathlib.Tactic.Ring

namespace Algorandscout.Library

/-!
# Decimal numerals

A decimal numeral is a sign, the digits before the point and the digits after it.

* `Numeral.render`, `Numeral.parse` — writing and reading it;
* `Numeral.value` — the rational number it denotes;
* `Numeral.Canonical` — no digit that could be left out, and no sign before a zero;
* `parse_render` — what is written is read back;
* `ofDigitChars_strip` — the zeros at the end of the fraction part do not count.
-/

/-- A decimal numeral, the digits as characters. -/
structure Numeral where
  negative : Bool
  whole : List Char
  frac : List Char
  deriving DecidableEq, Repr

namespace Numeral

/-- The characters of the numeral: without a fraction part there is no point. -/
def toChars (n : Numeral) : List Char :=
  (if n.negative then ['-'] else []) ++ n.whole ++ if n.frac.isEmpty then [] else '.' :: n.frac

/-- The numeral as it is written. -/
def render (n : Numeral) : String := String.ofList n.toChars

/-- The number the numeral denotes. -/
def value (n : Numeral) : ℚ :=
  (if n.negative then -1 else 1) * Nat.ofDigitChars 10 (n.whole ++ n.frac) 0 / 10 ^ n.frac.length

/-- Every character is one of the ten digits. -/
def IsDigits (cs : List Char) : Prop := ∀ c ∈ cs, c.isDigit = true

/-- The digits are digits, at least one of them before the point. -/
structure WellFormed (n : Numeral) : Prop where
  whole_ne_nil : n.whole ≠ []
  whole_digits : IsDigits n.whole
  frac_digits : IsDigits n.frac

/-- No digit could be left out, the fraction part has at most `places` digits, and zero has no
    sign. -/
structure Canonical (places : ℕ) (n : Numeral) : Prop extends n.WellFormed where
  no_leading_zero : n.whole.head? = some '0' → n.whole = ['0']
  frac_length_le : n.frac.length ≤ places
  no_trailing_zero : n.frac.getLast? ≠ some '0'
  no_negative_zero : n.negative = true → n.value ≠ 0

/-! ### Reading -/

/-- The digits before and after the first point, if there are digits and nothing else. -/
def parseUnsigned (negative : Bool) (cs : List Char) : Option Numeral :=
  let whole := cs.takeWhile (· != '.')
  let frac := (cs.dropWhile (· != '.')).drop 1
  if whole ≠ [] && whole.all Char.isDigit && frac.all Char.isDigit then
    some ⟨negative, whole, frac⟩
  else none

/-- The numeral that a string writes. -/
def parse (s : String) : Option Numeral :=
  match s.toList with
  | '-' :: cs => parseUnsigned true cs
  | cs => parseUnsigned false cs

theorem ne_of_isDigit {c d : Char} (hc : c.isDigit = true) (hd : d.isDigit = false) : c ≠ d := by
  rintro rfl
  rw [hc] at hd
  cases hd

/-- The digits are cut at the point where they were joined. -/
theorem parseUnsigned_toChars {n : Numeral} (h : n.WellFormed) :
    parseUnsigned n.negative (n.whole ++ if n.frac.isEmpty then [] else '.' :: n.frac) =
      some n := by
  have hpoint : ∀ c ∈ n.whole, (c != '.') = true := by
    intro c hc
    have hne : c ≠ '.' := ne_of_isDigit (h.whole_digits c hc) (by decide)
    simpa using hne
  have htake : (n.whole ++ if n.frac.isEmpty then [] else '.' :: n.frac).takeWhile (· != '.') =
      n.whole := by
    rw [List.takeWhile_append_of_pos hpoint]
    split <;> simp
  have hdrop : ((n.whole ++ if n.frac.isEmpty then [] else '.' :: n.frac).dropWhile
      (· != '.')).drop 1 = n.frac := by
    rw [List.dropWhile_append_of_pos hpoint]
    split
    · next hempty => simpa using (List.isEmpty_iff.mp hempty).symm
    · simp
  have hwhole : n.whole.all Char.isDigit = true := List.all_eq_true.mpr h.whole_digits
  have hfrac : n.frac.all Char.isDigit = true := List.all_eq_true.mpr h.frac_digits
  unfold parseUnsigned
  simp only [htake, hdrop, hwhole, hfrac]
  simp [h.whole_ne_nil]

/-- **What is written is read back.** -/
theorem parse_render {n : Numeral} (h : n.WellFormed) : parse n.render = some n := by
  have hbody := parseUnsigned_toChars h
  unfold parse render toChars
  rw [String.toList_ofList]
  cases hneg : n.negative with
  | true =>
    rw [hneg] at hbody
    exact hbody
  | false =>
    rw [hneg] at hbody
    cases hwhole : n.whole with
    | nil => exact absurd hwhole h.whole_ne_nil
    | cons c cs =>
      -- The first character is a digit, not the sign.
      have hdigit : c.isDigit = true := h.whole_digits c (by rw [hwhole]; exact List.mem_cons_self)
      have hne : c ≠ '-' := ne_of_isDigit hdigit (by decide)
      rw [hwhole] at hbody
      show (match c :: (cs ++ _) with
        | '-' :: cs => parseUnsigned true cs
        | cs => parseUnsigned false cs) = _
      split
      · next heq => exact absurd (List.cons.inj heq).1 hne
      · exact hbody

/-! ### Digits of a number -/

/-- A positive number has no leading zero. -/
theorem head?_toDigits_ne_zero {n : ℕ} (h : 0 < n) :
    (Nat.toDigits 10 n).head? ≠ some '0' := by
  induction n using Nat.strongRecOn with
  | _ n ih =>
    by_cases hlt : n < 10
    · rw [Nat.toDigits_of_lt_base hlt]
      simp only [List.head?_cons, ne_eq, Option.some.injEq]
      intro heq
      have hval := Nat.toNat_digitChar_sub_48_of_lt_ten hlt
      rw [heq] at hval
      have hzero : '0'.toNat - 48 = 0 := by decide
      omega
    · -- The leading digit is that of the quotient.
      rw [Nat.toDigits_of_base_le (by omega) (by omega),
        List.head?_append_of_ne_nil _ Nat.toDigits_ne_nil]
      exact ih (n / 10) (by omega) (by omega)

theorem isDigits_toDigits (n : ℕ) : IsDigits (Nat.toDigits 10 n) :=
  fun _ hc => Nat.isDigit_of_mem_toDigits (by omega) (by omega) hc

/-- The zeros at the end of the fraction part do not count. -/
theorem ofDigitChars_strip (whole digits : List Char) :
    (Nat.ofDigitChars 10 (whole ++ digits) 0 : ℚ) / 10 ^ digits.length =
      Nat.ofDigitChars 10 (whole ++ digits.rdropWhile (· == '0')) 0 /
        10 ^ (digits.rdropWhile (· == '0')).length := by
  -- What is stripped is a run of zeros.
  obtain ⟨k, hk⟩ : ∃ k, digits.rtakeWhile (· == '0') = List.replicate k '0' := by
    refine ⟨(digits.rtakeWhile (· == '0')).length, List.eq_replicate_of_mem ?_⟩
    intro c hc
    simpa using List.mem_rtakeWhile_imp hc
  have hsplit : digits = digits.rdropWhile (· == '0') ++ List.replicate k '0' := by
    rw [← hk, List.rdropWhile_append_rtakeWhile]
  generalize digits.rdropWhile (· == '0') = kept at hsplit
  subst hsplit
  rw [← List.append_assoc, Nat.ofDigitChars_append, Nat.ofDigitChars_replicate_zero,
    List.length_append, List.length_replicate]
  push_cast
  rw [pow_add]
  field_simp

end Numeral

end Algorandscout.Library
