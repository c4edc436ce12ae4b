import Algorandscout.Python.Text
import Mathlib.Algebra.Order.Field.Rat

namespace Algorandscout

/-!
# Floats as Python reads and compares them

A `float` is a number, an infinity or NaN.  Numbers are exact: the rounding to 53 bits and the
sign of a zero are left out.

* `PyFloat.lt`, `PyFloat.min` — `<`, which is false on NaN, and `min`, which keeps its first
  argument unless the second is less;
* `Text.float` — `float(s)`;
* `NamesNan`, `float_eq_nan_iff` — the texts that `float` reads as NaN.
-/

/-- A Python float. -/
inductive PyFloat where
  | nan
  | negInf
  | fin (q : ℚ)
  | posInf
  deriving DecidableEq

namespace PyFloat

/-- `a < b`. -/
def lt : PyFloat → PyFloat → Bool
  | .fin a, .fin b => a < b
  | .negInf, .fin _ => true
  | .negInf, .posInf => true
  | .fin _, .posInf => true
  | _, _ => false

/-- `min(a, b)`. -/
def min (a b : PyFloat) : PyFloat := if lt b a then b else a

/-- `-x`. -/
def neg : PyFloat → PyFloat
  | .nan => .nan
  | .negInf => .posInf
  | .fin q => .fin (-q)
  | .posInf => .negInf

end PyFloat

namespace Text

/-! ### `float` -/

/-- The digits of a mantissa, and how many of them stand after the point. -/
def mantissa (cs : List Char) : Option (List ℕ × ℕ) :=
  let whole := cs.takeWhile (· != '.')
  match cs.dropWhile (· != '.') with
  | [] => (intDigits whole).map fun ds => (ds, 0)
  | _ :: [] => (intDigits whole).map fun ds => (ds, 0)
  | _ :: frac =>
    -- Digits may be missing on one side of the point, not on both.
    if whole.isEmpty then (intDigits frac).map fun ds => (ds, ds.length)
    else
      match intDigits whole, intDigits frac with
      | some ds, some es => some (ds ++ es, es.length)
      | _, _ => none

/-- The number that digits denote. -/
def ofDigits (digits : List ℕ) : ℕ := digits.foldl (fun acc d => 10 * acc + d) 0

/-- The value of an exponent, with its sign. -/
def exponent : List Char → Option Int
  | '-' :: cs => (intDigits cs).map fun ds => -(ofDigits ds : Int)
  | '+' :: cs => (intDigits cs).map fun ds => (ofDigits ds : Int)
  | cs => (intDigits cs).map fun ds => (ofDigits ds : Int)

/-- An unsigned decimal literal. -/
def decimalLiteral (cs : List Char) : Option ℚ := do
  let isE (c : Char) : Bool := c == 'e' || c == 'E'
  let (digits, places) ← mantissa (cs.takeWhile (!isE ·))
  let e ← match cs.dropWhile (!isE ·) with
    | [] => some 0
    | _ :: cs => exponent cs
  return (ofDigits digits : ℚ) * 10 ^ (e - places)

/-- An unsigned literal: `inf`, `infinity` and `nan` in any case, or a decimal one. -/
def floatLiteral (cs : List Char) : Option PyFloat :=
  let lower := cs.map Char.toLower
  if lower = "inf".toList ∨ lower = "infinity".toList then some .posInf
  else if lower = "nan".toList then some .nan
  else (decimalLiteral cs).map .fin

/-- `float(s)`. -/
def float (s : String) : Except PyError PyFloat :=
  let value : Option PyFloat :=
    match stripChars s.toList with
    | '-' :: cs => (floatLiteral cs).map PyFloat.neg
    | '+' :: cs => floatLiteral cs
    | cs => floatLiteral cs
  match value with
  | some x => .ok x
  | none => .error .valueError

/-- A text without its sign. -/
def unsigned : List Char → List Char
  | '-' :: cs => cs
  | '+' :: cs => cs
  | cs => cs

/-- The text is `nan`, in any case, with or without a sign. -/
def NamesNan (s : String) : Prop :=
  (unsigned (stripChars s.toList)).map Char.toLower = "nan".toList

theorem floatLiteral_eq_nan_iff (cs : List Char) :
    floatLiteral cs = some .nan ↔ cs.map Char.toLower = "nan".toList := by
  unfold floatLiteral
  dsimp only
  split_ifs with hinf hnan
  · refine iff_of_false (by simp) ?_
    intro hnan
    rw [hnan] at hinf
    exact absurd hinf (by decide)
  · exact iff_of_true rfl hnan
  · refine iff_of_false ?_ hnan
    simp

/-- **The texts that `float` reads as NaN.** -/
theorem float_eq_nan_iff (s : String) : float s = .ok .nan ↔ NamesNan s := by
  have hneg : ∀ x : PyFloat, x.neg = .nan ↔ x = .nan := by
    intro x
    cases x <;> simp [PyFloat.neg]
  unfold NamesNan
  rw [← floatLiteral_eq_nan_iff]
  unfold float unsigned
  split
  · -- A minus sign changes no NaN.
    cases hlit : floatLiteral _ with
    | none => simp
    | some x => simp [hneg]
  · cases hlit : floatLiteral _ with
    | none => simp
    | some x => simp
  · cases hlit : floatLiteral (stripChars s.toList) with
    | none => simp
    | some x => simp

example : float " 2.5e1 " = .ok (.fin 25) := by decide +kernel

example : float "-.5" = .ok (.fin (-1 / 2)) := by decide +kernel

example : float "Wed, 21 Oct 2026 07:28:00 GMT" = .error .valueError := by decide +kernel

end Text

end Algorandscout
