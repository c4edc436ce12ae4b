import Mathlib.Data.List.Basic
import Mathlib.Tactic.Common

namespace Algorandscout.Library.Base64

/-!
# Base64

Three bytes are written as four symbols of six bits each; what is left over is filled up with
zero bits, and the symbols with padding.

* `symbol`, `symbolValue` — the alphabet;
* `encode` — bytes, written;
* `decode` — a text, read leniently: a character outside the alphabet is passed over, and reading
  ends where padding completes a group;
* `decode_encode` — what is written is read back.
-/

def alphabet : List Char :=
  "ABCDEFGHIJKLMNOPQRSTUVWXYZabcdefghijklmnopqrstuvwxyz0123456789+/".toList

/-- The symbol of a value below 64. -/
def symbol (v : ℕ) : Char := alphabet.getD v 'A'

/-- The value of a symbol. -/
def symbolValue (c : Char) : Option ℕ := alphabet.idxOf? c

theorem symbolValue_symbol {v : ℕ} (h : v < 64) : symbolValue (symbol v) = some v := by
  have hall : ∀ w : Fin 64, symbolValue (symbol w) = some (w : ℕ) := by decide +kernel
  exact hall ⟨v, h⟩

theorem symbol_ne_pad {v : ℕ} (h : v < 64) : symbol v ≠ '=' := by
  have hall : ∀ w : Fin 64, symbol w ≠ '=' := by decide +kernel
  exact hall ⟨v, h⟩

theorem symbol_ascii {v : ℕ} (h : v < 64) : (symbol v).toNat < 128 := by
  have hall : ∀ w : Fin 64, (symbol w).toNat < 128 := by decide +kernel
  exact hall ⟨v, h⟩

/-- Bytes, written. -/
def encode : List UInt8 → List Char
  | [] => []
  | [a] => [symbol (a.toNat / 4), symbol (a.toNat % 4 * 16), '=', '=']
  | [a, b] =>
    [symbol (a.toNat / 4), symbol (a.toNat % 4 * 16 + b.toNat / 16), symbol (b.toNat % 16 * 4), '=']
  | a :: b :: c :: bytes =>
    symbol (a.toNat / 4) :: symbol (a.toNat % 4 * 16 + b.toNat / 16) ::
      symbol (b.toNat % 16 * 4 + c.toNat / 64) :: symbol (c.toNat % 64) :: encode bytes

/-- The rest of a text, after `pos` symbols of a group whose last `left` bits are not used up, and
    after `pads` padding characters since. -/
def decodeFrom (pos left pads : ℕ) : List Char → Option (List UInt8)
  | [] => if pos = 0 then some [] else none
  | c :: cs =>
    if c = '=' then
      if 2 ≤ pos then
        -- The group is complete, and nothing after it is read.
        if 4 ≤ pos + (pads + 1) then some [] else decodeFrom pos left (pads + 1) cs
      else decodeFrom pos left pads cs
    else
      match symbolValue c with
      | none => decodeFrom pos left pads cs
      | some v =>
        match pos with
        | 0 => decodeFrom 1 v 0 cs
        | 1 => (decodeFrom 2 (v % 16) 0 cs).map (UInt8.ofNat (left * 4 + v / 16) :: ·)
        | 2 => (decodeFrom 3 (v % 4) 0 cs).map (UInt8.ofNat (left * 16 + v / 4) :: ·)
        | _ => (decodeFrom 0 0 0 cs).map (UInt8.ofNat (left * 64 + v) :: ·)

/-- A text, read. -/
def decode (cs : List Char) : Option (List UInt8) := decodeFrom 0 0 0 cs

/-! ### The symbols of a group -/

section Group

variable {v : ℕ} (h : v < 64) (left pads : ℕ) (cs : List Char)
include h

theorem decodeFrom_first : decodeFrom 0 left pads (symbol v :: cs) = decodeFrom 1 v 0 cs := by
  rw [decodeFrom, if_neg (symbol_ne_pad h), symbolValue_symbol h]
  rfl

theorem decodeFrom_second : decodeFrom 1 left pads (symbol v :: cs) =
    (decodeFrom 2 (v % 16) 0 cs).map (UInt8.ofNat (left * 4 + v / 16) :: ·) := by
  rw [decodeFrom, if_neg (symbol_ne_pad h), symbolValue_symbol h]
  rfl

theorem decodeFrom_third : decodeFrom 2 left pads (symbol v :: cs) =
    (decodeFrom 3 (v % 4) 0 cs).map (UInt8.ofNat (left * 16 + v / 4) :: ·) := by
  rw [decodeFrom, if_neg (symbol_ne_pad h), symbolValue_symbol h]
  rfl

theorem decodeFrom_fourth : decodeFrom 3 left pads (symbol v :: cs) =
    (decodeFrom 0 0 0 cs).map (UInt8.ofNat (left * 64 + v) :: ·) := by
  rw [decodeFrom, if_neg (symbol_ne_pad h), symbolValue_symbol h]
  rfl

end Group

/-- **What is written is read back.** -/
theorem decode_encode (bytes : List UInt8) : decode (encode bytes) = some bytes := by
  unfold decode
  induction bytes using encode.induct with
  | case1 => rfl
  | case2 a =>
    have ha := a.toNat_lt
    have hbyte : a.toNat / 4 * 4 + a.toNat % 4 * 16 / 16 = a.toNat := by omega
    rw [encode, decodeFrom_first (by omega), decodeFrom_second (by omega), hbyte,
      UInt8.ofNat_toNat]
    rfl
  | case3 a b =>
    have ha := a.toNat_lt
    have hb := b.toNat_lt
    have hfirst : a.toNat / 4 * 4 + (a.toNat % 4 * 16 + b.toNat / 16) / 16 = a.toNat := by omega
    have hsecond : (a.toNat % 4 * 16 + b.toNat / 16) % 16 * 16 + b.toNat % 16 * 4 / 4 =
        b.toNat := by omega
    rw [encode, decodeFrom_first (by omega), decodeFrom_second (by omega),
      decodeFrom_third (by omega), hfirst, hsecond, UInt8.ofNat_toNat, UInt8.ofNat_toNat]
    rfl
  | case4 a b c bytes ih =>
    have ha := a.toNat_lt
    have hb := b.toNat_lt
    have hc := c.toNat_lt
    have hfirst : a.toNat / 4 * 4 + (a.toNat % 4 * 16 + b.toNat / 16) / 16 = a.toNat := by omega
    have hsecond : (a.toNat % 4 * 16 + b.toNat / 16) % 16 * 16 +
        (b.toNat % 16 * 4 + c.toNat / 64) / 4 = b.toNat := by omega
    have hthird : (b.toNat % 16 * 4 + c.toNat / 64) % 4 * 64 + c.toNat % 64 = c.toNat := by omega
    rw [encode, decodeFrom_first (by omega), decodeFrom_second (by omega),
      decodeFrom_third (by omega), decodeFrom_fourth (by omega), hfirst, hsecond, hthird,
      UInt8.ofNat_toNat, UInt8.ofNat_toNat, UInt8.ofNat_toNat, ih]
    rfl

/-- What is written is ASCII. -/
theorem encode_ascii (bytes : List UInt8) : ∀ c ∈ encode bytes, c.toNat < 128 := by
  have hpad : ('=' : Char).toNat < 128 := by decide
  induction bytes using encode.induct with
  | case1 => exact fun c hc => absurd hc List.not_mem_nil
  | case2 a =>
    have ha := a.toNat_lt
    simp only [encode, List.forall_mem_cons]
    exact ⟨symbol_ascii (by omega), symbol_ascii (by omega), hpad, hpad, by simp⟩
  | case3 a b =>
    have ha := a.toNat_lt
    have hb := b.toNat_lt
    simp only [encode, List.forall_mem_cons]
    exact ⟨symbol_ascii (by omega), symbol_ascii (by omega), symbol_ascii (by omega), hpad, by simp⟩
  | case4 a b c bytes ih =>
    have ha := a.toNat_lt
    have hb := b.toNat_lt
    have hc := c.toNat_lt
    simp only [encode, List.forall_mem_cons]
    exact ⟨symbol_ascii (by omega), symbol_ascii (by omega), symbol_ascii (by omega),
      symbol_ascii (by omega), ih⟩

example : decode "SGVsbG8=".toList = some [72, 101, 108, 108, 111] := by decide

example : decode "SGVs\nbG8=, and more".toList = some [72, 101, 108, 108, 111] := by decide

example : decode "SGVsbG8".toList = none := by decide

end Algorandscout.Library.Base64
