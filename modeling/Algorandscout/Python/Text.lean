import Algorandscout.Library.Fallible
import Algorandscout.Python.Json
import Mathlib.Data.List.DropRight

namespace Algorandscout.Text

/-!
# Strings as Python reads them

The `str` methods the service uses.  `isdigit` and `int` use two different notions of a digit:
`isdigit` accepts every character with a digit value (superscripts and circled digits too),
`int` only the decimal digits, and at most 4300 of them.  The tables list the Unicode 15.0
character database, which is the one of the interpreter the service is deployed on.
-/

/-- `c.isspace()`, for one character. -/
def isSpace (c : Char) : Bool :=
  let n := c.toNat
  (9 ≤ n && n ≤ 13) || (28 ≤ n && n ≤ 32) || n == 0x85 || n == 0xa0 || n == 0x1680 ||
    (0x2000 ≤ n && n ≤ 0x200a) || n == 0x2028 || n == 0x2029 || n == 0x202f || n == 0x205f ||
    n == 0x3000

/-- `s.strip()` on the characters of `s`. -/
def stripChars (cs : List Char) : List Char :=
  ((cs.dropWhile isSpace).reverse.dropWhile isSpace).reverse

/-- `s.strip()`. -/
def strip (s : String) : String := String.ofList (stripChars s.toList)

/-- The zeros of the decimal digit runs; the nine characters after each are its 1 to 9. -/
def decimalZeros : List ℕ :=
  [0x30, 0x660, 0x6f0, 0x7c0, 0x966, 0x9e6, 0xa66, 0xae6, 0xb66, 0xbe6, 0xc66, 0xce6, 0xd66,
    0xde6, 0xe50, 0xed0, 0xf20, 0x1040, 0x1090, 0x17e0, 0x1810, 0x1946, 0x19d0, 0x1a80, 0x1a90,
    0x1b50, 0x1bb0, 0x1c40, 0x1c50, 0xa620, 0xa8d0, 0xa900, 0xa9d0, 0xa9f0, 0xaa50, 0xabf0,
    0xff10, 0x104a0, 0x10d30, 0x11066, 0x110f0, 0x11136, 0x111d0, 0x112f0, 0x11450, 0x114d0,
    0x11650, 0x116c0, 0x11730, 0x118e0, 0x11950, 0x11c50, 0x11d50, 0x11da0, 0x11f50, 0x16a60,
    0x16ac0, 0x16b50, 0x1d7ce, 0x1d7d8, 0x1d7e2, 0x1d7ec, 0x1d7f6, 0x1e140, 0x1e2f0, 0x1e4f0,
    0x1e950, 0x1fbf0]

/-- The characters with a digit value that are not decimal digits, as closed ranges. -/
def digitRanges : List (ℕ × ℕ) :=
  [(0xb2, 0xb3), (0xb9, 0xb9), (0x1369, 0x1371), (0x19da, 0x19da), (0x2070, 0x2070),
    (0x2074, 0x2079), (0x2080, 0x2089), (0x2460, 0x2468), (0x2474, 0x247c), (0x2488, 0x2490),
    (0x24ea, 0x24ea), (0x24f5, 0x24fd), (0x24ff, 0x24ff), (0x2776, 0x277e), (0x2780, 0x2788),
    (0x278a, 0x2792), (0x10a40, 0x10a43), (0x10e60, 0x10e68), (0x11052, 0x1105a),
    (0x1f100, 0x1f10a)]

/-- The value of a decimal digit, which is what `int` accepts. -/
def decimalValue? (c : Char) : Option ℕ :=
  (decimalZeros.find? (fun z => z ≤ c.toNat && c.toNat ≤ z + 9)).map (c.toNat - ·)

/-- `c.isdigit()`, for one character. -/
def isDigitChar (c : Char) : Bool :=
  (decimalValue? c).isSome || digitRanges.any (fun r => r.1 ≤ c.toNat && c.toNat ≤ r.2)

/-- `s.isdigit()`: not empty, and every character has a digit value. -/
def isdigit (s : String) : Bool := !s.toList.isEmpty && s.toList.all isDigitChar

/-- The digits of an integer literal, single underscores between them skipped. -/
def intDigits : List Char → Option (List ℕ)
  | [] => none
  | c :: rest =>
    match decimalValue? c, rest with
    | none, _ => none
    | some d, [] => some [d]
    -- A single underscore may stand between two digits.
    | some d, '_' :: rest' => (intDigits rest').map (d :: ·)
    | some d, e :: rest' => (intDigits (e :: rest')).map (d :: ·)

/-- CPython's default limit on the digits of a decimal string, one given to `int` or made by
    `str`. -/
def intMaxStrDigits : ℕ := 4300

/-- `int(s)`. -/
def int (s : String) : Except PyError Int :=
  let (negative, ds) : Bool × List Char :=
    match stripChars s.toList with
    | '-' :: rest => (true, rest)
    | '+' :: rest => (false, rest)
    | cs => (false, cs)
  match intDigits ds with
  | none => .error .valueError
  | some digits =>
    -- The limit is on digits; the sign, underscores and spaces do not count.
    if digits.length > intMaxStrDigits then .error .valueError
    else
      let n : ℕ := digits.foldl (fun acc d => 10 * acc + d) 0
      .ok (if negative then -(n : Int) else (n : Int))

/-- The limit allows `str` to write the integer. -/
def Writable (n : Int) : Prop := (Nat.toDigits 10 n.natAbs).length ≤ intMaxStrDigits

instance (n : Int) : Decidable (Writable n) := inferInstanceAs (Decidable (_ ≤ _))

mutual

/-- The limit allows `str` to write every integer in the value. -/
def writable : Json → Bool
  | .int n => decide (Writable n)
  | .arr items => writableItems items
  | .obj members => writableMembers members
  | _ => true

def writableItems : List Json → Bool
  | [] => true
  | x :: items => writable x && writableItems items

def writableMembers : List (String × Json) → Bool
  | [] => true
  | (_, x) :: members => writable x && writableMembers members

end

/-- `str(x)`, also of an `x` that is computed and in no payload. -/
def str (x : Json) : Except PyError String :=
  if writable x then .ok x.pyStr else .error .valueError

/-- `s.startswith(p)`. -/
def startsWith (s p : String) : Bool := p.toList.isPrefixOf s.toList

theorem startsWith_iff (s p : String) : startsWith s p = true ↔ p.toList <+: s.toList := by
  simp [startsWith]

/-- The superscript two is a digit for `isdigit` and not a number for `int`. -/
example : isdigit "12²" = true ∧ int "12²" = .error .valueError := by decide

example : int " +1_234 " = .ok 1234 := by decide

/-! ### Integers as text -/

theorem str_of_writable {n : Int} (h : Writable n) : str (.int n) = .ok (toString n) :=
  if_pos (decide_eq_true h)

theorem str_of_not_writable {n : Int} (h : ¬Writable n) : str (.int n) = .error .valueError :=
  if_neg (by simpa [writable] using h)

theorem str_int (n : Int) :
    str (.int n) = if Writable n then .ok (toString n) else .error .valueError := by
  split_ifs with h
  · exact str_of_writable h
  · exact str_of_not_writable h

/-! ### Stripped strings -/

theorem stripChars_eq (cs : List Char) :
    stripChars cs = (cs.dropWhile isSpace).rdropWhile isSpace := rfl

/-- A stripped text does not start with a space. -/
theorem dropWhile_stripChars (cs : List Char) :
    (stripChars cs).dropWhile isSpace = stripChars cs := by
  rw [stripChars_eq]
  have hfront : (cs.dropWhile isSpace).dropWhile isSpace = cs.dropWhile isSpace :=
    List.dropWhile_idempotent isSpace cs
  obtain ⟨rest, hrest⟩ := List.rdropWhile_prefix isSpace (l := cs.dropWhile isSpace)
  cases hstrip : (cs.dropWhile isSpace).rdropWhile isSpace with
  | nil => rfl
  | cons c body =>
    -- Its first character is the first one after the leading spaces.
    rw [hstrip, List.cons_append] at hrest
    rw [← hrest] at hfront
    cases hc : isSpace c with
    | false => rw [List.dropWhile_cons_of_neg (by simp [hc])]
    | true =>
      rw [List.dropWhile_cons_of_pos hc] at hfront
      have hle := (List.dropWhile_suffix isSpace (l := body ++ rest)).length_le
      rw [hfront, List.length_cons] at hle
      omega

@[simp] theorem stripChars_stripChars (cs : List Char) :
    stripChars (stripChars cs) = stripChars cs := by
  rw [stripChars_eq (stripChars cs), dropWhile_stripChars, stripChars_eq,
    List.rdropWhile_idempotent]

/-- A stripped text does not end with a space. -/
theorem not_isSpace_of_getLast? {cs : List Char} {c : Char}
    (h : (stripChars cs).getLast? = some c) : isSpace c = false := by
  obtain ⟨hne, rfl⟩ := List.mem_getLast?_eq_getLast h
  have hlast : ¬isSpace ((stripChars cs).getLast hne) = true :=
    List.rdropWhile_last_not isSpace (cs.dropWhile isSpace) hne
  simpa using hlast

@[simp] theorem toList_strip (s : String) : (strip s).toList = stripChars s.toList :=
  String.toList_ofList

@[simp] theorem strip_strip (s : String) : strip (strip s) = strip s := by
  unfold strip
  rw [String.toList_ofList, stripChars_stripChars]

/-! ### The two notions of a number -/

/-- Neither a sign nor an underscore has a digit value. -/
theorem ne_of_isDigitChar {c : Char} (h : isDigitChar c = true) : c ≠ '-' ∧ c ≠ '+' ∧ c ≠ '_' := by
  refine ⟨?_, ?_, ?_⟩
  all_goals
    rintro rfl
    exact absurd h (by decide)

/-- The digits of a literal without underscores, one for each character. -/
theorem intDigits_eq_some_iff {cs : List Char} (hne : cs ≠ [])
    (h : ∀ c ∈ cs, isDigitChar c = true) {ds : List ℕ} :
    intDigits cs = some ds ↔ List.Forall₂ (fun c d => decimalValue? c = some d) cs ds := by
  induction cs generalizing ds with
  | nil => exact absurd rfl hne
  | cons c rest ih =>
    rw [List.forall₂_cons_left_iff]
    cases rest with
    | nil =>
      cases hc : decimalValue? c with
      | none => simp [intDigits, hc]
      | some d => simp [intDigits, hc, eq_comm]
    | cons e rest =>
      have he : e ≠ '_' := (ne_of_isDigitChar (h e (by simp))).2.2
      have hrest : ∀ c ∈ e :: rest, isDigitChar c = true := by
        intro c hc
        exact h c (List.mem_cons_of_mem _ hc)
      cases hc : decimalValue? c with
      | none => simp [intDigits, hc]
      | some d =>
        have hstep : intDigits (c :: e :: rest) = (intDigits (e :: rest)).map (d :: ·) := by
          rw [intDigits.eq_def]
          simp [hc]
        rw [hstep, Option.map_eq_some_iff]
        constructor
        · rintro ⟨ds', hds', rfl⟩
          exact ⟨d, ds', rfl, (ih (List.cons_ne_nil e rest) hrest).mp hds', rfl⟩
        · rintro ⟨d', ds', hd', hds', rfl⟩
          obtain rfl := Option.some.inj hd'
          exact ⟨ds', (ih (List.cons_ne_nil e rest) hrest).mpr hds', rfl⟩

/-- **What `isdigit` accepts is read by `int`** when its characters are all decimal digits, and
    not too many. -/
theorem int_of_isdigit_iff {s : String} (hstrip : stripChars s.toList = s.toList)
    (h : isdigit s = true) :
    (∃ n, int s = .ok n) ↔
      (∀ c ∈ s.toList, (decimalValue? c).isSome) ∧ s.toList.length ≤ intMaxStrDigits := by
  obtain ⟨hne, hdigits⟩ : s.toList ≠ [] ∧ ∀ c ∈ s.toList, isDigitChar c = true := by
    simpa [isdigit] using h
  -- There is no sign, so all characters are read as digits.
  have hint : int s = match intDigits s.toList with
      | none => .error .valueError
      | some digits => if digits.length > intMaxStrDigits then .error .valueError
        else .ok (digits.foldl (fun acc d => 10 * acc + d) 0 : ℕ) := by
    unfold int
    rw [hstrip]
    cases hcs : s.toList with
    | nil => exact absurd hcs hne
    | cons c rest =>
      obtain ⟨hminus, hplus, -⟩ := ne_of_isDigitChar (hdigits c (by simp [hcs]))
      simp [hminus, hplus]
  have hread : (∀ c ∈ s.toList, (decimalValue? c).isSome) ↔ ∃ ds, intDigits s.toList = some ds := by
    simp only [intDigits_eq_some_iff hne hdigits, Library.exists_forall₂_iff,
      Option.isSome_iff_exists]
  rw [hread, hint]
  cases hds : intDigits s.toList with
  | none => simp
  | some ds =>
    have hlength := ((intDigits_eq_some_iff hne hdigits).mp hds).length_eq
    rw [hlength]
    dsimp only
    split_ifs with hmany
    · simp [hmany]
    · simpa using hmany

end Algorandscout.Text
