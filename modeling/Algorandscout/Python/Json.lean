import Mathlib.Data.List.Infix
import Mathlib.Tactic.Common

namespace Algorandscout

/-!
# JSON values as Python reads them

A payload is what `json.loads` returns: `None`, `bool`, `int`, `str`, `list` and `dict`.  The
indexer and algod send no fractional numbers, so there is no float; and `json.loads` reads no
integer that is too long for `str`, so that only a computed one can be.  The operations are the
ones the service applies to a payload:

* `Dict.get` — `d.get(key, default)`, which tells an absent member from a `null` one;
* `truthy` / `Json.or` — `if x` and `x or y`;
* `pyStr` — `str(x)`, of what is in a payload;
* `asDict`, `asInt`, `asList`, `pyIn` — the places where a value of the wrong type raises.
-/

/-- What Python raises when a payload has not the shape the code expects. -/
inductive PyError where
  | attributeError
  | typeError
  | valueError
  | overflowError
  deriving DecidableEq, Repr

/-- A decoded JSON value. -/
inductive Json where
  | null
  | bool (b : Bool)
  | int (n : Int)
  | str (s : String)
  | arr (items : List Json)
  | obj (members : List (String × Json))
  deriving Inhabited

/-- A `dict` with string keys, in insertion order. -/
abbrev Dict := List (String × Json)

namespace Dict

/-- `d.get(key, default)`. -/
def get (d : Dict) (key : String) (default : Json := .null) : Json :=
  (d.lookup key).getD default

/-- The dict with member `key` deleted. -/
def erase (d : Dict) (key : String) : Dict :=
  d.filter (fun m => m.1 != key)

/-- The dict with member `key` set to `v`. -/
def insert (d : Dict) (key : String) (v : Json) : Dict :=
  (key, v) :: d.erase key

@[simp] theorem get_nil (key : String) (default : Json) : get [] key default = default := rfl

theorem get_cons (k : String) (v : Json) (d : Dict) (key : String) (default : Json) :
    get ((k, v) :: d) key default = if key = k then v else get d key default := by
  by_cases h : key = k
  · simp [get, h]
  · have hb : (key == k) = false := by simpa using h
    simp [get, List.lookup_cons, hb, h]

/-- A member that is there is read, whatever the default. -/
theorem get_of_lookup {d : Dict} {key : String} {v : Json} (h : d.lookup key = some v)
    (default : Json) : d.get key default = v := by
  unfold get
  rw [h, Option.getD_some]

theorem get_of_lookup_none {d : Dict} {key : String} (h : d.lookup key = none)
    (default : Json) : d.get key default = default := by
  unfold get
  rw [h, Option.getD_none]

/-- What is said of a member that may be absent, when it is there. -/
theorem forall_of_lookup {P : Json → Prop} {d : Dict} {key : String} {v : Json}
    (h : d.lookup key = some v) (hv : P v) : ∀ x, d.lookup key = some x → P x := by
  intro x hx
  obtain rfl := Option.some.inj (h.symm.trans hx)
  exact hv

theorem forall_of_lookup_none {P : Json → Prop} {d : Dict} {key : String}
    (h : d.lookup key = none) : ∀ x, d.lookup key = some x → P x := by
  intro x hx
  rw [h] at hx
  cases hx

theorem lookup_erase (d : Dict) (k key : String) :
    (d.erase k).lookup key = if key = k then none else d.lookup key := by
  induction d with
  | nil => simp [erase]
  | cons m d ih =>
    obtain ⟨a, v⟩ := m
    simp only [erase, List.filter_cons] at ih ⊢
    by_cases hk : a = k
    · subst hk
      simp only [bne_self_eq_false, Bool.false_eq_true, ↓reduceIte, ih, List.lookup_cons]
      by_cases h : key = a
      · simp [h]
      · have hb : (key == a) = false := by simpa using h
        simp [h, hb]
    · have hne : (a != k) = true := by simpa using hk
      simp only [hne, ↓reduceIte, List.lookup_cons, ih]
      by_cases h : key = a
      · subst h; simp [hk]
      · have hb : (key == a) = false := by simpa using h
        simp [hb]

theorem lookup_insert (d : Dict) (k : String) (v : Json) (key : String) :
    (d.insert k v).lookup key = if key = k then some v else d.lookup key := by
  rw [insert, List.lookup_cons, lookup_erase]
  by_cases h : key = k
  · simp [h]
  · have hb : (key == k) = false := by simpa using h
    simp [h, hb]

/-- Reading a deleted member gives the default; the other members are untouched. -/
@[simp] theorem get_erase (d : Dict) (k key : String) (default : Json) :
    (d.erase k).get key default = if key = k then default else d.get key default := by
  simp only [get, lookup_erase]
  split <;> simp

/-- Reading back a member that was set; the other members are untouched. -/
@[simp] theorem get_insert (d : Dict) (k : String) (v : Json) (key : String) (default : Json) :
    (d.insert k v).get key default = if key = k then v else d.get key default := by
  rw [insert, get_cons]
  by_cases h : key = k <;> simp [h]

end Dict

namespace Json

/-- `bool(x)`: `None`, `False`, `0` and everything empty are false. -/
def truthy : Json → Bool
  | .null => false
  | .bool b => b
  | .int n => n != 0
  | .str s => s != ""
  | .arr items => !items.isEmpty
  | .obj members => !members.isEmpty

/-- `x or y`. -/
def or (x y : Json) : Json := if x.truthy then x else y

/-- `x is None`. -/
def isNull : Json → Bool
  | .null => true
  | _ => false

/-- `x == n` for an integer literal `n` (`True == 1` in Python). -/
def eqInt (x : Json) (n : Int) : Bool :=
  match x with
  | .int m => m == n
  | .bool b => (if b then 1 else 0) == n
  | _ => false

/-- `x == s` for a string literal `s`. -/
def eqStr (x : Json) (s : String) : Bool :=
  match x with
  | .str t => t == s
  | _ => false

/-- The dict behind `x.get(..)`; anything else has no such attribute. -/
def asDict : Json → Except PyError Dict
  | .obj members => .ok members
  | _ => .error .attributeError

/-- The number behind an arithmetic operator or a comparison (a `bool` is an `int`). -/
def asInt : Json → Except PyError Int
  | .int n => .ok n
  | .bool b => .ok (if b then 1 else 0)
  | _ => .error .typeError

/-- The items of a list whose elements are read with `.get`.  Iterating a non-empty dict or
    string gives strings, which have no `.get`; a number is not iterable. -/
def asList : Json → Except PyError (List Json)
  | .arr items => .ok items
  | .obj [] => .ok []
  | .obj _ => .error .attributeError
  | .str s => if s = "" then .ok [] else .error .attributeError
  | _ => .error .typeError

/-- What `for a in x` goes through: the items of a list, the keys of a dict, the characters of a
    string. -/
def iter : Json → Except PyError (List Json)
  | .arr items => .ok items
  | .obj members => .ok (members.map fun m => .str m.1)
  | .str s => .ok (s.toList.map fun c => .str c.toString)
  | _ => .error .typeError

/-- `key in x` for a string `key`. -/
def pyIn (key : String) : Json → Except PyError Bool
  | .obj members => .ok ((members.lookup key).isSome)
  | .arr items => .ok (items.any (·.eqStr key))
  | .str s => .ok (decide (key.toList <:+: s.toList))
  | _ => .error .typeError

/-- `repr` of a string: single quotes unless only they occur in it, with the usual escapes.
    The non-printable characters above ASCII, which `repr` escapes too, are kept. -/
def strRepr (s : String) : String :=
  let cs := s.toList
  -- Single quotes, unless the string holds single quotes and no double ones.
  let quote : Char :=
    Char.ofNat (if cs.any (·.toNat == 39) && !cs.any (·.toNat == 34) then 34 else 39)
  let escape (c : Char) : List Char :=
    if c = '\\' || c = quote then ['\\', c]
    else if c = '\n' then ['\\', 'n']
    else if c = '\r' then ['\\', 'r']
    else if c = '\t' then ['\\', 't']
    else if c.toNat < 32 || c.toNat == 127 then
      ['\\', 'x', Nat.digitChar (c.toNat / 16), Nat.digitChar (c.toNat % 16)]
    else [c]
  String.ofList (quote :: cs.flatMap escape ++ [quote])

mutual

/-- `repr(x)`, which `str` applies to what a container holds. -/
def pyRepr : Json → String
  | .null => "None"
  | .bool b => if b then "True" else "False"
  | .int n => toString n
  | .str s => strRepr s
  | .arr items => "[" ++ reprItems items ++ "]"
  | .obj members => "\x7b" ++ reprMembers members ++ "\x7d"

/-- The items of a list, separated by `", "`. -/
def reprItems : List Json → String
  | [] => ""
  | [x] => pyRepr x
  | x :: y :: xs => pyRepr x ++ ", " ++ reprItems (y :: xs)

/-- The members of a dict, separated by `", "`. -/
def reprMembers : List (String × Json) → String
  | [] => ""
  | [(k, x)] => strRepr k ++ ": " ++ pyRepr x
  | (k, x) :: m :: ms => strRepr k ++ ": " ++ pyRepr x ++ ", " ++ reprMembers (m :: ms)

end

/-- `str(x)` of an `x` in a payload, where no integer is too long for it. -/
def pyStr : Json → String
  | .str s => s
  | x => pyRepr x

@[simp] theorem pyStr_int (n : Int) : pyStr (.int n) = toString n := rfl

@[simp] theorem isNull_null : isNull .null = true := rfl
@[simp] theorem isNull_int (n : Int) : isNull (.int n) = false := rfl

@[simp] theorem asDict_obj (members : Dict) : asDict (.obj members) = .ok members := rfl
@[simp] theorem asInt_int (n : Int) : asInt (.int n) = .ok n := rfl

@[simp] theorem truthy_null : truthy .null = false := rfl
@[simp] theorem truthy_int (n : Int) : truthy (.int n) = (n != 0) := rfl
@[simp] theorem truthy_str (s : String) : truthy (.str s) = (s != "") := rfl
@[simp] theorem truthy_arr (items : List Json) : truthy (.arr items) = !items.isEmpty := rfl
@[simp] theorem truthy_obj (members : Dict) : truthy (.obj members) = !members.isEmpty := rfl

theorem truthy_of_isNull {x : Json} (h : x.isNull = true) : x.truthy = false := by
  cases x with
  | null => rfl
  | _ => cases h

theorem isNull_of_truthy {x : Json} (h : x.truthy = true) : x.isNull = false := by
  cases x with
  | null => cases h
  | _ => rfl

@[simp] theorem or_of_truthy {x : Json} (y : Json) (h : x.truthy = true) : x.or y = x := by
  simp [or, h]

@[simp] theorem or_of_not_truthy {x : Json} (y : Json) (h : x.truthy = false) : x.or y = y := by
  simp [or, h]

@[simp] theorem null_or (y : Json) : Json.null.or y = y := rfl

/-- `d.get(key, y) or y` reads an absent member and a null one alike. -/
theorem get_or_default (d : Dict) (key : String) (y : Json) :
    (d.get key y).or y = (d.get key).or y := by
  cases hlookup : d.lookup key with
  | none =>
    rw [Dict.get_of_lookup_none hlookup, Dict.get_of_lookup_none hlookup, null_or]
    exact ite_self y
  | some x => rw [Dict.get_of_lookup hlookup, Dict.get_of_lookup hlookup]

theorem asDict_eq_ok_iff {x : Json} {d : Dict} : x.asDict = .ok d ↔ x = .obj d := by
  cases x with
  | obj members =>
    show Except.ok members = Except.ok d ↔ _
    rw [Except.ok.injEq, Json.obj.injEq]
  | _ => simp [asDict]

theorem eqStr_iff {x : Json} {s : String} : x.eqStr s = true ↔ x = .str s := by
  cases x <;> simp [eqStr]

/-- `(x or 0)` of an absent-or-integer member is that integer. -/
@[simp] theorem or_int_zero (n : Int) : (Json.int n).or (.int 0) = .int n := by
  by_cases h : n = 0 <;> simp [or, h]

/-- `for a in (x or [])` goes through nothing only when `x` is false. -/
theorem truthy_of_iter_or_eq_nil {x : Json} (h : (x.or (.arr [])).iter = .ok []) :
    x.truthy = false := by
  by_cases hx : x.truthy = true
  · rw [or_of_truthy _ hx] at h
    cases x with
    | arr items =>
      obtain rfl := Except.ok.inj h
      exact absurd hx (by simp)
    | obj members =>
      have hnil := List.map_eq_nil_iff.mp (Except.ok.inj h)
      rw [hnil] at hx
      exact absurd hx (by simp)
    | str s =>
      have hnil := List.map_eq_nil_iff.mp (Except.ok.inj h)
      have hempty : s = "" := String.toList_eq_nil_iff.mp hnil
      rw [hempty] at hx
      exact absurd hx (by simp)
    -- Neither `None` nor a number can be iterated over.
    | null => cases h
    | bool b => cases h
    | int n => cases h
  · simpa using hx

/-- What `for x in (y or [])` iterates over: nothing, or the list `y`. -/
theorem asList_or_eq_ok {y : Json} {items : List Json} (h : (y.or (.arr [])).asList = .ok items) :
    items = [] ∨ y = .arr items := by
  by_cases hy : y.truthy = true
  · rw [or_of_truthy _ hy] at h
    cases y with
    | arr found =>
      obtain rfl := Except.ok.inj h
      exact .inr rfl
    | obj members =>
      cases members with
      | nil => exact .inl (Except.ok.inj h).symm
      | cons m members => simp [asList] at h
    | str s =>
      simp only [asList] at h
      split_ifs at h
      exact .inl (Except.ok.inj h).symm
    | null => simp [asList] at h
    | bool b => simp [asList] at h
    | int n => simp [asList] at h
  · rw [or_of_not_truthy _ (by simpa using hy)] at h
    exact .inl (Except.ok.inj h).symm

/-- An element of a list member is smaller than the dict that holds the member, which is what
    makes the recursion into inner records terminate. -/
theorem sizeOf_lt_of_lookup {d : Dict} {key : String} {items : List Json} {x : Json}
    (h : d.lookup key = some (.arr items)) (hx : x ∈ items) : sizeOf x < sizeOf (Json.obj d) := by
  -- By the two steps: the element in its list, the list in the dict.
  have h1 : sizeOf x < sizeOf (Json.arr items) := by
    have := List.sizeOf_lt_of_mem hx
    simp only [Json.arr.sizeOf_spec]; omega
  have h2 : ∀ d : Dict, d.lookup key = some (.arr items) → sizeOf (Json.arr items) < sizeOf d := by
    intro d
    induction d with
    | nil => intro h; simp at h
    | cons m d ih =>
      obtain ⟨k, v⟩ := m
      intro h
      rw [List.lookup_cons] at h
      split at h
      · cases h
        simp only [List.cons.sizeOf_spec, Prod.mk.sizeOf_spec]; omega
      · have := ih h
        simp only [List.cons.sizeOf_spec]; omega
  have h3 := h2 d h
  simp only [Json.obj.sizeOf_spec]; omega

end Json

end Algorandscout
