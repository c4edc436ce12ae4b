import Mathlib.Data.Char
import Mathlib.Tactic.Common
import Mathlib.Tactic.Ring
import Algorandscout.Library.Numeral

namespace Algorandscout.Library.Calendar

/-!
# Dates of the Gregorian calendar

* `Date`, `Date.ordinal` — a date from the year 1 on, and its number, counted from 1 for the first
  of January of the year 1;
* `ordinal_lt_iff` — earlier dates have smaller numbers;
* `Moment`, `Moment.seconds` — a date with a time of day, and its number of seconds;
* `Moment.text`, `readMoment` — `YYYY-MM-DDTHH:MM:SSZ`, written and read;
* `readMoment_text`, `text_lt_iff` — what is written is read back, and texts sort as moments do.
-/

/-! ### Dates -/

/-- The year has a 29th of February. -/
def IsLeap (year : ℕ) : Prop := year % 4 = 0 ∧ (year % 100 ≠ 0 ∨ year % 400 = 0)

instance (year : ℕ) : Decidable (IsLeap year) := inferInstanceAs (Decidable (_ ∧ _))

def daysInYear (year : ℕ) : ℕ := if IsLeap year then 366 else 365

/-- The days of a month; there is no month 0. -/
def daysInMonth (year : ℕ) : ℕ → ℕ
  | 0 => 0
  | 2 => if IsLeap year then 29 else 28
  | 4 | 6 | 9 | 11 => 30
  | _ => 31

/-- The days of the year before the first of a month. -/
def daysBeforeMonth (year : ℕ) : ℕ → ℕ
  | 0 => 0
  | month + 1 => daysBeforeMonth year month + daysInMonth year month

/-- The days before the first of January of a year, counted from the year 1. -/
def daysBeforeYear (year : ℕ) : ℕ :=
  365 * (year - 1) + (year - 1) / 4 - (year - 1) / 100 + (year - 1) / 400

/-- A date. -/
@[ext] structure Date where
  year : ℕ
  month : ℕ
  day : ℕ
  year_pos : 1 ≤ year
  month_pos : 1 ≤ month
  month_le : month ≤ 12
  day_pos : 1 ≤ day
  day_le : day ≤ daysInMonth year month

theorem daysBeforeYear_succ {year : ℕ} (h : 1 ≤ year) :
    daysBeforeYear (year + 1) = daysBeforeYear year + daysInYear year := by
  obtain ⟨k, rfl⟩ := Nat.exists_eq_add_of_le' h
  have hle : k / 100 ≤ k / 4 := Nat.div_le_div_left (by omega) (by omega)
  unfold daysBeforeYear daysInYear
  -- Each quotient goes up by one in the years that its divisor divides.
  simp only [Nat.add_sub_cancel, Nat.succ_div, Nat.dvd_iff_mod_eq_zero]
  by_cases hleap : IsLeap (k + 1)
  · rw [if_pos hleap]
    obtain ⟨hfour, hrest⟩ := hleap
    split_ifs <;> omega
  · rw [if_neg hleap]
    rw [IsLeap, not_and_or, not_or, not_not] at hleap
    split_ifs <;> omega

theorem daysBeforeYear_mono {year year' : ℕ} (hpos : 1 ≤ year) (h : year < year') :
    daysBeforeYear year + daysInYear year ≤ daysBeforeYear year' := by
  induction year', h using Nat.le_induction with
  | base => exact (daysBeforeYear_succ hpos).ge
  | succ next hle ih =>
    rw [daysBeforeYear_succ (by omega)]
    omega

theorem daysBeforeMonth_mono (year : ℕ) {month month' : ℕ} (h : month < month') :
    daysBeforeMonth year month + daysInMonth year month ≤ daysBeforeMonth year month' := by
  induction month', h using Nat.le_induction with
  | base => exact le_rfl
  | succ next hle ih =>
    show _ ≤ daysBeforeMonth year next + daysInMonth year next
    omega

/-- The twelve months make up the year. -/
theorem daysBeforeMonth_thirteen (year : ℕ) : daysBeforeMonth year 13 = daysInYear year := by
  simp only [daysBeforeMonth, daysInMonth, daysInYear]
  split_ifs
  · rfl
  · rfl

namespace Date

/-- The day of the year. -/
def dayOfYear (d : Date) : ℕ := daysBeforeMonth d.year d.month + d.day

/-- The number of the date. -/
def ordinal (d : Date) : ℕ := daysBeforeYear d.year + d.dayOfYear

/-- Earlier in the calendar. -/
def Before (d d' : Date) : Prop :=
  d.year < d'.year ∨ d.year = d'.year ∧ (d.month < d'.month ∨ d.month = d'.month ∧ d.day < d'.day)

theorem dayOfYear_pos (d : Date) : 1 ≤ d.dayOfYear := by
  have hday := d.day_pos
  unfold dayOfYear
  omega

theorem dayOfYear_le (d : Date) : d.dayOfYear ≤ daysInYear d.year := by
  have hday := d.day_le
  have hmonth := daysBeforeMonth_mono d.year (Nat.lt_succ_of_le d.month_le)
  rw [daysBeforeMonth_thirteen] at hmonth
  unfold dayOfYear
  omega

theorem ordinal_lt_of_before {d d' : Date} (h : d.Before d') : d.ordinal < d'.ordinal := by
  unfold ordinal
  rcases h with hyear | ⟨hyear, hmonth | ⟨hmonth, hday⟩⟩
  · have hstart := daysBeforeYear_mono d.year_pos hyear
    have hend := d.dayOfYear_le
    have hpos := d'.dayOfYear_pos
    omega
  · have hstart := daysBeforeMonth_mono d.year hmonth
    have hend := d.day_le
    have hpos := d'.day_pos
    unfold dayOfYear
    rw [← hyear]
    omega
  · unfold dayOfYear
    rw [← hyear, ← hmonth]
    omega

theorem before_or_eq_or_before (d d' : Date) : d.Before d' ∨ d = d' ∨ d'.Before d := by
  unfold Before
  rcases lt_trichotomy d.year d'.year with h | hyear | h
  · exact .inl (.inl h)
  · rcases lt_trichotomy d.month d'.month with h | hmonth | h
    · exact .inl (.inr ⟨hyear, .inl h⟩)
    · rcases lt_trichotomy d.day d'.day with h | hday | h
      · exact .inl (.inr ⟨hyear, .inr ⟨hmonth, h⟩⟩)
      · exact .inr (.inl (Date.ext hyear hmonth hday))
      · exact .inr (.inr (.inr ⟨hyear.symm, .inr ⟨hmonth.symm, h⟩⟩))
    · exact .inr (.inr (.inr ⟨hyear.symm, .inl h⟩))
  · exact .inr (.inr (.inl h))

/-- **Earlier dates have smaller numbers.** -/
theorem ordinal_lt_iff (d d' : Date) : d.ordinal < d'.ordinal ↔ d.Before d' := by
  constructor
  · intro h
    rcases before_or_eq_or_before d d' with hbefore | rfl | hafter
    · exact hbefore
    · exact absurd h (lt_irrefl _)
    · exact absurd h (ordinal_lt_of_before hafter).asymm
  · exact ordinal_lt_of_before

end Date

/-! ### Moments -/

/-- A date with a time of day. -/
@[ext] structure Moment where
  date : Date
  hour : ℕ
  minute : ℕ
  second : ℕ
  hour_lt : hour < 24
  minute_lt : minute < 60
  second_lt : second < 60

namespace Moment

/-- The seconds since midnight. -/
def secondOfDay (m : Moment) : ℕ := 3600 * m.hour + 60 * m.minute + m.second

/-- The number of seconds of a moment. -/
def seconds (m : Moment) : ℕ := 86400 * m.date.ordinal + m.secondOfDay

/-- Earlier in time. -/
def Before (m m' : Moment) : Prop :=
  m.date.Before m'.date ∨ m.date = m'.date ∧ (m.hour < m'.hour ∨ m.hour = m'.hour ∧
    (m.minute < m'.minute ∨ m.minute = m'.minute ∧ m.second < m'.second))

theorem secondOfDay_lt (m : Moment) : m.secondOfDay < 86400 := by
  have hhour := m.hour_lt
  have hminute := m.minute_lt
  have hsecond := m.second_lt
  unfold secondOfDay
  omega

/-- **Earlier moments have fewer seconds.** -/
theorem seconds_lt_iff (m m' : Moment) : m.seconds < m'.seconds ↔ m.Before m' := by
  have hday := m.secondOfDay_lt
  have hday' := m'.secondOfDay_lt
  have hminute := m.minute_lt
  have hminute' := m'.minute_lt
  have hsecond := m.second_lt
  have hsecond' := m'.second_lt
  have hdate := Date.ordinal_lt_iff m.date m'.date
  unfold seconds Before
  rcases Date.before_or_eq_or_before m.date m'.date with h | h | h
  · have hlt := hdate.mpr h
    exact iff_of_true (by omega) (.inl h)
  · have hnot : ¬ m.date.Before m'.date := by
      rw [← hdate, h]
      exact lt_irrefl _
    rw [h] at hnot ⊢
    simp only [hnot, false_or, true_and]
    unfold secondOfDay
    omega
  · have hlt := Date.ordinal_lt_of_before h
    refine iff_of_false (by omega) ?_
    rintro (hbefore | ⟨heq, -⟩)
    · exact absurd (hdate.mpr hbefore) hlt.asymm
    · rw [heq] at hlt
      exact lt_irrefl _ hlt

end Moment

/-! ### Texts -/

/-- A number in a fixed number of digits. -/
def fixed (n width : ℕ) : List Char :=
  List.replicate (width - (Nat.toDigits 10 n).length) '0' ++ Nat.toDigits 10 n

theorem length_fixed {n width : ℕ} (hpos : 0 < width) (h : n < 10 ^ width) :
    (fixed n width).length = width := by
  have hle : (Nat.toDigits 10 n).length ≤ width := by
    rwa [Nat.length_toDigits_le_iff (by decide) hpos]
  unfold fixed
  rw [List.length_append, List.length_replicate]
  omega

theorem isDigits_fixed (n width : ℕ) : Numeral.IsDigits (fixed n width) := by
  intro c hc
  rcases List.mem_append.mp hc with hc | hc
  · rw [List.eq_of_mem_replicate hc]
    decide
  · exact Numeral.isDigits_toDigits n c hc

/-- The zeros in front do not count. -/
theorem ofDigitChars_fixed (n width : ℕ) : Nat.ofDigitChars 10 (fixed n width) 0 = n := by
  unfold fixed
  rw [Nat.ofDigitChars_append, Nat.ofDigitChars_replicate_zero, Nat.mul_zero,
    Nat.ofDigitChars_ten_toDigits]

theorem toNat_of_isDigit {c : Char} (h : c.isDigit = true) :
    '0'.toNat ≤ c.toNat ∧ c.toNat - '0'.toNat ≤ 9 := by
  obtain ⟨hlow, hhigh⟩ := Char.isDigit_iff_toNat.mp h
  exact ⟨hlow, Nat.sub_le_sub_right hhigh '0'.toNat⟩

/-- The value of digits, the first of them set apart. -/
theorem ofDigitChars_cons_eq (c : Char) (cs : List Char) :
    Nat.ofDigitChars 10 (c :: cs) 0 =
      10 ^ cs.length * (c.toNat - '0'.toNat) + Nat.ofDigitChars 10 cs 0 := by
  rw [Nat.ofDigitChars_cons, Nat.mul_zero, Nat.zero_add, Nat.ofDigitChars_eq_ofDigitChars_zero]

theorem ofDigitChars_lt {cs : List Char} (h : Numeral.IsDigits cs) :
    Nat.ofDigitChars 10 cs 0 < 10 ^ cs.length := by
  induction cs with
  | nil => simp
  | cons c cs ih =>
    obtain ⟨hc, hcs⟩ := List.forall_mem_cons.mp h
    have hrest := ih hcs
    have hscaled := Nat.mul_le_mul_left (10 ^ cs.length) (toNat_of_isDigit hc).2
    rw [ofDigitChars_cons_eq, List.length_cons, pow_succ]
    omega

/-- **Digits sort as the numbers they write**, in texts of one length. -/
theorem append_lt_append_iff {cs ds : List Char} (hlength : cs.length = ds.length)
    (hcs : Numeral.IsDigits cs) (hds : Numeral.IsDigits ds) (as bs : List Char) :
    cs ++ as < ds ++ bs ↔ Nat.ofDigitChars 10 cs 0 < Nat.ofDigitChars 10 ds 0 ∨
      Nat.ofDigitChars 10 cs 0 = Nat.ofDigitChars 10 ds 0 ∧ as < bs := by
  induction cs generalizing ds with
  | nil =>
    obtain rfl := List.length_eq_zero_iff.mp hlength.symm
    simp
  | cons c cs ih =>
    cases ds with
    | nil => simp at hlength
    | cons d ds =>
      obtain ⟨hc, hcs⟩ := List.forall_mem_cons.mp hcs
      obtain ⟨hd, hds⟩ := List.forall_mem_cons.mp hds
      have hlength : cs.length = ds.length := Nat.succ.inj hlength
      have hlt := ofDigitChars_lt hcs
      have hlt' := ofDigitChars_lt hds
      have hlow := (toNat_of_isDigit hc).1
      have hlow' := (toNat_of_isDigit hd).1
      rw [List.cons_append, List.cons_append, List.cons_lt_cons_iff, ih hlength hcs hds,
        ofDigitChars_cons_eq, ofDigitChars_cons_eq, ← hlength]
      rw [← hlength] at hlt'
      rcases lt_trichotomy c d with h | rfl | h
      · -- The first digit outweighs all that follow.
        have hdigit : c.toNat - '0'.toNat + 1 ≤ d.toNat - '0'.toNat := by
          have hnat : c.toNat < d.toNat := h
          omega
        have hscaled := Nat.mul_le_mul_left (10 ^ cs.length) hdigit
        rw [Nat.mul_add, Nat.mul_one] at hscaled
        exact iff_of_true (.inl h) (.inl (by omega))
      · simp
      · have hdigit : d.toNat - '0'.toNat + 1 ≤ c.toNat - '0'.toNat := by
          have hnat : d.toNat < c.toNat := h
          omega
        have hscaled := Nat.mul_le_mul_left (10 ^ cs.length) hdigit
        rw [Nat.mul_add, Nat.mul_one] at hscaled
        refine iff_of_false ?_ ?_
        · rintro (hbefore | ⟨rfl, -⟩)
          · exact hbefore.asymm h
          · exact lt_irrefl _ h
        · omega

/-- Fields of one width sort as the numbers in them, and then as what follows. -/
theorem fixed_lt_iff {n n' width : ℕ} (hpos : 0 < width) (h : n < 10 ^ width)
    (h' : n' < 10 ^ width) (separator : Char) (as bs : List Char) :
    fixed n width ++ separator :: as < fixed n' width ++ separator :: bs ↔
      n < n' ∨ n = n' ∧ as < bs := by
  have hlength : (fixed n width).length = (fixed n' width).length :=
    (length_fixed hpos h).trans (length_fixed hpos h').symm
  rw [append_lt_append_iff hlength (isDigits_fixed n width) (isDigits_fixed n' width),
    ofDigitChars_fixed, ofDigitChars_fixed, List.cons_lt_cons_iff]
  simp

/-- A number of `width` digits, and what follows the separator after it. -/
def readField (width : ℕ) (separator : Char) (cs : List Char) : Option (ℕ × List Char) :=
  let digits := cs.take width
  match cs.drop width with
  | c :: rest =>
    if digits.length = width ∧ digits.all Char.isDigit ∧ c = separator then
      some (Nat.ofDigitChars 10 digits 0, rest)
    else none
  | [] => none

theorem readField_fixed {n width : ℕ} (hpos : 0 < width) (h : n < 10 ^ width) (separator : Char)
    (rest : List Char) :
    readField width separator (fixed n width ++ separator :: rest) = some (n, rest) := by
  have hlength := length_fixed hpos h
  have hdigits : (fixed n width).all Char.isDigit = true :=
    List.all_eq_true.mpr (isDigits_fixed n width)
  unfold readField
  rw [List.take_left' hlength, List.drop_left' hlength]
  simp only [hlength, hdigits, ofDigitChars_fixed]
  simp

namespace Moment

/-- `YYYY-MM-DDTHH:MM:SSZ`. -/
def text (m : Moment) : List Char :=
  fixed m.date.year 4 ++ '-' :: (fixed m.date.month 2 ++ '-' :: (fixed m.date.day 2 ++
    'T' :: (fixed m.hour 2 ++ ':' :: (fixed m.minute 2 ++ ':' :: (fixed m.second 2 ++
      'Z' :: [])))))

end Moment

/-- The moment that a text writes, if there is such a date and time of day. -/
def readMoment (cs : List Char) : Option Moment := do
  let (year, cs) ← readField 4 '-' cs
  let (month, cs) ← readField 2 '-' cs
  let (day, cs) ← readField 2 'T' cs
  let (hour, cs) ← readField 2 ':' cs
  let (minute, cs) ← readField 2 ':' cs
  let (second, cs) ← readField 2 'Z' cs
  if hdate : 1 ≤ year ∧ 1 ≤ month ∧ month ≤ 12 ∧ 1 ≤ day ∧ day ≤ daysInMonth year month then
    if htime : hour < 24 ∧ minute < 60 ∧ second < 60 ∧ cs = [] then
      some ⟨⟨year, month, day, hdate.1, hdate.2.1, hdate.2.2.1, hdate.2.2.2.1, hdate.2.2.2.2⟩,
        hour, minute, second, htime.1, htime.2.1, htime.2.2.1⟩
    else none
  else none

theorem daysInMonth_le (year month : ℕ) : daysInMonth year month ≤ 31 := by
  unfold daysInMonth
  split <;> (try split_ifs) <;> omega

/-- All fields but the year have two digits. -/
theorem Moment.fields_lt (m : Moment) : m.date.month < 10 ^ 2 ∧ m.date.day < 10 ^ 2 ∧
    m.hour < 10 ^ 2 ∧ m.minute < 10 ^ 2 ∧ m.second < 10 ^ 2 := by
  have hmonth := m.date.month_le
  have hday := m.date.day_le.trans (daysInMonth_le _ _)
  have hhour := m.hour_lt
  have hminute := m.minute_lt
  have hsecond := m.second_lt
  omega

/-- **A text is read back.** -/
theorem readMoment_text (m : Moment) (hyear : m.date.year < 10 ^ 4) :
    readMoment m.text = some m := by
  obtain ⟨hmonth, hday, hhour, hminute, hsecond⟩ := m.fields_lt
  have hdate : 1 ≤ m.date.year ∧ 1 ≤ m.date.month ∧ m.date.month ≤ 12 ∧ 1 ≤ m.date.day ∧
      m.date.day ≤ daysInMonth m.date.year m.date.month :=
    ⟨m.date.year_pos, m.date.month_pos, m.date.month_le, m.date.day_pos, m.date.day_le⟩
  have htime : m.hour < 24 ∧ m.minute < 60 ∧ m.second < 60 ∧ True :=
    ⟨m.hour_lt, m.minute_lt, m.second_lt, trivial⟩
  have htwo : 0 < 2 := by decide
  unfold readMoment Moment.text
  simp only [readField_fixed (by decide) hyear, readField_fixed htwo hmonth,
    readField_fixed htwo hday, readField_fixed htwo hhour, readField_fixed htwo hminute,
    readField_fixed htwo hsecond, Option.bind_eq_bind, Option.bind_some]
  rw [dif_pos hdate, dif_pos htime]

/-- **Texts sort as moments do.** -/
theorem text_lt_iff (m m' : Moment) (hyear : m.date.year < 10 ^ 4)
    (hyear' : m'.date.year < 10 ^ 4) : m.text < m'.text ↔ m.Before m' := by
  obtain ⟨hmonth, hday, hhour, hminute, hsecond⟩ := m.fields_lt
  obtain ⟨hmonth', hday', hhour', hminute', hsecond'⟩ := m'.fields_lt
  have hend : ¬ ([] : List Char) < [] := List.lt_irrefl []
  unfold Moment.text
  rw [fixed_lt_iff (by decide) hyear hyear', fixed_lt_iff (by decide) hmonth hmonth',
    fixed_lt_iff (by decide) hday hday', fixed_lt_iff (by decide) hhour hhour',
    fixed_lt_iff (by decide) hminute hminute', fixed_lt_iff (by decide) hsecond hsecond']
  unfold Moment.Before Date.Before
  rw [Date.ext_iff]
  tauto

end Algorandscout.Library.Calendar
