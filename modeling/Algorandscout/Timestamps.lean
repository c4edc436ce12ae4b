import Mathlib.Tactic.IntervalCases
import Algorandscout.Decimals
import Algorandscout.Library.Calendar

namespace Algorandscout

open Library Library.Calendar

/-!
# Timestamps

`iso` writes Unix seconds as an ISO-8601 text.  The calendar it goes by is found from eras of 400
years that start in March; `Library.Calendar` counts years from January.

* `yearOfEra_spec` — the year that a day of an era falls in;
* `civilFromDays_spec` — year, month and day of a number of days are a date with that number;
* `isoformat_eq` — the text of a timestamp is that of a moment with as many seconds;
* `iso_faithful` — it is read back as the timestamp, and texts sort as timestamps do.
-/

/-! ### Years of an era -/

/-- The days of an era before its `y`-th year. -/
def daysBeforeEraYear (y : ℕ) : ℕ := 365 * y + y / 4 - y / 100 + y / 400

/-- A day of an era, without the leap days before it. -/
def leaplessDay (d : ℕ) : ℕ := d - d / 1460 + d / 36524 - d / 146096

theorem leaplessDay_mono {d d' : ℕ} (h : d ≤ d') : leaplessDay d ≤ leaplessDay d' := by
  induction d', h using Nat.le_induction with
  | base => exact le_rfl
  | succ next hle ih =>
    refine ih.trans ?_
    have hsmall : next / 1460 ≤ next := Nat.div_le_self _ _
    have hera : next / 146096 ≤ next / 36524 := Nat.div_le_div_left (by decide) (by decide)
    unfold leaplessDay
    -- The leap day that an era drops is one that a century adds.
    simp only [Nat.succ_div, Nat.dvd_iff_mod_eq_zero]
    split_ifs <;> omega

/-- The first and the last day of each year of an era fall in it. -/
theorem leaplessDay_bounds : ∀ y < 400, 365 * y ≤ leaplessDay (daysBeforeEraYear y) ∧
    leaplessDay (daysBeforeEraYear (y + 1) - 1) < 365 * (y + 1) := by decide +kernel

/-- **The year that a day of an era falls in.** -/
theorem yearOfEra_spec {d : ℕ} (h : d < 146097) : leaplessDay d / 365 < 400 ∧
    daysBeforeEraYear (leaplessDay d / 365) ≤ d ∧
    d < daysBeforeEraYear (leaplessDay d / 365 + 1) := by
  have hlast : leaplessDay d / 365 < 400 := by
    have hmono : leaplessDay d ≤ leaplessDay 146096 := leaplessDay_mono (by omega)
    have hend : leaplessDay 146096 = 145999 := by decide +kernel
    omega
  generalize hy : leaplessDay d / 365 = y at hlast ⊢
  refine ⟨hlast, ?_, ?_⟩
  · -- On an earlier day the year would be an earlier one.
    by_contra hlt
    cases y with
    | zero => exact hlt (Nat.zero_le d)
    | succ y =>
      have hmono : leaplessDay d ≤ leaplessDay (daysBeforeEraYear (y + 1) - 1) :=
        leaplessDay_mono (by omega)
      have hbound := (leaplessDay_bounds y (by omega)).2
      omega
  · by_contra hle
    by_cases hend : y + 1 = 400
    · rw [hend] at hle
      exact hle h
    · have hmono : leaplessDay (daysBeforeEraYear (y + 1)) ≤ leaplessDay d :=
        leaplessDay_mono (by omega)
      have hbound := (leaplessDay_bounds (y + 1) (by omega)).1
      omega

/-- Years of eras, counted from January. -/
theorem daysBeforeYear_era {y : ℕ} (hy : y ≤ 400) (era : ℕ) :
    daysBeforeYear (y + 400 * era + 1) = 146097 * era + daysBeforeEraYear y := by
  have hcentury : y / 100 ≤ y / 4 := Nat.div_le_div_left (by decide) (by decide)
  have hfour : (y + 400 * era) / 4 = y / 4 + 100 * era := by omega
  have hhundred : (y + 400 * era) / 100 = y / 100 + 4 * era := by omega
  have hera : (y + 400 * era) / 400 = y / 400 + era := by omega
  unfold daysBeforeYear daysBeforeEraYear
  rw [Nat.add_sub_cancel, hfour, hhundred, hera]
  omega

/-! ### Months of a year that starts in March -/

/-- The month of a day, counted from the first of March. -/
def monthOfMarchDay (day : ℕ) : ℕ :=
  let mp := (5 * day + 2) / 153
  if mp < 10 then mp + 3 else mp - 9

/-- The day of the month. -/
def dayOfMarchDay (day : ℕ) : ℕ := day - (153 * ((5 * day + 2) / 153) + 2) / 5 + 1

/-- The year, which January and February of a March year are one later in. -/
def yearOfMarchDay (year day : ℕ) : ℕ := year + if monthOfMarchDay day ≤ 2 then 1 else 0

/-- The date of a day of a March year.  The year 0 has no dates before January of the year 1. -/
theorem exists_date {year day : ℕ} (hday : day < daysInYear (year + 1))
    (hyear : year = 0 → 306 ≤ day) : ∃ d : Date, d.year = yearOfMarchDay year day ∧
      d.month = monthOfMarchDay day ∧ d.day = dayOfMarchDay day ∧
      d.ordinal + 305 = daysBeforeYear (year + 1) + day := by
  have hlength : daysInYear (year + 1) ≤ 366 := by
    unfold daysInYear
    split_ifs <;> decide
  have hmp : (5 * day + 2) / 153 ≤ 11 := by omega
  by_cases hbefore : (5 * day + 2) / 153 < 10
  · -- March to December of `year`.
    have hpos : 1 ≤ year := by
      by_contra hzero
      have hle := hyear (by omega)
      omega
    have hmonth : monthOfMarchDay day = (5 * day + 2) / 153 + 3 := if_pos hbefore
    have hyear : yearOfMarchDay year day = year := by
      unfold yearOfMarchDay
      rw [if_neg (by omega), Nat.add_zero]
    have hstart : daysBeforeMonth year (monthOfMarchDay day) + 306 =
        (153 * ((5 * day + 2) / 153) + 2) / 5 + daysInYear year := by
      rw [hmonth]
      generalize (5 * day + 2) / 153 = mp at hbefore
      unfold daysInYear
      interval_cases mp <;> simp only [daysBeforeMonth, daysInMonth] <;> split_ifs <;> rfl
    have hend : (153 * ((5 * day + 2) / 153 + 1) + 2) / 5 =
        (153 * ((5 * day + 2) / 153) + 2) / 5 + daysInMonth year (monthOfMarchDay day) := by
      rw [hmonth]
      generalize (5 * day + 2) / 153 = mp at hbefore
      interval_cases mp <;> rfl
    refine ⟨⟨year, monthOfMarchDay day, dayOfMarchDay day, hpos, by omega, by omega,
      Nat.le_add_left _ _, ?_⟩, hyear.symm, rfl, rfl, ?_⟩
    · unfold dayOfMarchDay
      omega
    · have hnext := daysBeforeYear_succ hpos
      unfold Date.ordinal Date.dayOfYear dayOfMarchDay
      dsimp only
      omega
  · -- January and February of the year after.
    have hmonth : monthOfMarchDay day = (5 * day + 2) / 153 - 9 := if_neg hbefore
    have hyear : yearOfMarchDay year day = year + 1 := by
      unfold yearOfMarchDay
      rw [if_pos (by omega)]
    have hstart : daysBeforeMonth (year + 1) (monthOfMarchDay day) + 306 =
        (153 * ((5 * day + 2) / 153) + 2) / 5 := by
      rw [hmonth]
      generalize (5 * day + 2) / 153 = mp at hbefore hmp
      interval_cases mp <;> rfl
    have hend : day < (153 * ((5 * day + 2) / 153) + 2) / 5 +
        daysInMonth (year + 1) (monthOfMarchDay day) := by
      rw [hmonth]
      rcases (by omega : (5 * day + 2) / 153 = 10 ∨ (5 * day + 2) / 153 = 11) with hten | heleven
      · rw [hten]
        show day < 306 + 31
        omega
      · rw [heleven]
        unfold daysInYear at hday
        show day < 337 + if IsLeap (year + 1) then 29 else 28
        split_ifs at hday ⊢ <;> omega
    refine ⟨⟨year + 1, monthOfMarchDay day, dayOfMarchDay day, by omega, by omega, by omega,
      Nat.le_add_left _ _, ?_⟩, hyear.symm, rfl, rfl, ?_⟩
    · unfold dayOfMarchDay
      omega
    · unfold Date.ordinal Date.dayOfYear dayOfMarchDay
      dsimp only
      omega

/-- **Year, month and day of a number of days** are a date with that number. -/
theorem civilFromDays_spec {z : ℤ} (h : -719162 ≤ z) :
    ∃ d : Date, civilFromDays z = ((d.year : ℤ), d.month, d.day) ∧
      (d.ordinal : ℤ) = z + 719163 := by
  obtain ⟨shifted, hshifted⟩ := Int.eq_ofNat_of_zero_le (by omega : 0 ≤ z + 719468)
  have hday : shifted % 146097 < 146097 := Nat.mod_lt _ (by decide)
  obtain ⟨hlast, hstart, hend⟩ := yearOfEra_spec hday
  generalize hera : shifted / 146097 = era
  generalize hdayOfEra : shifted % 146097 = dayOfEra at hday hlast hstart hend
  generalize hyear : leaplessDay dayOfEra / 365 = year at hlast hstart hend
  have hbefore := daysBeforeYear_era hlast.le era
  have hnext := daysBeforeYear_era (show year + 1 ≤ 400 from hlast) era
  have hlength := daysBeforeYear_succ (Nat.le_add_left 1 (year + 400 * era))
  have hcomm : year + 1 + 400 * era + 1 = year + 400 * era + 1 + 1 := by omega
  rw [hcomm] at hnext
  have hsplit := Nat.div_add_mod shifted 146097
  rw [hera, hdayOfEra] at hsplit
  have hdayOfYear : dayOfEra - daysBeforeEraYear year < daysInYear (year + 400 * era + 1) := by
    omega
  have hfirst : year + 400 * era = 0 → 306 ≤ dayOfEra - daysBeforeEraYear year := by
    intro hzero
    obtain ⟨rfl, rfl⟩ : year = 0 ∧ era = 0 := by omega
    have hnone : daysBeforeEraYear 0 = 0 := rfl
    omega
  obtain ⟨d, hdYear, hdMonth, hdDay, hdOrdinal⟩ := exists_date hdayOfYear hfirst
  refine ⟨d, ?_, by omega⟩
  have hcentury : year / 400 = 0 := Nat.div_eq_of_lt hlast
  have hyearDay : dayOfEra - (365 * year + year / 4 - year / 100) =
      dayOfEra - daysBeforeEraYear year := by
    unfold daysBeforeEraYear
    rw [hcentury, Nat.add_zero]
  rw [hdYear, hdMonth, hdDay]
  have hdiv : z + 719468 = (shifted : ℤ) := hshifted
  unfold civilFromDays
  have hdivEra : (shifted : ℤ) / 146097 = (era : ℤ) := by omega
  have hmodEra : ((shifted : ℤ) % 146097).toNat = dayOfEra := by omega
  simp only [hdiv, hdivEra, hmodEra]
  rw [show (dayOfEra - dayOfEra / 1460 + dayOfEra / 36524 - dayOfEra / 146096) / 365 = year
    from hyear, hyearDay]
  refine Prod.ext ?_ rfl
  show (year + era * 400 : ℤ) + (if monthOfMarchDay (dayOfEra - daysBeforeEraYear year) ≤ 2
    then 1 else 0) = yearOfMarchDay (year + 400 * era) (dayOfEra - daysBeforeEraYear year)
  unfold yearOfMarchDay
  split_ifs <;> omega

/-! ### Texts of timestamps -/

/-- The beginning of Unix time. -/
def epoch : Moment :=
  ⟨⟨1970, 1, 1, by decide, by decide, by decide, by decide, by decide⟩, 0, 0, 0, by decide,
    by decide, by decide⟩

theorem seconds_epoch : epoch.seconds = 62135683200 := by decide +kernel

/-- The Unix seconds of the moment that a text writes. -/
def readTimestamp (s : String) : Option ℤ :=
  (readMoment s.toList).map fun m => (m.seconds : ℤ) - epoch.seconds

theorem padDigits_eq_fixed (n width : ℕ) : padDigits n width = fixed n width := padDigits_eq n width

/-- **The text of a timestamp is that of a moment** with as many seconds. -/
theorem isoformat_eq {t : ℤ} (h : minTimestamp ≤ t) : ∃ m : Moment,
    (isoformat t).toList = m.text ∧ (m.seconds : ℤ) = t + epoch.seconds := by
  unfold minTimestamp at h
  obtain ⟨d, hcivil, hordinal⟩ := civilFromDays_spec (by omega : -719162 ≤ t / 86400)
  obtain ⟨second, hsecond⟩ :=
    Int.eq_ofNat_of_zero_le (Int.emod_nonneg t (by decide : (86400 : ℤ) ≠ 0))
  have hlt := Int.emod_lt_of_pos t (by decide : (0 : ℤ) < 86400)
  have hsplit := Int.mul_ediv_add_emod t 86400
  refine ⟨⟨d, second / 3600, second / 60 % 60, second % 60, by omega, by omega, by omega⟩, ?_, ?_⟩
  · unfold isoformat Moment.text
    rw [hcivil, hsecond]
    simp only [String.toList_ofList, padDigits_eq_fixed, Int.toNat_natCast,
      List.append_assoc, List.cons_append]
  · rw [seconds_epoch]
    unfold Moment.seconds Moment.secondOfDay
    dsimp only
    push_cast
    omega

/-- A `datetime` has a year of four digits. -/
theorem year_lt {m : Moment} {t : ℤ} (hseconds : (m.seconds : ℤ) = t + epoch.seconds)
    (h : t ≤ maxTimestamp) : m.date.year < 10 ^ 4 := by
  by_contra hle
  have hstart : daysBeforeYear 9999 + daysInYear 9999 ≤ daysBeforeYear m.date.year :=
    daysBeforeYear_mono (by decide) (by omega)
  have hlast : daysBeforeYear 9999 + daysInYear 9999 = 3652059 := by decide +kernel
  have hpos := m.date.dayOfYear_pos
  rw [seconds_epoch] at hseconds
  unfold Moment.seconds Date.ordinal at hseconds
  unfold maxTimestamp at h
  omega

theorem iso_eq_ok_iff {t : ℤ} {s : String} : iso (.int t) = .ok (some s) ↔
    (minTimestamp ≤ t ∧ t ≤ maxTimestamp) ∧ isoformat t = s := by
  constructor
  · intro h
    unfold iso at h
    simp only [Json.isNull_int, Bool.false_eq_true, ↓reduceIte, Json.asInt_int, ok_bind] at h
    split_ifs at h with hmachine hyears hyears
    · cases h
    · cases h
    · cases h
    · rw [not_or, not_lt, not_lt] at hyears
      exact ⟨hyears, Option.some.inj (Except.ok.inj h)⟩
  · rintro ⟨⟨hmin, hmax⟩, rfl⟩
    have hmachine : ¬(t < -2 ^ 63 ∨ 2 ^ 63 ≤ t) := by
      unfold minTimestamp at hmin
      unfold maxTimestamp at hmax
      omega
    have hyears : ¬(t < minTimestamp ∨ maxTimestamp < t) := by omega
    unfold iso
    simp only [Json.isNull_int, Bool.false_eq_true, ↓reduceIte, Json.asInt_int, ok_bind, hmachine,
      hyears]
    rfl

/-- **Timestamps are written faithfully.**  A timestamp has a text if it is one of the years 1 to
    9999; the text is read back as the timestamp, and texts sort as the timestamps do. -/
theorem iso_faithful (t : ℤ) :
    ((∃ s, iso (.int t) = .ok (some s)) ↔ minTimestamp ≤ t ∧ t ≤ maxTimestamp) ∧
    ∀ s, iso (.int t) = .ok (some s) → readTimestamp s = some t ∧
      ∀ t' s', iso (.int t') = .ok (some s') → (s.toList < s'.toList ↔ t < t') := by
  refine ⟨⟨?_, ?_⟩, ?_⟩
  · rintro ⟨s, hs⟩
    exact (iso_eq_ok_iff.mp hs).1
  · intro hrange
    exact ⟨isoformat t, iso_eq_ok_iff.mpr ⟨hrange, rfl⟩⟩
  · intro s hs
    obtain ⟨⟨hmin, hmax⟩, rfl⟩ := iso_eq_ok_iff.mp hs
    obtain ⟨m, htext, hseconds⟩ := isoformat_eq hmin
    have hyear := year_lt hseconds hmax
    constructor
    · unfold readTimestamp
      rw [htext, readMoment_text m hyear, Option.map_some, hseconds, add_sub_cancel_right]
    · intro t' s' hs'
      obtain ⟨⟨hmin', hmax'⟩, rfl⟩ := iso_eq_ok_iff.mp hs'
      obtain ⟨m', htext', hseconds'⟩ := isoformat_eq hmin'
      have hyear' := year_lt hseconds' hmax'
      rw [htext, htext', text_lt_iff m m' hyear hyear',
        ← Moment.seconds_lt_iff]
      omega

theorem iso_faithful_leapDay : readTimestamp "2024-02-29T12:34:56Z" = some 1709210096 ∧
    ("2024-02-29T12:34:56Z".toList < "2024-03-01T00:00:00Z".toList ↔
      (1709210096 : ℤ) < 1709251200) := by
  have hleap : iso (.int 1709210096) = .ok (some "2024-02-29T12:34:56Z") := by decide
  have hmarch : iso (.int 1709251200) = .ok (some "2024-03-01T00:00:00Z") := by decide
  have hfaithful := (iso_faithful 1709210096).2 _ hleap
  exact ⟨hfaithful.1, hfaithful.2 _ _ hmarch⟩

end Algorandscout
