/-
  Day counts and dates of the Gregorian calendar.

  The calendar is given by its rules: which years have a leap day (`IsLeap`), the
  lengths of the months (`monthLengths`), and from them the number of days between
  1 January 1970 and a date (`days`).  The days before a year grow by the length of
  each year (`daysBeforeYear_succ`), so later dates have more days before them
  (`days_lt_days`).

  The date that is computed for a day count is one of the calendar
  (`isInCalendar_ofDays`) and has that day count (`days_ofDays`).  The computation finds
  the day in its era of 400 years (`EraDay`), and then in the year that starts on 1 March
  (`ofMarch`).
-/
import QuerySql.Instant
import Mathlib.Algebra.Order.BigOperators.Group.List
import Mathlib.Tactic.IntervalCases

namespace QuerySql.CalendarDate

/-! ## The calendar -/

/-- Whether a year has a leap day: every fourth year, but of the full centuries only
    every fourth. -/
def IsLeap (year : ℤ) : Prop := year % 4 = 0 ∧ (year % 100 ≠ 0 ∨ year % 400 = 0)

instance : DecidablePred IsLeap := fun _ => inferInstanceAs (Decidable (_ ∧ _))

/-- The leap days of a year, one or none. -/
def leapDays (year : ℤ) : ℕ := if IsLeap year then 1 else 0

/-- The lengths of the months of a year, January first. -/
def monthLengths (year : ℤ) : List ℕ :=
  [31, 28 + leapDays year, 31, 30, 31, 30, 31, 31, 30, 31, 30, 31]

/-- The length of a month; a year has no days in months after the twelfth. -/
def monthLength (year : ℤ) (month : ℕ) : ℕ := (monthLengths year).getD (month - 1) 0

/-- The days of a year that are before a month. -/
def daysBeforeMonth (year : ℤ) (month : ℕ) : ℕ := ((monthLengths year).take (month - 1)).sum

/-- The number of leap years from year 1 to `year`. -/
def leapYearsTo (year : ℤ) : ℤ := year / 4 - year / 100 + year / 400

/-- The days from 1 January 1970 to the first day of a year. -/
def daysBeforeYear (year : ℤ) : ℤ :=
  365 * (year - 1970) + leapYearsTo (year - 1) - leapYearsTo 1969

/-- The days from 1 January 1970 to a date. -/
def days (d : CalendarDate) : ℤ :=
  daysBeforeYear d.year + daysBeforeMonth d.year d.month + d.day - 1

/-- Whether the calendar has the date. -/
@[mk_iff] structure IsInCalendar (d : CalendarDate) : Prop where
  one_le_month : 1 ≤ d.month
  month_le : d.month ≤ 12
  one_le_day : 1 ≤ d.day
  day_le : d.day ≤ monthLength d.year d.month

instance (d : CalendarDate) : Decidable d.IsInCalendar :=
  decidable_of_iff _ (isInCalendar_iff d).symm

/-- Whether a date is earlier than another one: years count first, then months. -/
def Before (a b : CalendarDate) : Prop :=
  a.year < b.year ∨ a.year = b.year ∧ (a.month < b.month ∨ a.month = b.month ∧ a.day < b.day)

/-! ## Day counts of dates -/

theorem leapDays_cases (year : ℤ) :
    IsLeap year ∧ leapDays year = 1 ∨ ¬ IsLeap year ∧ leapDays year = 0 := by
  by_cases h : IsLeap year
  · exact Or.inl ⟨h, if_pos h⟩
  · exact Or.inr ⟨h, if_neg h⟩

theorem daysBeforeYear_succ (year : ℤ) :
    daysBeforeYear (year + 1) = daysBeforeYear year + 365 + leapDays year := by
  have hleap := leapDays_cases year
  unfold IsLeap at hleap
  unfold daysBeforeYear leapYearsTo
  omega

theorem daysBeforeYear_mono {m n : ℤ} (h : m ≤ n) : daysBeforeYear m ≤ daysBeforeYear n :=
  monotone_int_of_le_succ (fun year => by rw [daysBeforeYear_succ]; omega) h

theorem sum_monthLengths (year : ℤ) : (monthLengths year).sum = 365 + leapDays year := by
  simp only [monthLengths, List.sum_cons, List.sum_nil]
  omega

theorem monthLength_le (year : ℤ) (month : ℕ) : monthLength year month ≤ 31 := by
  have hleap := leapDays_cases year
  have hall : ∀ n ∈ monthLengths year, n ≤ 31 := fun n hn => by
    simp only [monthLengths, List.mem_cons, List.not_mem_nil, or_false] at hn
    omega
  rw [monthLength, List.getD_eq_getElem?_getD]
  cases h : (monthLengths year)[month - 1]? with
  | none => exact Nat.zero_le _
  | some n => exact hall n (List.mem_of_getElem? h)

theorem daysBeforeMonth_add (year : ℤ) {month : ℕ} (h : 1 ≤ month) :
    daysBeforeMonth year month + monthLength year month = daysBeforeMonth year (month + 1) := by
  obtain ⟨k, rfl⟩ := Nat.exists_eq_add_of_le' h
  simp only [daysBeforeMonth, monthLength, Nat.add_sub_cancel]
  rw [List.take_add_one, List.sum_append, List.getD_eq_getElem?_getD]
  cases (monthLengths year)[k]? <;> simp

theorem daysBeforeMonth_mono (year : ℤ) {m n : ℕ} (h : m ≤ n) :
    daysBeforeMonth year m ≤ daysBeforeMonth year n :=
  (monthLengths year).monotone_sum_take (Nat.sub_le_sub_right h 1)

theorem daysBeforeMonth_le (year : ℤ) {month : ℕ} (h : month ≤ 13) :
    daysBeforeMonth year month ≤ 365 + leapDays year :=
  sum_monthLengths year ▸ daysBeforeMonth_mono year h

namespace IsInCalendar

variable {a b : CalendarDate}

/-- A date is before the first day of the next month. -/
theorem days_lt_month (h : a.IsInCalendar) :
    a.days < daysBeforeYear a.year + daysBeforeMonth a.year (a.month + 1) := by
  have hmonth := daysBeforeMonth_add a.year h.one_le_month
  have hday := h.day_le
  unfold days
  omega

theorem days_lt_year (h : a.IsInCalendar) : a.days < daysBeforeYear (a.year + 1) := by
  have hmonth := h.days_lt_month
  have hyear := daysBeforeMonth_le a.year (Nat.add_le_add_right h.month_le 1)
  rw [daysBeforeYear_succ]
  omega

theorem month_le_days (h : a.IsInCalendar) :
    daysBeforeYear a.year + daysBeforeMonth a.year a.month ≤ a.days := by
  have hday := h.one_le_day
  unfold days
  omega

/-- **An earlier date has a smaller day count.** -/
theorem days_lt_days (ha : a.IsInCalendar) (hb : b.IsInCalendar) (h : a.Before b) :
    a.days < b.days := by
  obtain hyear | ⟨hyear, hmonth | ⟨hmonth, hday⟩⟩ := h
  · calc a.days < daysBeforeYear (a.year + 1) := ha.days_lt_year
      _ ≤ daysBeforeYear b.year := daysBeforeYear_mono hyear
      _ ≤ daysBeforeYear b.year + daysBeforeMonth b.year b.month := by omega
      _ ≤ b.days := hb.month_le_days
  · have hmono := daysBeforeMonth_mono a.year (Nat.add_one_le_of_lt hmonth)
    have hlow := ha.days_lt_month
    have hhigh := hb.month_le_days
    rw [← hyear] at hhigh
    omega
  · unfold days
    rw [hyear, hmonth]
    omega

end IsInCalendar

theorem before_or_eq_or_before (a b : CalendarDate) : a.Before b ∨ a = b ∨ b.Before a := by
  obtain ⟨year, month, day⟩ := a
  obtain ⟨year', month', day'⟩ := b
  simp only [Before, mk.injEq]
  omega

/-! ## Years that start on 1 March -/

/-- The date with the day `dayOfYear` of the year that starts on 1 March of `year`. -/
def ofMarch (year : ℤ) (dayOfYear : ℕ) : CalendarDate :=
  let month := monthOfYear dayOfYear
  { year := year + (if 10 ≤ month then 1 else 0)
    month := if month < 10 then month + 3 else month - 9
    day := dayOfYear - firstDayOfMonth month + 1 }

/-- The months from March to December have the lengths of the computation. -/
theorem monthLength_fromMarch {month : ℕ} (h : month < 10) (year : ℤ) :
    firstDayOfMonth month + monthLength year (month + 3) = firstDayOfMonth (month + 1) := by
  interval_cases month <;> rfl

/-- The months from March on start behind January and February. -/
theorem daysBeforeMonth_fromMarch {month : ℕ} (h : month < 10) (year : ℤ) :
    daysBeforeMonth year (month + 3) = 59 + leapDays year + firstDayOfMonth month := by
  induction month with
  | zero =>
    change 31 + (28 + leapDays year + 0) = 59 + leapDays year + 0
    omega
  | succ month ih =>
    have hlength := monthLength_fromMarch (Nat.lt_of_succ_lt h) year
    have hnext : daysBeforeMonth year (month + 3) + monthLength year (month + 3) =
        daysBeforeMonth year (month + 1 + 3) :=
      daysBeforeMonth_add year (Nat.le_add_left 1 (month + 2))
    rw [← hnext, ih (Nat.lt_of_succ_lt h), ← hlength, add_assoc]

/-- The year ends with the leap day, if the calendar has it, and 1 March is 306 days before
    the next January. -/
theorem ofMarch_spec {year : ℤ} {dayOfYear : ℕ} (h : dayOfYear < 365 + leapDays (year + 1)) :
    (ofMarch year dayOfYear).IsInCalendar ∧
      (ofMarch year dayOfYear).days = daysBeforeYear (year + 1) - 306 + dayOfYear := by
  have hleap := leapDays_cases (year + 1)
  have hyear := daysBeforeYear_succ year
  obtain ⟨month, hmonth⟩ : ∃ month, monthOfYear dayOfYear = month := ⟨_, rfl⟩
  obtain ⟨hfirst, hlast, hle⟩ : firstDayOfMonth month ≤ dayOfYear ∧
      dayOfYear < firstDayOfMonth (month + 1) ∧ month ≤ 11 := by
    unfold monthOfYear at hmonth
    unfold firstDayOfMonth
    omega
  rw [isInCalendar_iff]
  simp only [ofMarch, hmonth, days]
  -- January and February belong to the next year of the calendar
  obtain hmarch | rfl | rfl : month < 10 ∨ month = 10 ∨ month = 11 := by omega
  · have hlength := monthLength_fromMarch hmarch year
    have hbefore := daysBeforeMonth_fromMarch hmarch year
    rw [if_neg (not_le.2 hmarch), if_pos hmarch, add_zero]
    omega
  · have hlength : monthLength (year + 1) 1 = 31 := rfl
    have hbefore : daysBeforeMonth (year + 1) 1 = 0 := rfl
    have hbounds : firstDayOfMonth 10 = 306 ∧ dayOfYear < 337 := ⟨rfl, hlast⟩
    simp only [Nat.reduceLT, Nat.reduceLeDiff, Nat.reduceSub, if_true, if_false, true_and]
    omega
  · have hlength : monthLength (year + 1) 2 = 28 + leapDays (year + 1) := rfl
    have hbefore : daysBeforeMonth (year + 1) 2 = 31 := rfl
    have hbounds : firstDayOfMonth 11 = 337 := rfl
    simp only [Nat.reduceLT, Nat.reduceLeDiff, Nat.reduceSub, if_true, if_false, true_and]
    omega

/-! ## Eras -/

/-- A day of an era of 400 years, with the century, the four years in it, the year in
    these, and the day of the year.  A leap day ends the last of four years, but not the
    last of a century, unless this is the last of the era. -/
structure EraDay where
  century : ℕ
  four : ℕ
  year : ℕ
  dayOfYear : ℕ
  century_le : century ≤ 3
  four_le : four ≤ 24
  year_le : year ≤ 3
  dayOfYear_lt : dayOfYear < 365 ∨ dayOfYear = 365 ∧ year = 3 ∧ (four < 24 ∨ century = 3)

namespace EraDay

/-- The year of the era. -/
def yearOfEra (p : EraDay) : ℕ := 100 * p.century + 4 * p.four + p.year

theorem yearOfEra_lt (p : EraDay) : p.yearOfEra < 400 := by
  have hcentury := p.century_le
  have hfour := p.four_le
  have hyear := p.year_le
  unfold yearOfEra
  omega

/-- The day, counted from the start of the era. -/
def dayOfEra (p : EraDay) : ℕ := 36524 * p.century + 1461 * p.four + 365 * p.year + p.dayOfYear

theorem exists_dayOfEra {n : ℕ} (h : n < 146097) : ∃ p : EraDay, p.dayOfEra = n := by
  obtain ⟨century, dayOfCentury, hcentury, hlast, rfl⟩ : ∃ c d : ℕ, c ≤ 3 ∧
      (d < 36524 ∨ d = 36524 ∧ c = 3) ∧ n = 36524 * c + d :=
    ⟨min (n / 36524) 3, n - 36524 * min (n / 36524) 3, by omega, by omega, by omega⟩
  obtain ⟨year, dayOfYear, hyear, hleap, hday⟩ : ∃ y d : ℕ, y ≤ 3 ∧
      (d < 365 ∨ d = 365 ∧ y = 3) ∧ dayOfCentury % 1461 = 365 * y + d :=
    ⟨min (dayOfCentury % 1461 / 365) 3,
      dayOfCentury % 1461 - 365 * min (dayOfCentury % 1461 / 365) 3, by omega, by omega, by omega⟩
  refine ⟨⟨century, dayOfCentury / 1461, year, dayOfYear, hcentury, by omega, hyear, by omega⟩, ?_⟩
  change 36524 * century + 1461 * (dayOfCentury / 1461) + 365 * year + dayOfYear = _
  omega

/-- The days are made years of 365 days: a leap day is taken off where four years are full,
    and the leap days that centuries do not have are put back. -/
theorem yearOfEra_dayOfEra (p : EraDay) : CalendarDate.yearOfEra p.dayOfEra = p.yearOfEra := by
  obtain ⟨century, four, year, dayOfYear, hcentury, hfour, hyear, hday⟩ := p
  obtain ⟨n, hn⟩ : ∃ n, n = 36524 * century + 1461 * four + 365 * year + dayOfYear := ⟨_, rfl⟩
  obtain ⟨taken, htaken, hrest⟩ : ∃ t, n / 1460 = 25 * century + four + t ∧
      (t = 0 ∧ dayOfYear < 365 ∨ t = 1 ∧ 1 ≤ dayOfYear) :=
    ⟨n / 1460 - (25 * century + four), by omega, by omega⟩
  have hput : n / 36524 = century + n / 146096 := by
    have hfull : 1461 * four + 365 * year + dayOfYear < 36524 ∨
      century = 3 ∧ 1461 * four + 365 * year + dayOfYear = 36524 := by omega
    omega
  simp only [CalendarDate.yearOfEra, dayOfEra, yearOfEra]
  rw [← hn, htaken, hput]
  omega

theorem firstDay_add_dayOfYear (p : EraDay) :
    firstDay p.yearOfEra + p.dayOfYear = p.dayOfEra := by
  have hfour := p.four_le
  have hyear := p.year_le
  unfold firstDay yearOfEra dayOfEra
  omega

theorem dayOfYear_lt_leap (p : EraDay) : p.dayOfYear < 365 + leapDays (p.yearOfEra + 1) := by
  have hleap := leapDays_cases (p.yearOfEra + 1)
  have hfour := p.four_le
  have hyear := p.year_le
  have hday := p.dayOfYear_lt
  unfold IsLeap yearOfEra at hleap
  unfold yearOfEra
  omega

end EraDay

/-- Every era has the same leap years. -/
theorem leapDays_add (era year : ℤ) : leapDays (era * 400 + year) = leapDays year := by
  have hleap : IsLeap (era * 400 + year) ↔ IsLeap year := by
    unfold IsLeap
    omega
  simp only [leapDays, hleap]

theorem daysBeforeYear_add (era year : ℤ) :
    daysBeforeYear (era * 400 + year) = 146097 * era + daysBeforeYear year := by
  unfold daysBeforeYear leapYearsTo
  omega

/-- An era starts on a 1 March 306 days before its first January. -/
theorem daysBeforeYear_eq_firstDay {year : ℕ} (h : year < 400) :
    daysBeforeYear (year + 1) - 306 = firstDay year - 719468 := by
  unfold daysBeforeYear leapYearsTo firstDay
  omega

/-! ## The computed date -/

theorem ofDays_eq (n : ℤ) : ∃ (year : ℤ) (dayOfYear : ℕ), ofDays n = ofMarch year dayOfYear ∧
    dayOfYear < 365 + leapDays (year + 1) ∧ daysBeforeYear (year + 1) - 306 + dayOfYear = n := by
  have hpos : (0 : ℤ) ≤ 146097 := by decide
  obtain ⟨dayOfEra, hdayOfEra⟩ := Int.eq_ofNat_of_zero_le
    (Int.emod_nonneg (n + 719468) (by decide : (146097 : ℤ) ≠ 0))
  have hday : dayOfEra < 146097 := by omega
  obtain ⟨p, rfl⟩ := EraDay.exists_dayOfEra hday
  have hfirst := p.firstDay_add_dayOfYear
  refine ⟨(n + 719468) / 146097 * 400 + p.yearOfEra, p.dayOfYear, ?_, ?_, ?_⟩
  · simp only [ofDays, Int.fdiv_eq_ediv_of_nonneg _ hpos, Int.fmod_eq_emod_of_nonneg _ hpos,
      hdayOfEra, Int.toNat_natCast]
    rw [p.yearOfEra_dayOfEra, ← hfirst, Nat.add_sub_cancel_left]
    rfl
  · rw [add_assoc, leapDays_add]
    exact p.dayOfYear_lt_leap
  · have hyear := daysBeforeYear_eq_firstDay p.yearOfEra_lt
    rw [add_assoc, daysBeforeYear_add]
    omega

/-- **The computed date is one of the calendar.** -/
theorem isInCalendar_ofDays (n : ℤ) : (ofDays n).IsInCalendar := by
  obtain ⟨year, dayOfYear, heq, hday, -⟩ := ofDays_eq n
  exact heq ▸ (ofMarch_spec hday).1

/-- **The computed date has the day count that it is computed for.** -/
theorem days_ofDays (n : ℤ) : (ofDays n).days = n := by
  obtain ⟨year, dayOfYear, heq, hday, hn⟩ := ofDays_eq n
  rw [heq, (ofMarch_spec hday).2, hn]

theorem ofDays_before {m n : ℤ} (h : m < n) : (ofDays m).Before (ofDays n) := by
  obtain hbefore | heq | hafter := before_or_eq_or_before (ofDays m) (ofDays n)
  · exact hbefore
  · have hdays := congrArg days heq
    rw [days_ofDays, days_ofDays] at hdays
    omega
  · have hdays := (isInCalendar_ofDays n).days_lt_days (isInCalendar_ofDays m) hafter
    rw [days_ofDays, days_ofDays] at hdays
    omega

end QuerySql.CalendarDate
