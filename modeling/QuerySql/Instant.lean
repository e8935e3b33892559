/-
  Points in time and their texts.

  An `Instant` counts the seconds since the start of 1970 (UTC) and, from the
  start of that second, nanoseconds.  With nanoseconds from `10 ^ 9` up the clock
  shows one second more than it does without them: behind second 59 this is second
  60, a **leap second**, and behind any other second it is the next one.

  * `CalendarDate.ofDays` is the date of the proleptic Gregorian calendar,
    `days` days after 1 January 1970;
  * `Instant.sqlText` is the SQL text, to the microsecond;
  * `Instant.jsonText` is the text inside JSON, to the millisecond, with the
    zone `Z`.  Both cut finer digits off.

  The calendar is computed in eras of 400 years, 146097 days each, that start
  on 1 March; a leap day is then the last day of its year.
-/
import QuerySql.Number.Decimal

namespace QuerySql

/-- A point in time, in UTC. -/
structure Instant where
  /-- seconds since the start of 1970 -/
  seconds : Int
  /-- nanoseconds since the start of that second, whichever it is, below `2 * 10 ^ 9` -/
  nanoseconds : Nat
deriving DecidableEq, Repr

/-- A date of the Gregorian calendar. -/
structure CalendarDate where
  year : Int
  month : Nat
  day : Nat
deriving DecidableEq, Repr

namespace CalendarDate

/-- The year of an era, from 0 to 399, that holds its day `dayOfEra`. -/
def yearOfEra (dayOfEra : Nat) : Nat :=
  (dayOfEra - dayOfEra / 1460 + dayOfEra / 36524 - dayOfEra / 146096) / 365

/-- The first day of the year `yearOfEra`, counted from the start of its era. -/
def firstDay (yearOfEra : Nat) : Nat :=
  365 * yearOfEra + yearOfEra / 4 - yearOfEra / 100

/-- The month, counted from March as 0, that holds the day `dayOfYear`. -/
def monthOfYear (dayOfYear : Nat) : Nat := (5 * dayOfYear + 2) / 153

/-- The first day of a month counted from March as 0. -/
def firstDayOfMonth (month : Nat) : Nat := (153 * month + 2) / 5

/-- The date `days` days after 1 January 1970. -/
def ofDays (days : Int) : CalendarDate :=
  let shifted := days + 719468
  let era := Int.fdiv shifted 146097
  let dayOfEra := (Int.fmod shifted 146097).toNat
  let year := yearOfEra dayOfEra
  let dayOfYear := dayOfEra - firstDay year
  let month := monthOfYear dayOfYear
  { year := era * 400 + year + (if 10 ≤ month then 1 else 0)
    month := if month < 10 then month + 3 else month - 9
    day := dayOfYear - firstDayOfMonth month + 1 }

end CalendarDate

namespace Instant

/-- The date on which the instant falls. -/
def date (i : Instant) : CalendarDate := .ofDays (Int.fdiv i.seconds 86400)

/-- The second of the day, from 0 to 86399. -/
def secondOfDay (i : Instant) : Nat := (Int.fmod i.seconds 86400).toNat

/-- The hour that the clock shows, from 0 to 23. -/
def hour (i : Instant) : Nat := i.secondOfDay / 3600

/-- The minute that the clock shows, from 0 to 59. -/
def minute (i : Instant) : Nat := i.secondOfDay / 60 % 60

/-- The second that the clock shows: one more from `10 ^ 9` nanoseconds on, so 60 behind
    second 59 and 5 behind second 4. -/
def second (i : Instant) : Nat := i.secondOfDay % 60 + i.nanoseconds / Nat.pow 10 9

/-- The nanoseconds that the clock shows. -/
def fraction (i : Instant) : Nat := i.nanoseconds % Nat.pow 10 9

/-! ## Texts -/

/-- A year in four digits, with a sign if it is not one of 0 to 9999. -/
def yearText (year : Int) : List Char :=
  if year < 0 then '-' :: Number.padded 4 year.natAbs
  else if 9999 < year then '+' :: Number.padded 4 year.natAbs
  else Number.padded 4 year.natAbs

/-- Date and time to the second, `2024-03-07T04:05:06`. -/
def secondText (i : Instant) : List Char :=
  yearText i.date.year ++ '-' :: Number.padded 2 i.date.month ++ '-' :: Number.padded 2 i.date.day
    ++ 'T' :: Number.padded 2 i.hour ++ ':' :: Number.padded 2 i.minute
    ++ ':' :: Number.padded 2 i.second

/-- Date and time to the microsecond, as SQL reads them. -/
def sqlText (i : Instant) : String :=
  String.ofList (i.secondText ++ '.' :: Number.padded 6 (i.fraction / 1000))

/-- Date and time to the millisecond, with the zone, as they stand in JSON. -/
def jsonText (i : Instant) : String :=
  String.ofList (i.secondText ++ '.' :: Number.padded 3 (i.fraction / Nat.pow 10 6) ++ ['Z'])

end Instant

end QuerySql
