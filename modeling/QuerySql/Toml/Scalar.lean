/-
  Numbers, truth values, dates and times of TOML.

  `isScalar` decides whether the characters of a word are one of them.  Digits
  may be grouped by single underscores.  Integers fit 64 bits with sign; a
  float above the largest one is refused, except with a minus sign.  Dates must
  exist, and a clock shows at most second 60.
-/
import QuerySql.Number.Binary64
import QuerySql.Number.Decimal

namespace QuerySql.Toml

/-! ## Numbers -/

/-- Digits of the given kind, with single underscores between them. -/
def groupedDigits (isDigit : Char → Bool) : List Char → Bool
  | [] => false
  | [c] => isDigit c
  | c :: '_' :: rest => isDigit c && groupedDigits isDigit rest
  | c :: rest => isDigit c && groupedDigits isDigit rest

/-- The digits without the underscores between them. -/
def ungrouped (cs : List Char) : List Char := cs.filter (· ≠ '_')

/-- Decimal digits that start with zero only if they are zero. -/
def isWhole : List Char → Bool
  | ['0'] => true
  | '0' :: _ => false
  | cs => groupedDigits Char.isDigit cs

/-- A sign that may stand before a number: whether it is a minus, and the rest. -/
def sign : List Char → Bool × List Char
  | '-' :: rest => (true, rest)
  | '+' :: rest => (false, rest)
  | cs => (false, cs)

/-- A hexadecimal digit in either case. -/
def isHexDigit (c : Char) : Bool :=
  c.isDigit || ('a' ≤ c && c ≤ 'f') || ('A' ≤ c && c ≤ 'F')

/-- A digit from 0 to 7. -/
def isOctalDigit (c : Char) : Bool := '0' ≤ c && c ≤ '7'

/-- The digit 0 or 1. -/
def isBinaryDigit (c : Char) : Bool := c == '0' || c == '1'

/-- The value of a digit in any base up to 16. -/
def digitValue (c : Char) : Nat :=
  if c.isDigit then c.toNat - '0'.toNat
  else if 'a' ≤ c then c.toNat - 'a'.toNat + 10
  else c.toNat - 'A'.toNat + 10

/-- The number that digits denote in a base. -/
def valueIn (base : Nat) (cs : List Char) : Nat :=
  cs.foldl (fun n c => base * n + digitValue c) 0

/-- An integer that fits 64 bits with sign. -/
def isInteger (cs : List Char) : Bool :=
  match cs with
  | '0' :: 'x' :: ds => groupedDigits isHexDigit ds && valueIn 16 (ungrouped ds) < Nat.pow 2 63
  | '0' :: 'o' :: ds => groupedDigits isOctalDigit ds && valueIn 8 (ungrouped ds) < Nat.pow 2 63
  | '0' :: 'b' :: ds => groupedDigits isBinaryDigit ds && valueIn 2 (ungrouped ds) < Nat.pow 2 63
  | cs =>
    let (negative, ds) := sign cs
    let n := valueIn 10 (ungrouped ds)
    isWhole ds && (if negative then n ≤ Nat.pow 2 63 else n < Nat.pow 2 63)

/-- `digits * 10 ^ exponent` rounds to infinity.  The number of digits settles
    all but the numbers near the largest float. -/
def overflows (digits : List Char) (exponent : Int) : Bool :=
  let digits := digits.dropWhile (· == '0')
  let leading : Int := digits.length + exponent
  if digits.isEmpty || leading < 309 then false
  else if 309 < leading then true
  else
    let n := valueIn 10 digits
    (Binary64.ofRatio false (n * Nat.pow 10 exponent.toNat)
      (Nat.pow 10 (-exponent).toNat)).isInfinite

/-- The parts of a float: the digits before the point, those after it, and the
    exponent.  A part that is missing is `none`. -/
def floatParts (cs : List Char) : List Char × Option (List Char) × Option (List Char) :=
  let isExponent (c : Char) : Bool := c == 'e' || c == 'E'
  let mantissa := cs.takeWhile fun c => !isExponent c
  let exponent := (cs.dropWhile fun c => !isExponent c).tail?
  (mantissa.takeWhile (· ≠ '.'), (mantissa.dropWhile (· ≠ '.')).tail?, exponent)

/-- A float with a fraction or an exponent. -/
def isFloat (cs : List Char) : Bool :=
  let (negative, rest) := sign cs
  let (whole, fraction, exponent) := floatParts rest
  let (negativeExponent, exponentDigits) := sign (exponent.getD [])
  let e : Int := valueIn 10 (ungrouped exponentDigits)
  let fractionDigits := ungrouped (fraction.getD [])
  let scale := (if negativeExponent then -e else e) - fractionDigits.length
  isWhole whole
    && (fraction.isSome || exponent.isSome)
    && fraction.all (groupedDigits Char.isDigit)
    && (exponent.isNone || groupedDigits Char.isDigit exponentDigits)
    && (negative || !overflows (ungrouped whole ++ fractionDigits) scale)

/-- Infinity or not a number, with or without a sign. -/
def isSpecialFloat (cs : List Char) : Bool :=
  let (_, rest) := sign cs
  rest == ['i', 'n', 'f'] || rest == ['n', 'a', 'n']

/-! ## Dates and times -/

/-- The number that two digits denote. -/
def twoDigits? (a b : Char) : Option Nat :=
  if a.isDigit && b.isDigit then some (10 * digitValue a + digitValue b) else none

/-- The number of days of a month. -/
def daysOfMonth (year month : Nat) : Nat :=
  if month = 2 then
    if year % 4 = 0 ∧ (year % 100 ≠ 0 ∨ year % 400 = 0) then 29 else 28
  else if month = 4 ∨ month = 6 ∨ month = 9 ∨ month = 11 then 30
  else 31

/-- A date, `1979-05-27`. -/
def isDate : List Char → Bool
  | [y₁, y₂, y₃, y₄, '-', m₁, m₂, '-', d₁, d₂] =>
    match twoDigits? y₁ y₂, twoDigits? y₃ y₄, twoDigits? m₁ m₂, twoDigits? d₁ d₂ with
    | some century, some year, some month, some day =>
      1 ≤ month && month ≤ 12 && 1 ≤ day && day ≤ daysOfMonth (100 * century + year) month
    | _, _, _, _ => false
  | _ => false

/-- An hour and a minute. -/
def isClock (h₁ h₂ m₁ m₂ : Char) : Bool :=
  match twoDigits? h₁ h₂, twoDigits? m₁ m₂ with
  | some hour, some minute => hour ≤ 23 && minute ≤ 59
  | _, _ => false

/-- The distance of a zone from UTC. -/
def isOffset : List Char → Bool
  | ['Z'] | ['z'] => true
  | [s, h₁, h₂, ':', m₁, m₂] => (s == '+' || s == '-') && isClock h₁ h₂ m₁ m₂
  | _ => false

/-- The part of a time behind the seconds: an optional fraction, and an optional
    zone if there may be one. -/
def isTimeEnd (zoned : Bool) (cs : List Char) : Bool :=
  let rest? := match cs with
    | '.' :: c :: rest => if c.isDigit then some (rest.dropWhile Char.isDigit) else none
    | '.' :: [] => none
    | cs => some cs
  match rest? with
  | some [] => true
  | some rest => zoned && isOffset rest
  | none => false

/-- A time, `07:32:00`. -/
def isTime (zoned : Bool) : List Char → Bool
  | h₁ :: h₂ :: ':' :: m₁ :: m₂ :: ':' :: s₁ :: s₂ :: rest =>
    isClock h₁ h₂ m₁ m₂ && (twoDigits? s₁ s₂).any (· ≤ 60) && isTimeEnd zoned rest
  | _ => false

/-- A date followed by a time, with a letter between them. -/
def isDateTime (cs : List Char) : Bool :=
  match cs.drop 10 with
  | t :: time => isDate (cs.take 10) && (t == 'T' || t == 't') && isTime true time
  | [] => false

/-! ## Scalars -/

/-- A number, a truth value, a date or a time. -/
def isScalar (cs : List Char) : Bool :=
  cs == ['t', 'r', 'u', 'e'] || cs == ['f', 'a', 'l', 's', 'e'] || isSpecialFloat cs
    || isInteger cs || isFloat cs || isDate cs || isTime false cs || isDateTime cs

/-- The characters that words are made of. -/
def isWordChar (c : Char) : Bool :=
  c.isAlphanum || c == '+' || c == '-' || c == '_' || c == '.' || c == ':'

/-- Passes over a scalar.  A space may stand between a date and a time. -/
def skipScalar? (cs : List Char) : Option (List Char) :=
  let word := cs.takeWhile isWordChar
  let rest := cs.dropWhile isWordChar
  match rest with
  | ' ' :: next =>
    let time := next.takeWhile isWordChar
    if isDate word && !time.isEmpty then
      if isTime true time then some (next.dropWhile isWordChar) else none
    else if isScalar word then some rest else none
  | _ => if isScalar word then some rest else none

end QuerySql.Toml
