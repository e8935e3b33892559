/-
  Decimal numerals of integers and of binary floating-point numbers.

  * `digits n` are the decimal digits of a natural number, without leading
    zeros (`digits 0` is `0`), and `natText` is the same as a text;
  * `intText` puts a minus sign before the digits of a negative integer;
  * `padded w n` has at least `w` digits, leading zeros first;
  * `digitsValue` reads digits back;
  * `Binary64.shortest` is the decimal with the fewest digits among those that
    round to the given number, and of several with that many digits the
    nearest.  A `Tie` decides between two that are equally near;
  * `Decimal.positional` and `Decimal.scientific` are its two written forms,
    `120000` and `1.2e+5`.

  The search goes through the decimal grids, the coarsest first.  On the grid
  of the multiples of `10 ^ k` only the two neighbours of the number can be
  among the nearest points that round to it, so each step looks at these two.
  The last grid holds the number itself (`2 ^ -q` divides `10 ^ -q`), so the
  search always ends with a hit.
-/
import QuerySql.Number.Binary64

namespace QuerySql.Number

/-! ## Digits -/

/-- The decimal digits of `n`. -/
def digits (n : Nat) : List Char := Nat.toDigits 10 n

/-- The decimal text of `n`. -/
def natText (n : Nat) : String := String.ofList (digits n)

/-- The decimal text of `n`, with a minus sign for a negative integer. -/
def intText (n : Int) : String :=
  if n < 0 then "-" ++ natText n.natAbs else natText n.natAbs

/-- The digits of `n` after as many zeros as make them `width` digits long. -/
def padded (width n : Nat) : List Char :=
  List.replicate (width - (digits n).length) '0' ++ digits n

/-- The value of one decimal digit. -/
def digitValue (c : Char) : Nat := c.toNat - '0'.toNat

/-- The number that the digits `cs` denote. -/
def digitsValue (cs : List Char) : Nat := cs.foldl (fun n c => 10 * n + digitValue c) 0

@[simp] theorem toList_natText (n : Nat) : (natText n).toList = digits n := by
  simp [natText]

theorem isDigit_of_mem_digits {n : Nat} {c : Char} (h : c ∈ digits n) : c.isDigit = true :=
  Nat.isDigit_of_mem_toDigits (by decide) (by decide) h

theorem digits_ne_nil (n : Nat) : digits n ≠ [] := Nat.toDigits_ne_nil

end QuerySql.Number

namespace QuerySql

/-- The number `digits * 10 ^ exponent`. -/
structure Decimal where
  digits : Nat
  exponent : Int
deriving DecidableEq, Repr

/-! ## Shortest decimals -/

/-- Which of two equally near decimals is taken. -/
inductive Tie where
  /-- the larger one -/
  | up
  /-- the one with an even last digit -/
  | even
deriving DecidableEq, Repr

/-- A positive number between the bounds of the reals that round to it, all
    three in the same unit `2 ^ unit`. -/
structure RoundingInterval where
  low : Nat
  value : Nat
  high : Nat
  unit : Int
  /-- the bounds themselves round to the number -/
  closed : Bool
deriving DecidableEq, Repr

/-- The reals that round to `x`, in quarters of the unit of its last place.
    The lower bound is nearer where the unit changes, at a power of two. -/
def Binary64.roundingInterval (x : Binary64) : RoundingInterval where
  low := 4 * x.significand - (if x.significand = Nat.pow 2 52 ∧ -1074 < x.scale then 1 else 2)
  value := 4 * x.significand
  high := 4 * x.significand + 2
  unit := x.scale - 2
  closed := x.significand % 2 == 0

namespace RoundingInterval

variable (r : RoundingInterval)

/-- The factor that turns multiples of `10 ^ k` into the unit that they have in
    common with the bounds. -/
def gridFactor (k : Int) : Nat := Nat.pow 10 k.toNat * Nat.pow 2 (-r.unit).toNat

/-- The factor that turns the bounds into that common unit. -/
def boundFactor (k : Int) : Nat := Nat.pow 2 r.unit.toNat * Nat.pow 10 (-k).toNat

/-- `c * 10 ^ k` rounds to the number. -/
def holds (k : Int) (c : Nat) : Bool :=
  let point := c * r.gridFactor k
  let low := r.low * r.boundFactor k
  let high := r.high * r.boundFactor k
  if r.closed then low ≤ point && point ≤ high else low < point && point < high

/-- The neighbour of the number on the grid of the multiples of `10 ^ k` that
    rounds to it, the nearer one if both do. -/
def onGrid? (tie : Tie) (k : Int) : Option Nat :=
  let value := r.value * r.boundFactor k
  let below := value / r.gridFactor k
  let rest := value % r.gridFactor k
  match r.holds k below, r.holds k (below + 1) with
  | false, false => none
  | true, false => some below
  | false, true => some (below + 1)
  | true, true =>
    if 2 * rest < r.gridFactor k then some below
    else if r.gridFactor k < 2 * rest then some (below + 1)
    else match tie with
      | .up => some (below + 1)
      | .even => some (below + below % 2)

/-- Searches `steps` grids, `10 ^ k` first and each ten times as fine as the
    one before; below them the grid that holds the number itself. -/
def search (tie : Tie) : Nat → Int → Decimal
  | 0, k => ⟨r.value * r.boundFactor k / r.gridFactor k, k⟩
  | steps + 1, k =>
    match r.onGrid? tie k with
    | some c => ⟨c, k⟩
    | none => search tie steps (k - 1)

end RoundingInterval

/-- An exponent of ten beyond that of the finite number `x`: a bound on the
    binary digits of its value, times a bound on the decimal logarithm of two. -/
def Binary64.decimalBound (x : Binary64) : Int :=
  Int.fdiv ((x.significand.log2 + 1 + x.scale) * 30103) 100000 + 1

/-- The shortest decimal that rounds to the absolute value of `x`, a finite
    number other than zero. -/
def Binary64.shortest (tie : Tie) (x : Binary64) : Decimal :=
  let first := x.decimalBound
  x.roundingInterval.search tie (first - min 0 (x.scale - 2)).toNat first

/-! ## Written forms -/

namespace Decimal

variable (d : Decimal)

/-- The number of digits before the decimal point, negative if zeros follow it. -/
def pointPosition : Int := (Number.digits d.digits).length + d.exponent

/-- The exponent of the first digit. -/
def leadingExponent : Int := d.pointPosition - 1

/-- Written without an exponent: `120000`, `0.0012`, `1.2`. -/
def positional : List Char :=
  let ds := Number.digits d.digits
  if 0 ≤ d.exponent then ds ++ List.replicate d.exponent.toNat '0'
  else if 0 < d.pointPosition then
    ds.take d.pointPosition.toNat ++ '.' :: ds.drop d.pointPosition.toNat
  else '0' :: '.' :: (List.replicate (-d.pointPosition).toNat '0' ++ ds)

/-- Written with one digit before the point and a signed exponent: `1.2e+5`. -/
def scientific : List Char :=
  let mantissa := match Number.digits d.digits with
    | [] => []
    | [c] => [c]
    | c :: cs => c :: '.' :: cs
  let sign := if d.leadingExponent < 0 then '-' else '+'
  mantissa ++ 'e' :: sign :: Number.digits d.leadingExponent.natAbs

end Decimal

end QuerySql
