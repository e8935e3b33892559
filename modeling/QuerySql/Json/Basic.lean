/-
  JSON values, numerals of JSON text and the numbers they denote.

  A `Json` value tells integers from floating-point numbers: a numeral without
  fraction and exponent that fits 64 bits, with or without a sign, is an
  `integer`, any other number a `float`.  The entries of an object are in the
  order of the text and have distinct keys.

  * `Numeral.ofChars?` reads a numeral by the grammar of JSON: an optional
    minus sign, digits without a superfluous leading zero, and optionally a
    fraction and an exponent, each with at least one digit;
  * `Numeral.value?` is its number, `none` if that is too large.

  A numeral without fraction and exponent whose value fits 64 bits is an
  integer; `-0` is a float.  Any other numeral denotes a float, in two steps
  that each round once: the leading digits that fit 64 bits form a
  **significand**, and this, as a float, is multiplied or divided by a power of
  ten.  Digits after the significand only count towards the power of ten.  So
  the float may differ in its last place from the one nearest to the numeral.
-/
import QuerySql.Number.Binary64
import QuerySql.Entries
import QuerySql.Number.Decimal

namespace QuerySql

/-- A JSON value. -/
inductive Json where
  | null
  | bool (b : Bool)
  /-- an integer from `-2 ^ 63` to `2 ^ 64 - 1` -/
  | integer (n : Int)
  /-- a finite number -/
  | float (x : Binary64)
  | string (text : String)
  | array (items : List Json)
  | object (entries : List (String × Json))
deriving Inhabited

namespace Json

/-- A numeral, as it is written. -/
structure Numeral where
  negative : Bool
  whole : List Char
  /-- the digits after the point -/
  fraction : Option (List Char)
  /-- the sign (`true` for minus) and the digits of the exponent -/
  exponent : Option (Bool × List Char)
deriving DecidableEq, Repr

namespace Numeral

/-! ## Grammar -/

/-- Digits, at least one, with what follows them. -/
def digits? (cs : List Char) : Option (List Char × List Char) :=
  match cs.takeWhile Char.isDigit with
  | [] => none
  | ds => some (ds, cs.dropWhile Char.isDigit)

/-- The digits before the point: `0` alone, or digits that do not start with it. -/
def whole? (cs : List Char) : Option (List Char × List Char) :=
  match cs with
  | '0' :: rest => some (['0'], rest)
  | _ => digits? cs

/-- An optional fraction. -/
def fraction? (cs : List Char) : Option (Option (List Char) × List Char) :=
  match cs with
  | '.' :: rest => (digits? rest).map fun (ds, rest) => (some ds, rest)
  | _ => some (none, cs)

/-- An optional exponent, which ends the numeral. -/
def exponent? (cs : List Char) : Option (Option (Bool × List Char)) :=
  match cs with
  | [] => some none
  | e :: rest =>
    if e = 'e' ∨ e = 'E' then
      let (negative, rest) := match rest with
        | '+' :: rest => (false, rest)
        | '-' :: rest => (true, rest)
        | _ => (false, rest)
      match digits? rest with
      | some (ds, []) => some (some (negative, ds))
      | _ => none
    else none

/-- The numeral that `cs` is the text of. -/
def ofChars? (cs : List Char) : Option Numeral := do
  let (negative, rest) := match cs with
    | '-' :: rest => (true, rest)
    | _ => (false, cs)
  let (whole, rest) ← whole? rest
  let (fraction, rest) ← fraction? rest
  let exponent ← exponent? rest
  return { negative, whole, fraction, exponent }

/-! ## Value -/

/-- Appends digits to a number as long as it stays below `2 ^ 64`, and returns
    it with the digits that are left. -/
def extend : Nat → List Char → Nat × List Char
  | n, [] => (n, [])
  | n, d :: ds =>
    let next := 10 * n + Number.digitValue d
    if next < Nat.pow 2 64 then extend next ds else (n, d :: ds)

/-- The power of ten, rounded. -/
def powerOfTen (e : Nat) : Binary64 := .ofRatio false (Nat.pow 10 e) 1

/-- `significand * 10 ^ e`, rounded after each step; `none` if it is too large.
    A quotient by more than `10 ^ 308` is taken in two steps, and one by more
    than `10 ^ 616` is zero. -/
def scaled? (significand : Nat) (e : Int) : Option Binary64 :=
  let f := Binary64.ofInt significand
  if significand = 0 then some f
  else if 308 < e then none
  else if 0 ≤ e then
    let product := f.times (powerOfTen e.toNat)
    if product.isFinite then some product else none
  else if -308 ≤ e then some (f.dividedBy (powerOfTen (-e).toNat))
  else if -616 ≤ e then
    some ((f.dividedBy (powerOfTen 308)).dividedBy (powerOfTen (-e - 308).toNat))
  else some (.ofRatio false 0 1)

/-- The significand of a numeral and its power of ten. -/
def parts (n : Numeral) : Nat × Int :=
  let (lead, dropped) := extend 0 n.whole
  let fraction := n.fraction.getD []
  let (significand, ignored) := extend lead fraction
  let exponent : Int := match n.exponent with
    | none => 0
    | some (true, ds) => -(Number.digitsValue ds : Nat)
    | some (false, ds) => Number.digitsValue ds
  (significand, dropped.length - (fraction.length - ignored.length : Nat) + exponent)

/-- The float that a numeral denotes. -/
def float? (n : Numeral) : Option Binary64 :=
  let (significand, e) := n.parts
  (scaled? significand e).map fun x => if n.negative then x.neg else x

/-- The integer that a numeral denotes, if it has neither fraction nor exponent
    and its value fits 64 bits. -/
def integer? (n : Numeral) : Option Int :=
  match n.fraction, n.exponent with
  | none, none =>
    let m := Number.digitsValue n.whole
    if n.negative then
      if 0 < m ∧ m ≤ Nat.pow 2 63 then some (-m) else none
    else if m < Nat.pow 2 64 then some m else none
  | _, _ => none

/-- The number that a numeral denotes. -/
def value? (n : Numeral) : Option Json :=
  match n.integer? with
  | some m => some (.integer m)
  | none => n.float?.map .float

end Numeral

end Json

end QuerySql
