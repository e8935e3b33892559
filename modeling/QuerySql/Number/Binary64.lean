/-
  Binary floating-point numbers of 64 bits, as exact integers.

  A `Binary64` is its bit pattern: a sign, 11 bits of exponent and 52 bits of
  fraction.  Everything here is computed with integers, so that the value of a
  number is never itself subject to rounding.

  * `magnitude` is the pattern without its sign; magnitudes are ordered as the
    absolute values they stand for, with infinity above the finite ones and
    the NaNs above infinity;
  * a finite number has the value `± significand * 2 ^ scale`;
  * `ofRatio` rounds a non-negative quotient to the nearest number, a tie to
    the even one, and a quotient that is too large to infinity;
  * `times` and `dividedBy` are the rounded product and quotient of finite numbers.
-/
namespace QuerySql

/-- A 64-bit floating-point number, given by its bits. -/
structure Binary64 where
  bits : UInt64
deriving DecidableEq, Inhabited

namespace Binary64

/-! ## Parts of a number -/

/-- The sign bit is set. -/
def isNegative (x : Binary64) : Bool := Nat.pow 2 63 ≤ x.bits.toNat

/-- The bits below the sign. -/
def magnitude (x : Binary64) : Nat := x.bits.toNat % Nat.pow 2 63

/-- The magnitude of the two infinities. -/
def infinityMagnitude : Nat := 0x7FF0000000000000

/-- Not a number: the magnitude is beyond that of the infinities. -/
def isNaN (x : Binary64) : Bool := infinityMagnitude < x.magnitude

/-- One of the two infinities. -/
def isInfinite (x : Binary64) : Bool := x.magnitude == infinityMagnitude

/-- A number: neither an infinity nor NaN. -/
def isFinite (x : Binary64) : Bool := x.magnitude < infinityMagnitude

/-- One of the two zeros. -/
def isZero (x : Binary64) : Bool := x.magnitude == 0

/-- The integer factor of the value.  Numbers with exponent field zero are
    **subnormal**: they lack the implicit leading bit. -/
def significand (x : Binary64) : Nat :=
  if x.magnitude / Nat.pow 2 52 = 0 then x.magnitude % Nat.pow 2 52
  else Nat.pow 2 52 + x.magnitude % Nat.pow 2 52

/-- The power of two of the value. -/
def scale (x : Binary64) : Int :=
  if x.magnitude / Nat.pow 2 52 = 0 then -1074 else (x.magnitude / Nat.pow 2 52 : Nat) - 1075

/-- The number with the given sign and magnitude. -/
def ofMagnitude (negative : Bool) (magnitude : Nat) : Binary64 :=
  ⟨UInt64.ofNat (if negative then Nat.pow 2 63 + magnitude else magnitude)⟩

/-- The number with the other sign. -/
def neg (x : Binary64) : Binary64 := ofMagnitude (!x.isNegative) x.magnitude

/-- NaN, as operations return it. -/
def nan : Binary64 := ⟨0x7FF8000000000000⟩

/-- The positive infinity. -/
def infinity : Binary64 := ofMagnitude false infinityMagnitude

/-- The negative infinity. -/
def negativeInfinity : Binary64 := ofMagnitude true infinityMagnitude

/-- Below or equal to zero; neither zero is below the other, and NaN is not. -/
def isAtMostZero (x : Binary64) : Bool := !x.isNaN && (x.isNegative || x.isZero)

/-! ## Rounding -/

/-- The integer nearest to `num / den`, of two the even one. -/
def nearestEven (num den : Nat) : Nat :=
  let q := num / den
  let twice := 2 * (num % den)
  if twice < den then q else if den < twice then q + 1 else q + q % 2

/-- The numerator and denominator of `num / den * 2 ^ (-e)`. -/
def scaledRatio (num den : Nat) (e : Int) : Nat × Nat :=
  (num * Nat.pow 2 (-e).toNat, den * Nat.pow 2 e.toNat)

/-- The least power of two, from -1074 up, that leaves `num / den` below `2 ^ 53`
    when it is divided out. -/
def scaleOfRatio (num den : Nat) : Int :=
  let e : Int := (num.log2 : Int) - den.log2 - 53
  let (n, d) := scaledRatio num den e
  max (-1074) (if n < d * Nat.pow 2 53 then e else e + 1)

/-- The magnitude of the number nearest to `num / den`. -/
def magnitudeOfRatio (num den : Nat) : Nat :=
  if num = 0 then 0
  else
    let e := scaleOfRatio num den
    let (n, d) := scaledRatio num den e
    min infinityMagnitude ((e + 1074).toNat * Nat.pow 2 52 + nearestEven n d)

/-- The number nearest to `num / den`, with the given sign. -/
def ofRatio (negative : Bool) (num den : Nat) : Binary64 :=
  ofMagnitude negative (magnitudeOfRatio num den)

/-- The number nearest to an integer. -/
def ofInt (n : Int) : Binary64 := ofRatio (n < 0) n.natAbs 1

/-! ## Arithmetic of finite numbers -/

/-- The absolute value of a finite number as numerator and denominator. -/
def ratio (x : Binary64) : Nat × Nat :=
  (x.significand * Nat.pow 2 x.scale.toNat, Nat.pow 2 (-x.scale).toNat)

/-- The product of two finite numbers, rounded. -/
def times (x y : Binary64) : Binary64 :=
  ofRatio (x.isNegative != y.isNegative) (x.ratio.1 * y.ratio.1) (x.ratio.2 * y.ratio.2)

/-- The quotient of a finite number by a finite number other than zero, rounded. -/
def dividedBy (x y : Binary64) : Binary64 :=
  ofRatio (x.isNegative != y.isNegative) (x.ratio.1 * y.ratio.2) (x.ratio.2 * y.ratio.1)

/-- The natural number that a finite number is equal to, if there is one. -/
def natural? (x : Binary64) : Option Nat :=
  let (num, den) := x.ratio
  if x.isFinite && (!x.isNegative || x.isZero) && num % den == 0 then some (num / den) else none

end Binary64

end QuerySql
