/-
  What numerals denote, and float texts read back.

  `Numeral.rational` is the number that a numeral denotes, exactly.  A decimal denotes
  the same in both of its written forms (`unsignedRational_ofPositional`,
  `unsignedRational_ofScientific`), so what a finite float is written as denotes its
  shortest decimal, with its sign.  That number rounds to the float, which gives the
  main result: the text of a float is read back as it, and tells it from every other
  float but the other zero (`numberText_reads_back`).
-/
import QuerySql.Proofs.Number.Digits
import QuerySql.Proofs.Number.Numeral
import QuerySql.Proofs.Number.ReadBack

namespace QuerySql

open Json (Numeral)

/-! ## Numerals -/

namespace Json.Numeral

/-- The digits behind the point. -/
def fractionDigits (n : Numeral) : List Char := n.fraction.getD []

/-- The exponent with its sign, zero if there is none. -/
def exponentValue (n : Numeral) : ℤ :=
  match n.exponent with
  | none => 0
  | some (negative, ds) =>
    if negative then -(Number.digitsValue ds : ℤ) else Number.digitsValue ds

/-- The number that a numeral denotes, without its sign. -/
def unsignedRational (n : Numeral) : ℚ :=
  (Number.digitsValue n.whole +
    Number.digitsValue n.fractionDigits / 10 ^ n.fractionDigits.length) * 10 ^ n.exponentValue

/-- The number that a numeral denotes. -/
def rational (n : Numeral) : ℚ := if n.negative then -n.unsignedRational else n.unsignedRational

/-- The digits on both sides of the point form one integer. -/
theorem unsignedRational_eq (n : Numeral) : n.unsignedRational =
    Number.digitsValue (n.whole ++ n.fractionDigits) *
      10 ^ (n.exponentValue - n.fractionDigits.length) := by
  rw [unsignedRational, Number.digitsValue_append, zpow_sub₀ (by norm_num), zpow_natCast]
  push_cast
  field_simp

/-- A numeral denotes a decimal if its digits and its last place are those of it. -/
theorem unsignedRational_eq_value {n : Numeral} {d : Decimal}
    (hdigits : Number.digitsValue (n.whole ++ n.fractionDigits) = d.digits)
    (hexponent : n.exponentValue - n.fractionDigits.length = d.exponent) :
    n.unsignedRational = d.value := by
  rw [unsignedRational_eq, hdigits, hexponent, Decimal.value]

/-- The numeral of an integer denotes the integer. -/
theorem rational_ofInt (m : ℤ) : (ofInt m).rational = m := by
  have hunsigned : (ofInt m).unsignedRational = |(m : ℚ)| := by
    rw [unsignedRational_eq, ← Int.cast_abs, ← Nat.cast_natAbs]
    simp [ofInt, fractionDigits, exponentValue]
  rw [rational, hunsigned]
  by_cases hm : m < 0
  · have hcast : (m : ℚ) < 0 := by exact_mod_cast hm
    rw [ofInt, decide_eq_true hm, if_pos rfl, abs_of_neg hcast, neg_neg]
  · have hcast : (0 : ℚ) ≤ m := by exact_mod_cast not_lt.1 hm
    rw [ofInt, decide_eq_false hm, if_neg Bool.false_ne_true, abs_of_nonneg hcast]

theorem unsignedRational_ofPositional (d : Decimal) :
    (ofPositional d).unsignedRational = d.value := by
  have hposition : d.pointPosition = (Number.digits d.digits).length + d.exponent := rfl
  unfold ofPositional
  split_ifs with hexponent hpoint
  · obtain ⟨k, hk⟩ := Int.eq_ofNat_of_zero_le hexponent
    have hdigits : Number.digitsValue (Number.digits d.digits ++ List.replicate k '0') =
        d.digits * 10 ^ k := by
      rw [Number.digitsValue_append, Number.digitsValue_zeros, Number.digitsValue_digits,
        List.length_replicate, Nat.add_zero]
    rw [unsignedRational_eq, Decimal.value, hk]
    simp [fractionDigits, exponentValue, hdigits]
  · refine unsignedRational_eq_value ?_ ?_
    · rw [fractionDigits, Option.getD_some, List.take_append_drop, Number.digitsValue_digits]
    · simp only [exponentValue, fractionDigits, Option.getD_some, List.length_drop]
      omega
  · refine unsignedRational_eq_value ?_ ?_
    · have hzeros : ['0'] = List.replicate 1 '0' := rfl
      rw [fractionDigits, Option.getD_some, hzeros, Number.digitsValue_append,
        Number.digitsValue_append, Number.digitsValue_zeros, Number.digitsValue_zeros,
        Number.digitsValue_digits]
      ring
    · simp only [exponentValue, fractionDigits, Option.getD_some, List.length_append,
        List.length_replicate]
      omega

theorem unsignedRational_ofScientific (d : Decimal) :
    (ofScientific d).unsignedRational = d.value := by
  obtain ⟨c, cs, hcs⟩ := List.exists_cons_of_ne_nil (Number.digits_ne_nil d.digits)
  have hposition : d.leadingExponent = (Number.digits d.digits).length + d.exponent - 1 := rfl
  have hfraction : (ofScientific d).fractionDigits = cs := by
    simp only [fractionDigits, ofScientific, hcs]
    cases cs <;> rfl
  have hexponent : (ofScientific d).exponentValue = d.leadingExponent := by
    simp only [exponentValue, ofScientific, decide_eq_true_eq, Number.digitsValue_digits]
    split <;> omega
  refine unsignedRational_eq_value ?_ ?_
  · rw [hfraction, ofScientific, hcs]
    exact (congrArg _ hcs.symm).trans (Number.digitsValue_digits _)
  · rw [hfraction, hexponent, hposition, hcs, List.length_cons]
    push_cast
    ring

end Json.Numeral

/-! ## Floats -/

namespace Binary64

variable {x : Binary64}

theorem unsignedRational_unsignedNumeral (x : Binary64) :
    x.unsignedNumeral.unsignedRational = (x.shortest .up).value := by
  unfold unsignedNumeral
  split
  · exact Numeral.unsignedRational_ofScientific _
  · exact Numeral.unsignedRational_ofPositional _

/-- The number that a float is written as, for one other than zero. -/
theorem rational_numeral (h : x.isZero = false) : x.numeral.rational =
    if x.isNegative then -(x.shortest .up).value else (x.shortest .up).value := by
  rw [← unsignedRational_unsignedNumeral, numeral, h, if_neg Bool.false_ne_true]
  rfl

theorem rational_numeral_of_isZero (h : x.isZero = true) : x.numeral.rational = 0 := by
  rw [numeral, if_pos h, Numeral.rational_ofInt, Int.cast_zero]

/-- **What a float is written as is nearest to it.** -/
theorem isNearest_numeral (x : Binary64) : IsNearest |x.numeral.rational| x.magnitude ∧
    (x.isZero = true ∨ x.isNegative = decide (x.numeral.rational < 0)) := by
  cases hzero : x.isZero with
  | true =>
    rw [rational_numeral_of_isZero hzero, abs_zero, beq_iff_eq.1 hzero]
    exact ⟨⟨nofun, Or.inl (midpoint_pos 0)⟩, Or.inl rfl⟩
  | false =>
    have hnearest := isNearest_shortest hzero .up
    have hpos : 0 < (x.shortest .up).value :=
      mul_pos (by exact_mod_cast x.shortest_pos hzero .up) (by positivity)
    rw [rational_numeral hzero]
    cases hsign : x.isNegative with
    | true => simp [hpos, abs_of_pos hpos, hnearest]
    | false => simp [hpos.le, abs_of_pos hpos, hnearest]

theorem roundsTo_numeral (h : x.isFinite = true) : RoundsTo x.numeral.rational x := by
  obtain ⟨hnearest, hsign⟩ := isNearest_numeral x
  have hbelow : x.magnitude < infinityMagnitude := of_decide_eq_true h
  exact hnearest.roundsTo (hnearest.lt_overflowLimit hbelow) h hsign

/-- What a float is written as is read back as it, but for the sign of zero. -/
theorem value_nearest_numeral (h : x.isFinite = true) :
    (nearest x.numeral.rational).value = x.value := by
  obtain ⟨hnearest, hsign⟩ := isNearest_numeral x
  have hbelow : x.magnitude < infinityMagnitude := of_decide_eq_true h
  have hrange := hnearest.lt_overflowLimit hbelow
  obtain ⟨-, -, hparts⟩ := nearest_parts hrange
  rw [value_inj]
  obtain hzero | hsign := hsign
  · have hmagnitude := hparts.unique hnearest
    refine Or.inr ⟨?_, hzero⟩
    rw [isZero, hmagnitude]
    exact hzero
  · exact Or.inl (hnearest.nearest_eq hrange hsign)

/-! ### Exponents -/

/-- The bounds of the scientific form are the floats nearest to `10 ^ 21` and `10 ^ -6`. -/
theorem scientific_bounds :
    scientificFrom = nearest (10 ^ 21) ∧ scientificBelow = nearest (1 / 10 ^ 6) := by
  decide +kernel

/-- A float is written with an exponent iff it is not zero and its absolute value is out
    of the bounds. -/
theorem isSome_exponent_numeral : x.numeral.exponent.isSome = true ↔
    x.value ≠ 0 ∧ ((nearest (10 ^ 21)).value ≤ |x.value| ∨
      |x.value| < (nearest (1 / 10 ^ 6)).value) := by
  have hbounds : scientificFrom.value = scientificFrom.absolute ∧
      scientificBelow.value = scientificBelow.absolute := ⟨rfl, rfl⟩
  rw [← scientific_bounds.1, ← scientific_bounds.2, hbounds.1, hbounds.2, abs_value,
    absolute_le_iff, absolute_lt_iff, ne_eq, value_eq_zero_iff, numeral]
  change _ ↔ _ ∧ x.IsScientific
  cases x.isZero with
  | true => simp [Numeral.ofInt]
  | false =>
    by_cases h : x.IsScientific
    · simp [unsignedNumeral, h, Numeral.ofScientific]
    · simp [unsignedNumeral, h, Numeral.exponent_ofPositional]

end Binary64

/-! ## Texts -/

theorem Json.Numeral.chars_inj {n p : Numeral} (hn : n.IsWellFormed) (hp : p.IsWellFormed) :
    n.chars = p.chars ↔ n = p := by
  refine ⟨fun h => ?_, fun h => h ▸ rfl⟩
  exact Option.some.inj (Numeral.ofChars?_chars hn ▸ Numeral.ofChars?_chars hp ▸
    congrArg Numeral.ofChars? h)

theorem numberText_of_isZero {x : Binary64} (h : x.isZero = true) : numberText x = "0" := by
  obtain rfl | rfl := Binary64.eq_of_isZero h <;> decide

/-- Finite floats have the same text iff they have the same value. -/
theorem numberText_eq_iff {x y : Binary64} (hx : x.isFinite = true) (hy : y.isFinite = true) :
    numberText x = numberText y ↔ x.value = y.value := by
  rw [← String.toList_inj, ← chars_numeral hx, ← chars_numeral hy,
    Numeral.chars_inj (isWellFormed_numeral x) (isWellFormed_numeral y)]
  constructor
  · intro h
    rw [← Binary64.value_nearest_numeral hx, ← Binary64.value_nearest_numeral hy, h]
  · intro h
    obtain rfl | ⟨hx, hy⟩ := Binary64.value_inj.1 h
    · rfl
    · rw [Binary64.numeral, Binary64.numeral, if_pos hx, if_pos hy]

/-- **The text of a float is read back as it.**  It is a numeral, and the number that
    this denotes has the float as its nearest one: a finite float that is as near as
    any other, and even if another is as near (`RoundsTo`).  Both zeros are written as
    `0`.  There is an exponent, with a sign, iff the float is not zero and its absolute
    value reaches the float nearest to `10 ^ 21` or is below the one nearest to
    `10 ^ -6`.  So floats have the same text iff they have the same value. -/
theorem numberText_reads_back :
    (∀ x : Binary64, x.isFinite = true → ∃ n : Numeral, n.IsWellFormed ∧
      (numberText x).toList = n.chars ∧ Binary64.RoundsTo n.rational x ∧
      (Binary64.nearest n.rational).value = x.value ∧
      (n.exponent.isSome = true ↔ x.value ≠ 0 ∧
        ((Binary64.nearest (10 ^ 21)).value ≤ |x.value| ∨
          |x.value| < (Binary64.nearest (1 / 10 ^ 6)).value)) ∧
      (x.value = 0 → numberText x = "0")) ∧
    ∀ x y : Binary64, x.isFinite = true → y.isFinite = true →
      (numberText x = numberText y ↔ x.value = y.value) := by
  refine ⟨fun x h => ?_, fun x y => numberText_eq_iff⟩
  exact ⟨x.numeral, isWellFormed_numeral x, (chars_numeral h).symm, Binary64.roundsTo_numeral h,
    Binary64.value_nearest_numeral h, Binary64.isSome_exponent_numeral,
    fun hzero => numberText_of_isZero (Binary64.value_eq_zero_iff.1 hzero)⟩

/-- The least positive float, and the one after it. -/
theorem numberText_reads_back_least : numberText ⟨1⟩ = "5e-324" ∧ (∃ n : Numeral,
    "5e-324".toList = n.chars ∧ Binary64.RoundsTo n.rational ⟨1⟩ ∧ n.exponent.isSome = true) ∧
    numberText ⟨1⟩ ≠ numberText ⟨2⟩ := by
  have htext : numberText ⟨1⟩ = "5e-324" := by decide +kernel
  obtain ⟨n, -, hchars, hround, -, hexponent, -⟩ := numberText_reads_back.1 ⟨1⟩ (by decide)
  refine ⟨htext, ⟨n, htext ▸ hchars, hround, hexponent.2 ⟨?_, Or.inr ?_⟩⟩, fun hsame => ?_⟩
  · rw [ne_eq, Binary64.value_eq_zero_iff]
    decide
  · rw [← Binary64.scientific_bounds.2, Binary64.abs_value]
    exact Binary64.absolute_lt_iff.2 (by decide)
  · have hvalue := (numberText_reads_back.2 ⟨1⟩ ⟨2⟩ (by decide) (by decide)).1 hsame
    exact absurd (Binary64.value_inj.1 hvalue) (by decide)

end QuerySql
