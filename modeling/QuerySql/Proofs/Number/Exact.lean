/-
  Exact values of floats.

  * `Binary64.value` is the rational number that a finite float stands for, and
    `absolute` is that number without its sign;
  * `point m` is the absolute value of the floats of magnitude `m`
    (`absolute_eq_point`).  It grows by a power of two from one magnitude to the next
    (`point_succ`), so magnitudes are ordered as the absolute values are, and infinity
    has the place of `2 ^ 1024`;
  * two finite floats have the same value iff they are the same, or the two zeros
    (`value_inj`);
  * a float is a natural number iff its value is (`natural?_eq_some_iff`).
-/
import QuerySql.Proofs.Number.Shortest
import Mathlib.Algebra.Order.Field.Power
import Mathlib.Algebra.Order.Field.Rat
import Mathlib.Data.Rat.Cast.Order
import Mathlib.Order.Monotone.Basic
import Mathlib.Tactic.FieldSimp
import Mathlib.Tactic.Linarith
import Mathlib.Tactic.NormNum
import Mathlib.Tactic.Positivity
import Mathlib.Tactic.Ring

namespace QuerySql.Binary64

/-! ## Values -/

/-- The absolute value of a finite float. -/
def absolute (x : Binary64) : ℚ := x.significand * 2 ^ x.scale

/-- The value of a finite float. -/
def value (x : Binary64) : ℚ := if x.isNegative then -x.absolute else x.absolute

variable {x y : Binary64}

theorem abs_value (x : Binary64) : |x.value| = x.absolute := by
  have hnonneg : 0 ≤ x.absolute := by unfold absolute; positivity
  unfold value
  split
  · rw [abs_neg, abs_of_nonneg hnonneg]
  · exact abs_of_nonneg hnonneg

/-! ## Magnitudes -/

/-- The number of steps by which the unit of a magnitude is above the least one. -/
def unitIndex (m : ℕ) : ℕ := m / 2 ^ 52 - 1

/-- The absolute value of the floats of magnitude `m`. -/
def point (m : ℕ) : ℚ := (m - unitIndex m * 2 ^ 52 : ℕ) * 2 ^ ((unitIndex m : ℤ) - 1074)

/-- A magnitude given by a unit and a number of units. -/
theorem point_add {e k : ℕ} (hk : k ≤ 2 ^ 53) (hnormal : e = 0 ∨ 2 ^ 52 ≤ k) :
    point (e * 2 ^ 52 + k) = k * 2 ^ ((e : ℤ) - 1074) := by
  obtain hlt | rfl := Nat.lt_or_eq_of_le hk
  · have hindex : unitIndex (e * 2 ^ 52 + k) = e := by unfold unitIndex; omega
    have hcount : e * 2 ^ 52 + k - e * 2 ^ 52 = k := by omega
    rw [point, hindex, hcount]
  · have hindex : unitIndex (e * 2 ^ 52 + 2 ^ 53) = e + 1 := by unfold unitIndex; omega
    have hcount : e * 2 ^ 52 + 2 ^ 53 - (e + 1) * 2 ^ 52 = 2 ^ 52 := by omega
    have hunit : ((e + 1 : ℕ) : ℤ) - 1074 = ((e : ℤ) - 1074) + 1 := by push_cast; ring
    rw [point, hindex, hcount, hunit, zpow_add_one₀ (by norm_num)]
    push_cast
    ring

/-- A magnitude consists of a unit and a number of units. -/
theorem exists_unit (m : ℕ) : ∃ k, m = unitIndex m * 2 ^ 52 + k ∧ k < 2 ^ 53 ∧
    (unitIndex m = 0 ∨ 2 ^ 52 ≤ k) := by
  refine ⟨m - unitIndex m * 2 ^ 52, ?_⟩
  unfold unitIndex
  omega

/-- **The next magnitude is one unit away.** -/
theorem point_succ (m : ℕ) : point (m + 1) = point m + 2 ^ ((unitIndex m : ℤ) - 1074) := by
  obtain ⟨k, hm, hk, hnormal⟩ := exists_unit m
  have hnext : m + 1 = unitIndex m * 2 ^ 52 + (k + 1) := by omega
  have hsucc := point_add (e := unitIndex m) (k := k + 1) (by omega) (by omega)
  have hself := point_add (by omega) hnormal
  rw [hnext, hsucc]
  rw [← hm] at hself
  rw [hself]
  push_cast
  ring

theorem point_strictMono : StrictMono point := by
  refine strictMono_nat_of_lt_succ fun m => ?_
  rw [point_succ]
  exact lt_add_of_pos_right _ (by positivity)

theorem point_nonneg (m : ℕ) : 0 ≤ point m := by unfold point; positivity

@[simp] theorem point_zero : point 0 = 0 := by simp [point]

theorem significand_eq (x : Binary64) :
    x.significand = x.magnitude - unitIndex x.magnitude * 2 ^ 52 := by
  have hleading : Nat.pow 2 52 = 2 ^ 52 := rfl
  unfold significand unitIndex
  rw [hleading]
  split <;> omega

theorem scale_eq (x : Binary64) : x.scale = (unitIndex x.magnitude : ℤ) - 1074 := by
  have hleading : Nat.pow 2 52 = 2 ^ 52 := rfl
  unfold scale unitIndex
  rw [hleading]
  split <;> omega

theorem absolute_eq_point (x : Binary64) : x.absolute = point x.magnitude := by
  rw [absolute, significand_eq, scale_eq, point]

/-- A magnitude has the parity of the integer factor. -/
theorem magnitude_mod_two (x : Binary64) : x.magnitude % 2 = x.significand % 2 := by
  rw [significand_eq]
  unfold unitIndex
  omega

/-! ## Order -/

theorem absolute_le_iff : x.absolute ≤ y.absolute ↔ x.magnitude ≤ y.magnitude := by
  rw [absolute_eq_point, absolute_eq_point, point_strictMono.le_iff_le]

theorem absolute_lt_iff : x.absolute < y.absolute ↔ x.magnitude < y.magnitude := by
  rw [absolute_eq_point, absolute_eq_point, point_strictMono.lt_iff_lt]

theorem absolute_eq_zero_iff : x.absolute = 0 ↔ x.isZero = true := by
  rw [absolute_eq_point, ← point_zero, point_strictMono.injective.eq_iff, isZero, beq_iff_eq]

theorem value_eq_zero_iff : x.value = 0 ↔ x.isZero = true := by
  rw [← abs_eq_zero, abs_value, absolute_eq_zero_iff]

theorem absolute_pos (h : x.isZero = false) : 0 < x.absolute := by
  refine lt_of_le_of_ne ?_ fun heq => ?_
  · rw [absolute_eq_point]
    exact point_nonneg _
  · rw [absolute_eq_zero_iff.1 heq.symm] at h
    cases h

/-- The value of a float other than zero has its sign. -/
theorem isNegative_eq (h : x.isZero = false) : x.isNegative = decide (x.value < 0) := by
  have hpos := absolute_pos h
  cases hsign : x.isNegative with
  | true => simp [value, hsign, hpos]
  | false => simp [value, hsign, hpos.le]

/-- A finite float is at most zero iff its value is. -/
theorem isAtMostZero_iff (h : x.isFinite = true) : x.isAtMostZero = true ↔ x.value ≤ 0 := by
  have hnumber : x.isNaN = false := decide_eq_false (of_decide_eq_true h).not_gt
  have hsign : x.isAtMostZero = (x.isNegative || x.isZero) := by simp [isAtMostZero, hnumber]
  rw [hsign, le_iff_lt_or_eq, value_eq_zero_iff]
  cases hzero : x.isZero with
  | true => simp
  | false => simp [isNegative_eq hzero]

/-- A float is its sign and its magnitude. -/
theorem eq_of_parts (hsign : x.isNegative = y.isNegative) (hmagnitude : x.magnitude = y.magnitude) :
    x = y := by
  obtain ⟨a⟩ := x
  obtain ⟨b⟩ := y
  have hbits : Nat.pow 2 63 = 2 ^ 63 := rfl
  have ha := a.toNat_lt
  have hb := b.toNat_lt
  simp only [isNegative, magnitude, hbits, decide_eq_decide] at hsign hmagnitude
  exact congrArg mk (UInt64.toNat_inj.1 (by omega))

/-- **Floats have the same value iff they are the same**, or both zero. -/
theorem value_inj : x.value = y.value ↔ x = y ∨ x.isZero = true ∧ y.isZero = true := by
  constructor
  · intro h
    cases hzero : x.isZero with
    | true => exact Or.inr ⟨rfl, by rwa [← value_eq_zero_iff, ← h, value_eq_zero_iff]⟩
    | false =>
      have hzero' : y.isZero = false := by
        rw [← Bool.not_eq_true, ← value_eq_zero_iff, ← h, value_eq_zero_iff, hzero]
        exact Bool.false_ne_true
      have habsolute : x.absolute = y.absolute := by rw [← abs_value, h, abs_value]
      rw [absolute_eq_point, absolute_eq_point, point_strictMono.injective.eq_iff] at habsolute
      refine Or.inl (eq_of_parts ?_ habsolute)
      rw [isNegative_eq hzero, isNegative_eq hzero', h]
  · rintro (rfl | ⟨hx, hy⟩)
    · rfl
    · rw [value_eq_zero_iff.2 hx, value_eq_zero_iff.2 hy]

/-! ## Integers -/

theorem zpow_toNat (b : ℚ) (hb : b ≠ 0) (e : ℤ) : b ^ e.toNat = b ^ e * b ^ (-e).toNat := by
  rw [← zpow_natCast, ← zpow_natCast, ← zpow_add₀ hb]
  congr 1
  omega

theorem ratio_pos (x : Binary64) : 0 < x.ratio.2 := Nat.pow_pos (by decide)

/-- The absolute value is the quotient of the two parts of the ratio. -/
theorem ratio_eq (x : Binary64) : (x.ratio.1 : ℚ) = x.absolute * x.ratio.2 := by
  have hnum : (x.ratio.1 : ℚ) = x.significand * 2 ^ x.scale.toNat :=
    (Nat.cast_mul _ _).trans (congrArg _ (Nat.cast_pow _ _))
  have hden : (x.ratio.2 : ℚ) = 2 ^ (-x.scale).toNat := Nat.cast_pow _ _
  rw [hnum, hden, zpow_toNat 2 (by norm_num), absolute, mul_assoc]

/-- The absolute value is an integer iff the ratio divides. -/
theorem absolute_eq_natCast_iff {n : ℕ} :
    x.absolute = n ↔ x.ratio.1 % x.ratio.2 = 0 ∧ x.ratio.1 / x.ratio.2 = n := by
  have hpos : (x.ratio.2 : ℚ) ≠ 0 := by exact_mod_cast x.ratio_pos.ne'
  have hmul : x.absolute = n ↔ x.ratio.1 = n * x.ratio.2 := by
    rw [← mul_left_inj' hpos, ← ratio_eq]
    exact_mod_cast Iff.rfl
  rw [hmul]
  constructor
  · intro h
    rw [h]
    exact ⟨Nat.mul_mod_left _ _, Nat.mul_div_cancel _ x.ratio_pos⟩
  · rintro ⟨hrest, rfl⟩
    exact (Nat.div_mul_cancel (Nat.dvd_of_mod_eq_zero hrest)).symm

/-- **A finite float is a natural number iff its value is.** -/
theorem natural?_eq_some_iff {n : ℕ} :
    x.natural? = some n ↔ x.isFinite = true ∧ x.value = n := by
  have hsign : x.value = n ↔ (x.isNegative = false ∨ x.isZero = true) ∧ x.absolute = n := by
    cases hnegative : x.isNegative with
    | false => simp [value, hnegative]
    | true =>
      rw [value, hnegative, if_pos rfl, ← absolute_eq_zero_iff]
      have hnonneg : 0 ≤ x.absolute := absolute_eq_point x ▸ point_nonneg _
      constructor
      · intro h
        have hcast : (0 : ℚ) ≤ n := Nat.cast_nonneg n
        exact ⟨Or.inr (by linarith), by linarith⟩
      · rintro ⟨hzero, h⟩
        have hzero := hzero.resolve_left nofun
        linarith
  rw [hsign, absolute_eq_natCast_iff]
  simp [natural?, and_assoc]

end QuerySql.Binary64
