/-
  Shortest decimals are read back.

  A decimal that the search hits rounds to the float (`isNearest_of_holds`): the bounds
  of `roundingInterval` are the midpoints around the float.  The search ends with a hit,
  so the shortest decimal of a float is nearest to it (`isNearest_shortest`).
-/
import QuerySql.Proofs.Number.Rounding

namespace QuerySql

/-- The number that a decimal stands for. -/
def Decimal.value (d : Decimal) : ℚ := d.digits * 10 ^ d.exponent

/-! ## Hits -/

namespace RoundingInterval

variable {r : RoundingInterval}

/-- The two factors stand for `10 ^ k` and the unit of the bounds. -/
theorem exists_factor (r : RoundingInterval) (k : ℤ) : ∃ f : ℚ, 0 < f ∧
    (r.gridFactor k : ℚ) = 10 ^ k * f ∧ (r.boundFactor k : ℚ) = 2 ^ r.unit * f := by
  have hten : (10 : ℚ) ^ k.toNat = 10 ^ k * 10 ^ (-k).toNat :=
    Binary64.zpow_toNat 10 (by norm_num) k
  have htwo : (2 : ℚ) ^ r.unit.toNat = 2 ^ r.unit * 2 ^ (-r.unit).toNat :=
    Binary64.zpow_toNat 2 (by norm_num) r.unit
  have hgrid : (r.gridFactor k : ℚ) = 10 ^ k.toNat * 2 ^ (-r.unit).toNat := by
    rw [gridFactor, Nat.cast_mul]
    exact congrArg₂ _ (Nat.cast_pow _ _) (Nat.cast_pow _ _)
  have hbound : (r.boundFactor k : ℚ) = 2 ^ r.unit.toNat * 10 ^ (-k).toNat := by
    rw [boundFactor, Nat.cast_mul]
    exact congrArg₂ _ (Nat.cast_pow _ _) (Nat.cast_pow _ _)
  refine ⟨10 ^ (-k).toNat * 2 ^ (-r.unit).toNat, by positivity, ?_, ?_⟩
  · rw [hgrid, hten]
    ring
  · rw [hbound, htwo]
    ring

/-- A hit lies between the bounds, or on one of them if they round to the number. -/
theorem holds_iff {k : ℤ} {c : ℕ} : r.holds k c = true ↔
    (r.low * 2 ^ r.unit < (c : ℚ) * 10 ^ k ∨
      r.low * 2 ^ r.unit = (c : ℚ) * 10 ^ k ∧ r.closed = true) ∧
    ((c : ℚ) * 10 ^ k < r.high * 2 ^ r.unit ∨
      (c : ℚ) * 10 ^ k = r.high * 2 ^ r.unit ∧ r.closed = true) := by
  obtain ⟨f, hf, hgrid, hbound⟩ := r.exists_factor k
  have hle : ∀ a b : ℕ, (a * r.boundFactor k ≤ b * r.gridFactor k ↔
      (a : ℚ) * 2 ^ r.unit ≤ b * 10 ^ k) ∧ (b * r.gridFactor k ≤ a * r.boundFactor k ↔
      (b : ℚ) * 10 ^ k ≤ a * 2 ^ r.unit) := fun a b => by
    rw [← Nat.cast_le (α := ℚ), ← Nat.cast_le (α := ℚ), Nat.cast_mul, Nat.cast_mul, hgrid, hbound,
      ← mul_assoc, ← mul_assoc, mul_le_mul_iff_left₀ hf, mul_le_mul_iff_left₀ hf]
    exact ⟨Iff.rfl, Iff.rfl⟩
  have hlow := hle r.low c
  have hhigh := hle r.high c
  unfold holds
  cases r.closed with
  | true =>
    simp only [if_true, Bool.and_eq_true, decide_eq_true_eq, and_true, hlow.1, hhigh.2,
      ← le_iff_lt_or_eq]
  | false =>
    simp only [Bool.false_eq_true, if_false, Bool.and_eq_true, decide_eq_true_eq, and_false,
      or_false, ← not_le, hlow.2, hhigh.1]

end RoundingInterval

/-! ## Floats -/

namespace Binary64

variable {x : Binary64}

/-- The upper bound of the reals that round to a float is the midpoint above it. -/
theorem high_eq_midpoint (x : Binary64) :
    (x.roundingInterval.high : ℚ) * 2 ^ x.roundingInterval.unit = midpoint x.magnitude := by
  have hunit : (2 : ℚ) ^ (x.scale - 2) = 2 ^ x.scale / 2 ^ (2 : ℤ) := zpow_sub₀ (by norm_num) _ _
  have hself := absolute_eq_point x
  simp only [roundingInterval, midpoint, point_succ, ← hself, ← scale_eq, absolute, hunit]
  push_cast
  ring

/-- The lower bound is the midpoint below it. -/
theorem low_eq_midpoint (h : x.isZero = false) {k : ℕ} (hk : k + 1 = x.magnitude) :
    (x.roundingInterval.low : ℚ) * 2 ^ x.roundingInterval.unit = midpoint k := by
  have hpos := significand_pos h
  have hsignificand := significand_eq x
  have hscale := scale_eq x
  have hsucc := point_succ k
  rw [hk, ← absolute_eq_point, absolute] at hsucc
  have hleading : Nat.pow 2 52 = 2 ^ 52 := rfl
  have hunit : (2 : ℚ) ^ (x.scale - 2) = 2 ^ x.scale / 2 ^ (2 : ℤ) := zpow_sub₀ (by norm_num) _ _
  simp only [roundingInterval, hleading]
  rw [midpoint, hk, ← absolute_eq_point, absolute, hunit]
  unfold unitIndex at hscale hsignificand hsucc
  split_ifs with hpower
  · -- the unit of the magnitude below is half as large
    have hindex : ((k / 2 ^ 52 - 1 : ℕ) : ℤ) - 1074 = x.scale - 1 := by omega
    rw [hindex, zpow_sub_one₀ (by norm_num)] at hsucc
    rw [Nat.cast_sub (by omega)]
    push_cast
    linarith
  · have hindex : ((k / 2 ^ 52 - 1 : ℕ) : ℤ) - 1074 = x.scale := by omega
    rw [hindex] at hsucc
    rw [Nat.cast_sub (by omega)]
    push_cast
    linarith

/-- **A decimal that the search hits rounds to the float.** -/
theorem isNearest_of_holds (h : x.isZero = false) {k : ℤ} {c : ℕ}
    (hholds : x.roundingInterval.holds k c = true) : IsNearest (c * 10 ^ k) x.magnitude := by
  obtain ⟨habove, hbelow⟩ := RoundingInterval.holds_iff.1 hholds
  have hclosed : x.roundingInterval.closed = true ↔ x.magnitude % 2 = 0 := by
    rw [magnitude_mod_two]
    exact beq_iff_eq
  rw [hclosed] at habove hbelow
  rw [high_eq_midpoint] at hbelow
  refine ⟨fun p hp => ?_, hbelow⟩
  rw [← low_eq_midpoint h hp]
  exact habove

theorem isNearest_shortest (h : x.isZero = false) (tie : Tie) :
    IsNearest (x.shortest tie).value x.magnitude :=
  isNearest_of_holds h (holds_shortest h tie)

end Binary64

end QuerySql
