/-
  Rounding to the nearest float.

  * `RoundsTo q x` says that `x` is the finite float nearest to `q`, of two that are
    equally near the one with an even integer factor;
  * `IsNearest q m` says this of magnitudes, by the midpoints around `q`: a
    non-negative number is nearest to one magnitude only (`IsNearest.unique`);
  * `ofRatio` finds that magnitude (`isNearest_of_unit`), so `nearest q` is the float
    that `q` rounds to (`roundsTo_nearest`), for every `q` below the limit from which
    numbers round to infinity.
-/
import QuerySql.Proofs.Number.Exact

namespace QuerySql.Binary64

/-! ## Nearest floats -/

/-- The limit from which numbers round to infinity. -/
def overflowLimit : ℚ := 2 ^ 1024 - 2 ^ 970

/-- The finite float `x` is the nearest to `q`, and if another one is as near, its
    integer factor is even. -/
structure RoundsTo (q : ℚ) (x : Binary64) : Prop where
  inRange : |q| < overflowLimit
  finite : x.isFinite = true
  nearest : ∀ y : Binary64, y.isFinite = true → |q - x.value| ≤ |q - y.value|
  even : ∀ y : Binary64, y.isFinite = true → |q - y.value| = |q - x.value| → y.value ≠ x.value →
    x.significand % 2 = 0

/-- The float that a number rounds to. -/
def nearest (q : ℚ) : Binary64 := ofRatio (q < 0) q.num.natAbs q.den

/-! ## Nearest magnitudes -/

/-- The number in the middle between a magnitude and the next one. -/
def midpoint (m : ℕ) : ℚ := (point m + point (m + 1)) / 2

theorem midpoint_strictMono : StrictMono midpoint := by
  intro m n h
  have hself := point_strictMono h
  have hnext := point_strictMono (Nat.succ_lt_succ h)
  unfold midpoint
  linarith

theorem point_lt_midpoint (m : ℕ) : point m < midpoint m := by
  have hnext := point_strictMono (Nat.lt_succ_self m)
  unfold midpoint
  linarith

theorem midpoint_lt_point_succ (m : ℕ) : midpoint m < point (m + 1) := by
  have hnext := point_strictMono (Nat.lt_succ_self m)
  unfold midpoint
  linarith

theorem midpoint_pos (m : ℕ) : 0 < midpoint m := (point_nonneg m).trans_lt (point_lt_midpoint m)

/-- The numbers that round to infinity start in the middle between the largest float
    and `2 ^ 1024`. -/
theorem midpoint_infinity : midpoint (infinityMagnitude - 1) = overflowLimit := by
  have hlast : infinityMagnitude - 1 = 2045 * 2 ^ 52 + (2 ^ 53 - 1) := by
    norm_num [infinityMagnitude]
  have hnext : infinityMagnitude - 1 + 1 = 2045 * 2 ^ 52 + 2 ^ 53 := by
    norm_num [infinityMagnitude]
  have hunit : (2 : ℚ) ^ (((2045 : ℕ) : ℤ) - 1074) = 2 ^ 970 * 2 := by
    rw [← pow_succ]
    exact zpow_natCast 2 971
  have hlimit : overflowLimit = 2 ^ 54 * 2 ^ 970 - 2 ^ 970 := by rw [← pow_add]; rfl
  rw [midpoint, hnext, hlast, point_add (by norm_num) (by norm_num),
    point_add (by norm_num) (by norm_num), hunit, hlimit]
  generalize (2 : ℚ) ^ 970 = u
  push_cast
  ring

/-- The number lies between the midpoints around a magnitude, or on one of them if
    the magnitude is even. -/
structure IsNearest (q : ℚ) (m : ℕ) : Prop where
  above : ∀ k, k + 1 = m → midpoint k < q ∨ midpoint k = q ∧ m % 2 = 0
  below : q < midpoint m ∨ q = midpoint m ∧ m % 2 = 0

namespace IsNearest

variable {q : ℚ} {m n : ℕ}

theorem midpoint_le (h : IsNearest q m) {k : ℕ} (hk : k < m) : midpoint k ≤ q := by
  obtain ⟨p, rfl⟩ : ∃ p, p + 1 = m := ⟨m - 1, by omega⟩
  have hmono : midpoint k ≤ midpoint p := midpoint_strictMono.monotone (Nat.le_of_lt_succ hk)
  obtain hlt | ⟨heq, -⟩ := h.above p rfl
  · exact hmono.trans hlt.le
  · exact hmono.trans heq.le

theorem le_midpoint (h : IsNearest q m) {k : ℕ} (hk : m ≤ k) : q ≤ midpoint k := by
  have hmono : midpoint m ≤ midpoint k := midpoint_strictMono.monotone hk
  obtain hlt | ⟨heq, -⟩ := h.below
  · exact hlt.le.trans hmono
  · exact heq.le.trans hmono

/-- A number is not nearest to a larger magnitude too: both would be even, on the two
    sides of one midpoint. -/
theorem ge (h : IsNearest q m) (h' : IsNearest q n) : n ≤ m := by
  by_contra hle
  have hlt : m < n := Nat.lt_of_not_le hle
  obtain ⟨p, rfl⟩ : ∃ p, p + 1 = n := ⟨n - 1, by omega⟩
  have hle : midpoint m ≤ midpoint p := midpoint_strictMono.monotone (Nat.le_of_lt_succ hlt)
  obtain hbelow | ⟨hbelow, heven⟩ := h.below
  · exact absurd (h'.midpoint_le hlt) (not_le.2 hbelow)
  · obtain habove | ⟨habove, heven'⟩ := h'.above p rfl
    · exact absurd (hbelow ▸ habove) (not_lt.2 hle)
    · have hmp : m = p := midpoint_strictMono.injective (hbelow.symm.trans habove.symm)
      omega

/-- **A number is nearest to one magnitude only.** -/
theorem unique (h : IsNearest q m) (h' : IsNearest q n) : m = n :=
  Nat.le_antisymm (h'.ge h) (h.ge h')

theorem eq_zero (h : IsNearest 0 m) : m = 0 := by
  by_contra hne
  exact absurd (h.midpoint_le (Nat.pos_of_ne_zero hne)) (not_le.2 (midpoint_pos 0))

/-- What is nearest to a finite float is below the limit: the largest magnitude is odd. -/
theorem lt_overflowLimit (h : IsNearest q m) (hm : m < infinityMagnitude) : q < overflowLimit := by
  have hle : m ≤ infinityMagnitude - 1 := Nat.le_sub_one_of_lt hm
  rw [← midpoint_infinity]
  obtain hlt | ⟨heq, heven⟩ := h.below
  · exact hlt.trans_le (midpoint_strictMono.monotone hle)
  · have hodd : (infinityMagnitude - 1) % 2 = 1 := by decide
    rw [heq]
    exact midpoint_strictMono (lt_of_le_of_ne hle fun heq => by omega)

/-- No other magnitude is nearer, and if one is as near the magnitude is even. -/
theorem abs_sub_le (h : IsNearest q m) (n : ℕ) : |q - point m| ≤ |q - point n| ∧
    (|q - point n| = |q - point m| → n = m ∨ m % 2 = 0) := by
  obtain hlt | rfl | hlt := Nat.lt_trichotomy n m
  · obtain ⟨p, rfl⟩ : ∃ p, p + 1 = m := ⟨m - 1, by omega⟩
    have hstep : point n ≤ point p := point_strictMono.monotone (Nat.le_of_lt_succ hlt)
    have hself : point p < point (p + 1) := point_strictMono (Nat.lt_succ_self p)
    have hmiddle : midpoint p = (point p + point (p + 1)) / 2 := rfl
    have hle := h.midpoint_le (Nat.lt_succ_self p)
    have hfar : |q - point n| = q - point n := abs_of_nonneg (by linarith)
    have hnear : |q - point (p + 1)| ≤ q - point n := abs_le.2 ⟨by linarith, by linarith⟩
    refine ⟨hfar.symm ▸ hnear, fun heq => Or.inr ?_⟩
    obtain hstrict | ⟨-, heven⟩ := h.above p rfl
    · have hnearer : |q - point (p + 1)| < q - point n := abs_lt.2 ⟨by linarith, by linarith⟩
      rw [hfar] at heq
      exact absurd heq.symm hnearer.ne
    · exact heven
  · exact ⟨le_rfl, fun _ => Or.inl rfl⟩
  · have hstep : point (m + 1) ≤ point n := point_strictMono.monotone hlt
    have hself : point m < point (m + 1) := point_strictMono (Nat.lt_succ_self m)
    have hmiddle : midpoint m = (point m + point (m + 1)) / 2 := rfl
    have hle := h.le_midpoint le_rfl
    have hfar : |q - point n| = point n - q := by
      rw [abs_sub_comm]
      exact abs_of_nonneg (by linarith)
    have hnear : |q - point m| ≤ point n - q := abs_le.2 ⟨by linarith, by linarith⟩
    refine ⟨hfar.symm ▸ hnear, fun heq => Or.inr ?_⟩
    obtain hstrict | ⟨-, heven⟩ := h.below
    · have hnearer : |q - point m| < point n - q := abs_lt.2 ⟨by linarith, by linarith⟩
      rw [hfar] at heq
      exact absurd heq.symm hnearer.ne
    · exact heven

/-- A number rounds to a float of the nearest magnitude with its sign. -/
theorem roundsTo {x : Binary64} (h : IsNearest |q| x.magnitude) (hrange : |q| < overflowLimit)
    (hfinite : x.isFinite = true) (hsign : x.isZero = true ∨ x.isNegative = decide (q < 0)) :
    RoundsTo q x := by
  have hself : |q - x.value| = |(|q| - point x.magnitude)| := by
    rw [← absolute_eq_point]
    obtain hzero | hsign := hsign
    · rw [value_eq_zero_iff.2 hzero, absolute_eq_zero_iff.2 hzero, sub_zero, sub_zero, abs_abs]
    · by_cases hq : q < 0
      · rw [value, hsign, decide_eq_true hq, if_pos rfl, abs_of_neg hq, ← abs_neg]
        congr 1
        ring
      · rw [value, hsign, decide_eq_false hq, if_neg Bool.false_ne_true,
          abs_of_nonneg (not_lt.1 hq)]
  have hother : ∀ y : Binary64, |(|q| - point y.magnitude)| ≤ |q - y.value| := fun y => by
    rw [← absolute_eq_point, ← abs_value]
    exact abs_abs_sub_abs_le q y.value
  refine ⟨hrange, hfinite, fun y _ => ?nearest, fun y _ heq hne => ?even⟩
  case nearest =>
    rw [hself]
    exact (h.abs_sub_le y.magnitude).1.trans (hother y)
  case even =>
    rw [← magnitude_mod_two]
    have htie : |(|q| - point y.magnitude)| = |(|q| - point x.magnitude)| :=
      le_antisymm (hself ▸ heq ▸ hother y) (h.abs_sub_le y.magnitude).1
    refine ((h.abs_sub_le y.magnitude).2 htie).resolve_left fun hmagnitude => hne ?_
    have habs : |y.value| = |x.value| := by
      rw [abs_value, abs_value, absolute_eq_point, absolute_eq_point, hmagnitude]
    obtain hvalue | hvalue := abs_eq_abs.1 habs
    · exact hvalue
    · -- the two floats lie on the two sides of zero, and `q` is as near to both
      obtain hdiff | hdiff := abs_eq_abs.1 heq
      · linarith
      · have hq : q = 0 := by linarith
        rw [hq, abs_zero] at h
        have hzero : x.value = 0 := value_eq_zero_iff.2 (beq_iff_eq.2 h.eq_zero)
        rw [hvalue, hzero, neg_zero]

end IsNearest

/-! ## Rounding quotients -/

/-- The nearest integer to a quotient is at most one half away, and even if it is one
    half away. -/
theorem nearestEven_spec (num : ℕ) {den : ℕ} (hden : 0 < den) :
    2 * (nearestEven num den * den) ≤ 2 * num + den ∧
    2 * num ≤ 2 * (nearestEven num den * den) + den ∧
    (2 * (nearestEven num den * den) = 2 * num + den ∨
      2 * num = 2 * (nearestEven num den * den) + den → nearestEven num den % 2 = 0) := by
  have hparts := Nat.div_add_mod num den
  have hrest := Nat.mod_lt num hden
  rw [Nat.mul_comm] at hparts
  have hnext : (num / den + 1) * den = num / den * den + den := Nat.succ_mul _ _
  unfold nearestEven
  simp only
  split_ifs with hbelow habove
  · omega
  · omega
  · obtain heven | hodd := Nat.mod_two_eq_zero_or_one (num / den)
    · rw [heven, Nat.add_zero]
      omega
    · rw [hodd]
      omega

/-- The nearest integer `k` to a quotient `t`. -/
theorem nearestEven_cast (num : ℕ) {den : ℕ} (hden : 0 < den) {t : ℚ} (ht : (num : ℚ) / den = t) :
    (nearestEven num den : ℚ) - 1 / 2 ≤ t ∧ t ≤ nearestEven num den + 1 / 2 ∧
    (nearestEven num den - 1 / 2 = t ∨ t = nearestEven num den + 1 / 2 →
      nearestEven num den % 2 = 0) := by
  obtain ⟨hlow, hhigh, heven⟩ := nearestEven_spec num hden
  generalize nearestEven num den = k at hlow hhigh heven ⊢
  have hpos : (0 : ℚ) < den := by exact_mod_cast hden
  have hnum : (num : ℚ) = t * den := by
    rw [← ht]
    field_simp
  have hlow' : 2 * ((k : ℚ) * den) ≤ 2 * (t * den) + den := by rw [← hnum]; exact_mod_cast hlow
  have hhigh' : 2 * (t * den) ≤ 2 * ((k : ℚ) * den) + den := by rw [← hnum]; exact_mod_cast hhigh
  refine ⟨by nlinarith, by nlinarith, fun htie => heven ?_⟩
  obtain htie | htie := htie
  · refine Or.inl ?_
    have hcast : 2 * ((k : ℚ) * den) = 2 * num + den := by rw [hnum, ← htie]; ring
    exact_mod_cast hcast
  · refine Or.inr ?_
    have hcast : 2 * (num : ℚ) = 2 * ((k : ℚ) * den) + den := by rw [hnum, htie]; ring
    exact_mod_cast hcast

/-! ### Units -/

theorem scaledRatio_pos (num : ℕ) {den : ℕ} (hden : 0 < den) (e : ℤ) :
    0 < (scaledRatio num den e).2 :=
  Nat.mul_pos hden (Nat.pow_pos (by decide))

theorem scaledRatio_div (num : ℕ) {den : ℕ} (hden : 0 < den) (e : ℤ) :
    ((scaledRatio num den e).1 : ℚ) / (scaledRatio num den e).2 = num / den / 2 ^ e := by
  have hpos : (den : ℚ) ≠ 0 := by positivity
  have hscale : (2 : ℚ) ^ e.toNat = 2 ^ e * 2 ^ (-e).toNat := zpow_toNat 2 (by norm_num) e
  have hnum : ((scaledRatio num den e).1 : ℚ) = num * 2 ^ (-e).toNat := Nat.cast_mul _ _ |>.trans
    (congrArg _ (Nat.cast_pow _ _))
  have hdenominator : ((scaledRatio num den e).2 : ℚ) = den * 2 ^ e.toNat :=
    Nat.cast_mul _ _ |>.trans (congrArg _ (Nat.cast_pow _ _))
  rw [hnum, hdenominator, hscale]
  field_simp

/-- A positive quotient, bounded by the binary digits of its parts. -/
theorem log_bounds {num den : ℕ} (hnum : num ≠ 0) (hden : den ≠ 0) :
    (2 : ℚ) ^ ((num.log2 : ℤ) - den.log2 - 1) < num / den ∧
    (num : ℚ) / den < 2 ^ ((num.log2 : ℤ) - den.log2 + 1) := by
  have hnumLow : (2 : ℚ) ^ num.log2 ≤ num := by exact_mod_cast Nat.log2_self_le hnum
  have hnumHigh : (num : ℚ) < 2 ^ (num.log2 + 1) := by exact_mod_cast Nat.lt_log2_self
  have hdenLow : (2 : ℚ) ^ den.log2 ≤ den := by exact_mod_cast Nat.log2_self_le hden
  have hdenHigh : (den : ℚ) < 2 ^ (den.log2 + 1) := by exact_mod_cast Nat.lt_log2_self
  have hpos : (0 : ℚ) < den := lt_of_lt_of_le (by positivity) hdenLow
  have hlow : (2 : ℚ) ^ ((num.log2 : ℤ) - den.log2 - 1) * 2 ^ (den.log2 + 1) = 2 ^ num.log2 := by
    rw [← zpow_natCast, ← zpow_natCast, ← zpow_add₀ (by norm_num)]
    congr 1
    push_cast
    ring
  have hhigh : (2 : ℚ) ^ ((num.log2 : ℤ) - den.log2 + 1) * 2 ^ den.log2 = 2 ^ (num.log2 + 1) := by
    rw [← zpow_natCast, ← zpow_natCast, ← zpow_add₀ (by norm_num)]
    congr 1
    push_cast
    ring
  constructor
  · rw [lt_div_iff₀ hpos]
    refine lt_of_lt_of_le ?_ hnumLow
    rw [← hlow]
    exact mul_lt_mul_of_pos_left hdenHigh (by positivity)
  · rw [div_lt_iff₀ hpos]
    refine lt_of_lt_of_le hnumHigh ?_
    rw [← hhigh]
    exact mul_le_mul_of_nonneg_left hdenLow (by positivity)

theorem div_zpow_lt_iff {t : ℚ} {e : ℤ} {n : ℕ} : t / 2 ^ e < 2 ^ n ↔ t < 2 ^ (e + n) := by
  rw [div_lt_iff₀ (by positivity), zpow_add₀ (by norm_num), zpow_natCast, mul_comm]

theorem le_div_zpow_iff {t : ℚ} {e : ℤ} {n : ℕ} : 2 ^ n ≤ t / 2 ^ e ↔ 2 ^ (e + n) ≤ t := by
  rw [le_div_iff₀ (by positivity), zpow_add₀ (by norm_num), zpow_natCast, mul_comm]

/-- **The unit of a quotient**: the least one, or the one that leaves 53 binary digits. -/
theorem scaleOfRatio_spec {num den : ℕ} (hnum : num ≠ 0) (hden : 0 < den) {t : ℚ}
    (ht : (num : ℚ) / den = t) : -1074 ≤ scaleOfRatio num den ∧
    t / 2 ^ scaleOfRatio num den < 2 ^ 53 ∧
    (scaleOfRatio num den = -1074 ∨ 2 ^ 52 ≤ t / 2 ^ scaleOfRatio num den) := by
  obtain ⟨hlow, hhigh⟩ := log_bounds hnum hden.ne'
  rw [ht] at hlow hhigh
  -- the first candidate leaves 53 or 54 digits
  obtain ⟨e, he, hbelow, habove⟩ : ∃ e : ℤ, scaleOfRatio num den = max (-1074) e ∧
      t < 2 ^ (e + 53) ∧ 2 ^ (e + 52) ≤ t := by
    have hratio := scaledRatio_div num hden ((num.log2 : ℤ) - den.log2 - 53)
    have hpos := scaledRatio_pos num hden ((num.log2 : ℤ) - den.log2 - 53)
    refine ⟨_, rfl, ?_⟩
    generalize hfirst : (num.log2 : ℤ) - den.log2 - 53 = e at hratio hpos ⊢
    have hdigits : (num.log2 : ℤ) - den.log2 = e + 53 := by omega
    rw [hdigits] at hlow hhigh
    rw [add_sub_assoc] at hlow
    rw [add_assoc] at hhigh
    have htest : (scaledRatio num den e).1 < (scaledRatio num den e).2 * Nat.pow 2 53 ↔
        t < 2 ^ (e + 53) := by
      have hcast : (0 : ℚ) < (scaledRatio num den e).2 := by exact_mod_cast hpos
      have hunit : t / 2 ^ e < 2 ^ 53 ↔ t < 2 ^ (e + 53) := div_zpow_lt_iff
      rw [← hunit, ← ht, ← hratio, div_lt_iff₀ hcast, mul_comm]
      exact_mod_cast Iff.rfl
    split_ifs with hfits
    · exact ⟨htest.1 hfits, hlow.le⟩
    · rw [add_assoc, add_assoc]
      exact ⟨hhigh, not_lt.1 (mt htest.2 hfits)⟩
  rw [he, div_zpow_lt_iff, le_div_zpow_iff]
  refine ⟨le_max_left _ _, hbelow.trans_le (zpow_le_zpow_right₀ (by norm_num) ?_), ?_⟩
  · push_cast
    omega
  · obtain hmax | hmax := max_choice (-1074) e
    · exact Or.inl hmax
    · refine Or.inr ?_
      rw [hmax]
      exact_mod_cast habove

/-! ### Magnitudes -/

/-- A number of units that is nearest to a quotient gives the nearest magnitude. -/
theorem isNearest_of_unit {e k : ℕ} {t : ℚ} (hfits : t < 2 ^ 53) (hnormal : e = 0 ∨ 2 ^ 52 ≤ t)
    (hlow : (k : ℚ) - 1 / 2 ≤ t) (hhigh : t ≤ k + 1 / 2)
    (heven : k - 1 / 2 = t ∨ t = k + 1 / 2 → k % 2 = 0) :
    IsNearest (t * 2 ^ ((e : ℤ) - 1074)) (e * 2 ^ 52 + k) := by
  have hk : k ≤ 2 ^ 53 := by
    have hlt : (k : ℚ) < (2 ^ 53 : ℕ) + 1 := by push_cast; linarith
    exact Nat.le_of_lt_succ (by exact_mod_cast hlt)
  have hdigits : e = 0 ∨ 2 ^ 52 ≤ k := hnormal.imp_right fun ht => by
    have hlt : ((2 ^ 52 : ℕ) : ℚ) < k + 1 := by push_cast; linarith
    exact Nat.le_of_lt_succ (by exact_mod_cast hlt)
  have hself := point_add hk hdigits
  have hparity : (e * 2 ^ 52 + k) % 2 = k % 2 := by omega
  have hunit : (0 : ℚ) < 2 ^ ((e : ℤ) - 1074) := by positivity
  refine ⟨fun p hp => ?above, ?below⟩
  case above =>
    by_cases hsame : e = 0 ∨ 2 ^ 52 < k
    · -- the magnitude below has the same unit
      have hlast : p = e * 2 ^ 52 + (k - 1) := by omega
      have hpoint := point_add (e := e) (k := k - 1) (by omega) (by omega)
      have hcast : ((k - 1 : ℕ) : ℚ) = k - 1 := by
        rw [Nat.cast_sub (by omega), Nat.cast_one]
      have hmiddle : midpoint p = (k - 1 / 2) * 2 ^ ((e : ℤ) - 1074) := by
        rw [midpoint, hp, hself, hlast, hpoint, hcast]
        ring
      rw [hmiddle, hparity]
      obtain hlt | heq := hlow.lt_or_eq
      · exact Or.inl (mul_lt_mul_of_pos_right hlt hunit)
      · exact Or.inr ⟨by rw [heq], heven (Or.inl heq)⟩
    · have hk : k = 2 ^ 52 := by omega
      have ht : (k : ℚ) ≤ t := by
        rw [hk]
        exact_mod_cast hnormal.resolve_left fun he => hsame (Or.inl he)
      refine Or.inl (lt_of_lt_of_le (midpoint_lt_point_succ p) ?_)
      rw [hp, hself]
      exact mul_le_mul_of_nonneg_right ht hunit.le
  case below =>
    obtain hlt | heq := Nat.lt_or_eq_of_le hk
    · have hpoint := point_add (e := e) (k := k + 1) (by omega) (by omega)
      have hmiddle : midpoint (e * 2 ^ 52 + k) = (k + 1 / 2) * 2 ^ ((e : ℤ) - 1074) := by
        rw [midpoint, hself, Nat.add_assoc, hpoint]
        push_cast
        ring
      rw [hmiddle, hparity]
      obtain hlt | heq := hhigh.lt_or_eq
      · exact Or.inl (mul_lt_mul_of_pos_right hlt hunit)
      · exact Or.inr ⟨by rw [heq], heven (Or.inr heq)⟩
    · refine Or.inl (lt_trans ?_ (point_lt_midpoint _))
      rw [hself, heq]
      exact mul_lt_mul_of_pos_right (by exact_mod_cast hfits) hunit

/-- The magnitude of a rounded quotient is the nearest one, up to that of infinity. -/
theorem exists_isNearest (num : ℕ) {den : ℕ} (hden : 0 < den) {q : ℚ} (hq : (num : ℚ) / den = q) :
    ∃ m, IsNearest q m ∧ magnitudeOfRatio num den = min infinityMagnitude m := by
  by_cases hnum : num = 0
  · refine ⟨0, ⟨nofun, Or.inl ?_⟩, by rw [magnitudeOfRatio, if_pos hnum]; rfl⟩
    rw [← hq, hnum, Nat.cast_zero, zero_div]
    exact midpoint_pos 0
  · obtain ⟨hleast, hfits, hnormal⟩ := scaleOfRatio_spec hnum hden hq
    have hratio := scaledRatio_div num hden (scaleOfRatio num den)
    have hpos := scaledRatio_pos num hden (scaleOfRatio num den)
    have hmagnitude : magnitudeOfRatio num den = min infinityMagnitude
        ((scaleOfRatio num den + 1074).toNat * 2 ^ 52 + nearestEven
          (scaledRatio num den (scaleOfRatio num den)).1
          (scaledRatio num den (scaleOfRatio num den)).2) := if_neg hnum
    rw [hq] at hratio
    generalize scaleOfRatio num den = e at hleast hfits hnormal hratio hpos hmagnitude
    obtain ⟨hlow, hhigh, heven⟩ := nearestEven_cast _ hpos hratio
    have hunit : (((e + 1074).toNat : ℕ) : ℤ) - 1074 = e := by omega
    have hnearest := isNearest_of_unit (e := (e + 1074).toNat) hfits
      (hnormal.imp_left fun he => by omega) hlow hhigh heven
    rw [hunit, div_mul_cancel₀ _ (by positivity)] at hnearest
    exact ⟨_, hnearest, hmagnitude⟩

/-- **Rounding finds the nearest magnitude** of a quotient below the limit. -/
theorem isNearest_magnitudeOfRatio (num : ℕ) {den : ℕ} (hden : 0 < den) {q : ℚ}
    (hq : (num : ℚ) / den = q) (hrange : q < overflowLimit) :
    magnitudeOfRatio num den < infinityMagnitude ∧ IsNearest q (magnitudeOfRatio num den) := by
  obtain ⟨m, hm, hmagnitude⟩ := exists_isNearest num hden hq
  have hlt : m < infinityMagnitude := by
    by_contra hle
    have hbelow : infinityMagnitude - 1 < m := by
      have hpos : 0 < infinityMagnitude := by decide
      omega
    have hlimit := hm.midpoint_le hbelow
    rw [midpoint_infinity] at hlimit
    exact absurd hrange (not_lt.2 hlimit)
  rw [hmagnitude, Nat.min_eq_right hlt.le]
  exact ⟨hlt, hm⟩

/-! ## Rounding numbers -/

section

variable {negative : Bool} {m : ℕ}

theorem isNegative_ofMagnitude (hm : m < 2 ^ 63) :
    (ofMagnitude negative m).isNegative = negative := by
  cases negative <;> simp [isNegative, ofMagnitude] <;> omega

theorem magnitude_ofMagnitude (hm : m < 2 ^ 63) : (ofMagnitude negative m).magnitude = m := by
  cases negative <;> simp [magnitude, ofMagnitude] <;> omega

end

theorem natAbs_div_den (q : ℚ) : (q.num.natAbs : ℚ) / q.den = |q| := by
  rw [Nat.cast_natAbs, Int.cast_abs]
  conv_rhs => rw [← Rat.num_div_den q, abs_div, Nat.abs_cast]

section

variable {q : ℚ} (hrange : |q| < overflowLimit)
include hrange

theorem nearest_parts : (nearest q).isNegative = decide (q < 0) ∧ (nearest q).isFinite = true ∧
    IsNearest |q| (nearest q).magnitude := by
  obtain ⟨hlt, hm⟩ := isNearest_magnitudeOfRatio q.num.natAbs q.den_pos (natAbs_div_den q) hrange
  have hbits : magnitudeOfRatio q.num.natAbs q.den < 2 ^ 63 :=
    hlt.trans (by norm_num [infinityMagnitude])
  have hmagnitude : (nearest q).magnitude = magnitudeOfRatio q.num.natAbs q.den :=
    magnitude_ofMagnitude hbits
  refine ⟨isNegative_ofMagnitude hbits, ?_, hmagnitude ▸ hm⟩
  rw [isFinite, hmagnitude]
  exact decide_eq_true hlt

/-- **A number rounds to its nearest float.** -/
theorem roundsTo_nearest : RoundsTo q (nearest q) := by
  obtain ⟨hsign, hfinite, hm⟩ := nearest_parts hrange
  exact hm.roundsTo hrange hfinite (Or.inr hsign)

/-- The float of the nearest magnitude with the sign of the number is the nearest float. -/
theorem IsNearest.nearest_eq {x : Binary64} (h : IsNearest |q| x.magnitude)
    (hsign : x.isNegative = decide (q < 0)) : nearest q = x := by
  obtain ⟨hsign', -, hm⟩ := nearest_parts hrange
  exact eq_of_parts (hsign'.trans hsign.symm) (hm.unique h)

end

end QuerySql.Binary64
