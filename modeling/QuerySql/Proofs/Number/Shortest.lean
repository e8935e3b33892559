/-
  The search for shortest decimals.

  The search for the shortest decimal of a number other than zero ends with a hit
  (`Binary64.holds_shortest`).  It is positive (`Binary64.shortest_pos`): zero is below
  the bounds of the reals that round to the number.  There are two zeros
  (`Binary64.eq_of_isZero`).
-/
import QuerySql.Number.Decimal
import QuerySql.Proofs.Number.Digits

namespace QuerySql

/-! ## The search -/

namespace RoundingInterval

variable {r : RoundingInterval}

theorem boundFactor_pos (k : Int) : 0 < r.boundFactor k :=
  Nat.mul_pos (Nat.pow_pos (by decide)) (Nat.pow_pos (by decide))

/-- Zero does not round to the number. -/
theorem holds_zero (hlow : 0 < r.low) (k : Int) : r.holds k 0 = false := by
  have hbound : ¬ r.low * r.boundFactor k ≤ 0 :=
    Nat.not_le.2 (Nat.mul_pos hlow (boundFactor_pos k))
  have hstrict : ¬ r.low * r.boundFactor k < 0 := Nat.not_lt_zero _
  simp only [holds, Nat.zero_mul, decide_eq_false hbound, decide_eq_false hstrict, Bool.false_and,
    ite_self]

theorem pos_of_holds (hlow : 0 < r.low) {k : Int} {c : Nat} (h : r.holds k c = true) : 0 < c := by
  obtain rfl | hc := Nat.eq_zero_or_pos c
  · rw [holds_zero hlow] at h
    cases h
  · exact hc

/-- The search takes only hits. -/
theorem holds_of_onGrid? {tie : Tie} {k : Int} {c : Nat} (h : r.onGrid? tie k = some c) :
    r.holds k c = true := by
  unfold onGrid? at h
  simp only at h
  split at h
  · cases h
  · next hbelow _ =>
    cases h
    exact hbelow
  · next _ habove =>
    cases h
    exact habove
  · next hbelow habove =>
    split_ifs at h
    · cases h
      exact hbelow
    · cases h
      exact habove
    · cases tie with
      | up =>
        cases h
        exact habove
      | even =>
        cases h
        obtain heven | hodd := Nat.mod_two_eq_zero_or_one
          (r.value * r.boundFactor k / r.gridFactor k)
        · rwa [heven]
        · rwa [hodd]

/-- A grid that is fine enough holds every multiple of the unit of the bounds. -/
theorem gridFactor_dvd_boundFactor {k : Int} (hk : k ≤ min 0 r.unit) :
    r.gridFactor k ∣ r.boundFactor k := by
  have hgrid : r.gridFactor k = Nat.pow 2 (-r.unit).toNat := by
    have hzero : k.toNat = 0 := by omega
    rw [gridFactor, hzero]
    exact Nat.one_mul _
  have hfiner : 2 ^ (-r.unit).toNat ∣ 2 ^ (-k).toNat := Nat.pow_dvd_pow 2 (by omega)
  have hten : 2 ^ (-k).toNat ∣ 10 ^ (-k).toNat := ⟨5 ^ (-k).toNat, Nat.mul_pow 2 5 _⟩
  rw [hgrid]
  exact Nat.dvd_mul_left_of_dvd (Nat.dvd_trans hfiner hten) _

/-- **The search ends with a hit**, at the latest on a grid that holds the number itself. -/
theorem holds_search (hlow : r.low < r.value) (hhigh : r.value < r.high) (tie : Tie) {steps : Nat}
    {k : Int} (hk : k - steps ≤ min 0 r.unit) :
    r.holds (r.search tie steps k).exponent (r.search tie steps k).digits = true := by
  induction steps generalizing k with
  | zero =>
    have hdvd : r.gridFactor k ∣ r.value * r.boundFactor k :=
      Nat.dvd_mul_left_of_dvd (gridFactor_dvd_boundFactor (by omega)) _
    have hexact : r.value * r.boundFactor k / r.gridFactor k * r.gridFactor k =
        r.value * r.boundFactor k := Nat.div_mul_cancel hdvd
    have hlow' : r.low * r.boundFactor k < r.value * r.boundFactor k :=
      Nat.mul_lt_mul_of_pos_right hlow (boundFactor_pos k)
    have hhigh' : r.value * r.boundFactor k < r.high * r.boundFactor k :=
      Nat.mul_lt_mul_of_pos_right hhigh (boundFactor_pos k)
    simp only [search, holds, hexact, hlow', hhigh', Nat.le_of_lt, decide_true, Bool.and_true,
      ite_self]
  | succ steps ih =>
    rw [search]
    split
    · next c hc => exact holds_of_onGrid? hc
    · exact ih (by omega)

end RoundingInterval

/-! ## Floats -/

namespace Binary64

variable {x : Binary64}

/-- There are two zeros, one of them with a sign. -/
theorem eq_of_isZero (h : x.isZero = true) : x = ⟨0⟩ ∨ x = ⟨0x8000000000000000⟩ := by
  obtain ⟨bits⟩ := x
  have hsign : Nat.pow 2 63 = 0x8000000000000000 := rfl
  have hmagnitude : bits.toNat % 0x8000000000000000 = 0 := by
    rw [← hsign]
    exact beq_iff_eq.1 h
  have hbits := bits.toNat_lt
  obtain hzero | hzero : bits.toNat = 0 ∨ bits.toNat = 0x8000000000000000 := by omega
  · exact Or.inl (congrArg mk (UInt64.toNat_inj.1 hzero))
  · exact Or.inr (congrArg mk (UInt64.toNat_inj.1 hzero))

theorem significand_pos (h : x.isZero = false) : 0 < x.significand := by
  have hmagnitude : x.magnitude ≠ 0 := by simpa [isZero] using h
  have hparts := Nat.div_add_mod x.magnitude (Nat.pow 2 52)
  have hleading : 0 < Nat.pow 2 52 := Nat.pow_pos (by decide)
  unfold significand
  split
  · next hsubnormal =>
    rw [hsubnormal, Nat.mul_zero, Nat.zero_add] at hparts
    omega
  · omega

/-- **The shortest decimal of a number other than zero rounds to it.** -/
theorem holds_shortest (h : x.isZero = false) (tie : Tie) :
    x.roundingInterval.holds (x.shortest tie).exponent (x.shortest tie).digits = true := by
  have hsignificand := significand_pos h
  refine RoundingInterval.holds_search ?low ?high tie ?grid
  case low =>
    simp only [roundingInterval]
    split <;> omega
  case high =>
    simp only [roundingInterval]
    omega
  case grid =>
    simp only [roundingInterval]
    omega

theorem shortest_pos (h : x.isZero = false) (tie : Tie) : 0 < (x.shortest tie).digits := by
  have hsignificand := significand_pos h
  refine RoundingInterval.pos_of_holds ?_ (holds_shortest h tie)
  simp only [roundingInterval]
  split <;> omega

end Binary64

end QuerySql
