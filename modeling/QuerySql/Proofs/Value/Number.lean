/-
  Values that are numbers.

  * `Value.rational?` is the number that a value is, exactly;
  * `Value.count?` is that number, if it is a natural one, cut down to the largest of
    64 bits (`Value.count?_eq_some_iff`).
-/
import QuerySql.Value.Basic
import QuerySql.Proofs.Number.Exact

namespace QuerySql.Value

/-- The number that a value is: an integer, or the value of a finite float. -/
def rational? : Value → Option ℚ
  | .int n => some n.toInt
  | .float x => if x.isFinite then some x.value else none
  | _ => none

/-! ## Numbers of rows -/

/-- The largest number of rows. -/
def maxCount : ℕ := 2 ^ 64 - 1

/-- A number of rows, cut down to the largest one. -/
def clamped (m : ℕ) : ℕ := min m maxCount

theorem toNat_ofNat_clamped (m : ℕ) : (UInt64.ofNat (clamped m)).toNat = clamped m := by
  have hfits : clamped m < 2 ^ 64 := lt_of_le_of_lt (min_le_right m _) (by decide)
  rw [UInt64.toNat_ofNat', Nat.mod_eq_of_lt hfits]

theorem ofNat_clamped_eq_iff {m : ℕ} {n : UInt64} :
    UInt64.ofNat (clamped m) = n ↔ n.toNat = clamped m := by
  rw [← UInt64.toNat_inj, toNat_ofNat_clamped, eq_comm]

/-- **The number of rows that a value asks for** is the natural number that it is, or
    the largest one. -/
theorem count?_eq_some_iff {v : Value} {n : UInt64} :
    v.count? = some n ↔ ∃ m : ℕ, v.rational? = some (m : ℚ) ∧ n.toNat = clamped m := by
  cases v with
  | int k =>
    have hsmall : ∀ m : ℕ, k.toInt = m → clamped m = m := fun m hm => by
      have hrange := k.toInt_lt
      unfold clamped maxCount
      omega
    have hrational : ∀ m : ℕ, rational? (.int k) = some (m : ℚ) ↔ k.toInt = m := by
      intro m
      rw [rational?, Option.some.injEq]
      exact_mod_cast Iff.rfl
    simp only [hrational, count?]
    constructor
    · intro h
      split_ifs at h with hnonneg
      have hm : k.toInt = (k.toInt.toNat : ℤ) := by omega
      refine ⟨_, hm, ofNat_clamped_eq_iff.1 ?_⟩
      rw [hsmall _ hm]
      exact Option.some.inj h
    · rintro ⟨m, hm, hn⟩
      rw [if_pos (by omega), ← ofNat_clamped_eq_iff.2 hn, hsmall m hm, hm, Int.toNat_natCast]
  | float x =>
    have hrational : ∀ m : ℕ, rational? (.float x) = some (m : ℚ) ↔ x.natural? = some m := by
      intro m
      rw [Binary64.natural?_eq_some_iff, rational?]
      split_ifs with hfinite <;> simp [hfinite]
    simp only [hrational, count?, Option.map_eq_some_iff, ← ofNat_clamped_eq_iff]
    exact Iff.rfl
  | _ => simp [count?, rational?]

/-- A number of rows is the one that was asked for iff that is below `2 ^ 64`. -/
theorem clamped_eq_iff {m : ℕ} : (clamped m : ℚ) = m ↔ (m : ℚ) < 2 ^ 64 := by
  have hcast : (m : ℚ) < 2 ^ 64 ↔ m < 2 ^ 64 := by exact_mod_cast Iff.rfl
  rw [hcast, Nat.cast_inj, clamped, maxCount]
  omega

end QuerySql.Value
