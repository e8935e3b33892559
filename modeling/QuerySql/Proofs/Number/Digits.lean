/-
  Values of digits.

  The digits of a number have it as their value (`digitsValue_digits`), also behind
  leading zeros (`digitsValue_padded`); those of a positive number do not start with a
  zero (`head?_digits`).  The value of a text is put together from those of its parts
  (`digitsValue_append`).

  Of two texts with equally many digits the one with the smaller value is first in the
  order of texts (`lt_iff_digitsValue_lt`), so numbers that are padded to the same width
  are ordered as numbers (`padded_lt_padded_iff`).
-/
import QuerySql.Number.Decimal
import Mathlib.Data.List.Basic
import Mathlib.Data.List.Induction
import Mathlib.Tactic.Ring

namespace QuerySql.Number

variable {cs ds : List Char} {n m width : ℕ}

@[simp] theorem digitsValue_digits (n : Nat) : digitsValue (digits n) = n :=
  Nat.ofDigitChars_ten_toDigits

theorem head?_digits (hn : 0 < n) : (digits n).head? ≠ some '0' := by
  unfold digits
  induction n using Nat.base_induction 10 (by decide) with
  | single m hm =>
    rw [Nat.toDigits_of_lt_base hm, List.head?_cons, ne_eq, Option.some.injEq, Nat.digitChar_eq_zero]
    omega
  | digit m k hk hm ih =>
    rw [← Nat.toDigits_append_toDigits (by decide) hm hk,
      List.head?_append_of_ne_nil _ Nat.toDigits_ne_nil]
    exact ih hm

theorem digitsValue_append (cs ds : List Char) :
    digitsValue (cs ++ ds) = digitsValue cs * 10 ^ ds.length + digitsValue ds := by
  induction ds using List.reverseRecOn with
  | nil => simp [digitsValue]
  | append_singleton ds d ih =>
    have hlast : ∀ us : List Char, digitsValue (us ++ [d]) = 10 * digitsValue us + digitValue d :=
      fun us => by simp [digitsValue]
    rw [← List.append_assoc, hlast, hlast, ih, List.length_append, List.length_singleton,
      Nat.pow_succ]
    ring

theorem digitsValue_cons (c : Char) (cs : List Char) :
    digitsValue (c :: cs) = digitValue c * 10 ^ cs.length + digitsValue cs := by
  have hone : digitsValue [c] = digitValue c := Nat.zero_add _
  rw [← hone, ← digitsValue_append, List.singleton_append]

theorem digitsValue_zeros (k : ℕ) : digitsValue (List.replicate k '0') = 0 := by
  induction k with
  | zero => rfl
  | succ k ih =>
    rw [List.replicate_succ', digitsValue_append, ih, Nat.zero_mul, Nat.zero_add]
    rfl

/-! ## The order of digits -/

theorem digitValue_lt {c : Char} (h : c.isDigit = true) : digitValue c < 10 := by
  have hc : 48 ≤ c.toNat ∧ c.toNat ≤ 57 := Char.isDigit_iff_toNat.1 h
  change c.toNat - 48 < 10
  omega

/-- Digits are ordered by their values. -/
theorem lt_iff_digitValue_lt {c d : Char} (hc : c.isDigit = true) (hd : d.isDigit = true) :
    c < d ↔ digitValue c < digitValue d := by
  have hlow : 48 ≤ c.toNat := (Char.isDigit_iff_toNat.1 hc).1
  have hlow' : 48 ≤ d.toNat := (Char.isDigit_iff_toNat.1 hd).1
  change c.toNat < d.toNat ↔ c.toNat - 48 < d.toNat - 48
  omega

theorem digitValue_inj {c d : Char} (hc : c.isDigit = true) (hd : d.isDigit = true) :
    digitValue c = digitValue d ↔ c = d := by
  have hlow : 48 ≤ c.toNat := (Char.isDigit_iff_toNat.1 hc).1
  have hlow' : 48 ≤ d.toNat := (Char.isDigit_iff_toNat.1 hd).1
  rw [← Char.toNat_inj]
  change c.toNat - 48 = d.toNat - 48 ↔ c.toNat = d.toNat
  omega

theorem digitsValue_lt (h : ∀ c ∈ cs, c.isDigit = true) : digitsValue cs < 10 ^ cs.length := by
  induction cs with
  | nil => exact Nat.one_pos
  | cons c cs ih =>
    have hc := digitValue_lt (h c List.mem_cons_self)
    have hcs := ih (List.forall_mem_cons.1 h).2
    rw [digitsValue_cons, List.length_cons, Nat.pow_succ']
    calc digitValue c * 10 ^ cs.length + digitsValue cs
        < (digitValue c + 1) * 10 ^ cs.length := by rw [Nat.succ_mul]; omega
      _ ≤ 10 * 10 ^ cs.length := Nat.mul_le_mul_right _ hc

/-- The first digits count first. -/
theorem mul_add_lt_mul_add_iff {a b x y p : ℕ} (hx : x < p) (hy : y < p) :
    a * p + x < b * p + y ↔ a < b ∨ a = b ∧ x < y := by
  obtain hlt | rfl | hgt := Nat.lt_trichotomy a b
  · have hstep := Nat.mul_le_mul_right p (Nat.succ_le_of_lt hlt)
    rw [Nat.succ_mul] at hstep
    omega
  · omega
  · have hstep := Nat.mul_le_mul_right p (Nat.succ_le_of_lt hgt)
    rw [Nat.succ_mul] at hstep
    omega

/-- **Texts of equally many digits are ordered by their values.** -/
theorem lt_iff_digitsValue_lt (hlength : cs.length = ds.length)
    (hcs : ∀ c ∈ cs, c.isDigit = true) (hds : ∀ d ∈ ds, d.isDigit = true) :
    cs < ds ↔ digitsValue cs < digitsValue ds := by
  induction cs generalizing ds with
  | nil =>
    obtain rfl := List.eq_nil_of_length_eq_zero hlength.symm
    exact iff_of_false (List.not_lt_nil _) (Nat.lt_irrefl _)
  | cons c cs ih =>
    obtain ⟨d, ds, rfl⟩ := List.exists_cons_of_length_eq_add_one hlength.symm
    obtain ⟨hc, hcs⟩ := List.forall_mem_cons.1 hcs
    obtain ⟨hd, hds⟩ := List.forall_mem_cons.1 hds
    have htails : cs.length = ds.length := Nat.succ.inj hlength
    rw [List.cons_lt_cons_iff, ih htails hcs hds, lt_iff_digitValue_lt hc hd,
      ← digitValue_inj hc hd, digitsValue_cons, digitsValue_cons, htails,
      mul_add_lt_mul_add_iff (htails ▸ digitsValue_lt hcs) (digitsValue_lt hds)]

/-! ## Leading zeros -/

theorem isDigit_of_mem_padded {c : Char} (h : c ∈ padded width n) : c.isDigit = true := by
  obtain hzero | hdigit := List.mem_append.1 h
  · rw [List.eq_of_mem_replicate hzero]
    rfl
  · exact isDigit_of_mem_digits hdigit

@[simp] theorem digitsValue_padded (width n : ℕ) : digitsValue (padded width n) = n := by
  rw [padded, digitsValue_append, digitsValue_zeros, digitsValue_digits, Nat.zero_mul, Nat.zero_add]

theorem length_padded (hwidth : 0 < width) (h : n < 10 ^ width) :
    (padded width n).length = width := by
  have hle : (digits n).length ≤ width :=
    (Nat.length_toDigits_le_iff (by decide) hwidth).2 h
  rw [padded, List.length_append, List.length_replicate, Nat.sub_add_cancel hle]

/-- **Numbers of the same width are ordered as numbers.** -/
theorem padded_lt_padded_iff (hwidth : 0 < width) (hn : n < 10 ^ width) (hm : m < 10 ^ width) :
    padded width n < padded width m ↔ n < m := by
  rw [lt_iff_digitsValue_lt (by rw [length_padded hwidth hn, length_padded hwidth hm])
    (fun _ => isDigit_of_mem_padded) fun _ => isDigit_of_mem_padded, digitsValue_padded,
    digitsValue_padded]

end QuerySql.Number
