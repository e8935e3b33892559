/-
  Texts of numbers are bare words.

  * `isBare_intText`: the text of an integer is a word for a value;
  * `isBare_numberText`: so is the text of a float.  A minus sign stands at its
    start, or behind the `e` of an exponent and in front of a digit, so no two
    of them are neighbours.
-/
import QuerySql.Proofs.Sql.Test
import QuerySql.Value.Text

namespace QuerySql

open Sql (isNumeric IsBare)

/-! ## Minus signs -/

/-- A text is without a double minus sign if no minus sign has another behind it. -/
theorem not_infix_dashes {w : List Char} (h : w.IsChain fun a b => ¬(a = '-' ∧ b = '-')) :
    ¬ ['-', '-'] <:+: w := by
  rintro ⟨s, t, rfl⟩
  simp [List.isChain_append] at h

theorem isChain_of_dash_notMem {w : List Char} (h : '-' ∉ w) :
    w.IsChain fun a b => ¬(a = '-' ∧ b = '-') := by
  refine List.Pairwise.isChain ?_
  exact List.pairwise_of_forall_mem_list fun a ha b _ hab => h (hab.1 ▸ ha)

/-- A number with at most a minus sign at its start. -/
theorem isBare_of_dash_notMem {w : List Char} (negative : Bool) (hne : w ≠ [])
    (hnum : ∀ c ∈ w, isNumeric c = true) (h : '-' ∉ w) :
    IsBare (if negative then '-' :: w else w) := by
  refine Or.inr ?_
  cases negative with
  | false => exact ⟨hne, hnum, not_infix_dashes (isChain_of_dash_notMem h)⟩
  | true =>
    refine ⟨by simp, List.forall_mem_cons.2 ⟨by decide, hnum⟩, not_infix_dashes ?_⟩
    refine (isChain_of_dash_notMem h).cons fun b hb hab => ?_
    exact h (hab.2 ▸ List.mem_of_mem_head? hb)

/-! ## Integers -/

theorem isNumeric_of_isDigit {c : Char} (h : c.isDigit = true) : isNumeric c = true := by
  simp [isNumeric, h]

theorem isNumeric_of_mem_digits {n : Nat} {c : Char} (h : c ∈ Number.digits n) :
    isNumeric c = true :=
  isNumeric_of_isDigit (Number.isDigit_of_mem_digits h)

theorem dash_notMem_digits (n : Nat) : '-' ∉ Number.digits n :=
  fun h => absurd (Number.isDigit_of_mem_digits h) (by decide)

theorem isBare_intText (n : Int) : IsBare (Number.intText n).toList := by
  have h := isBare_of_dash_notMem (decide (n < 0)) (Number.digits_ne_nil n.natAbs)
    (fun c => isNumeric_of_mem_digits) (dash_notMem_digits n.natAbs)
  by_cases hn : n < 0 <;> simpa [Number.intText, hn] using h

/-! ## Floats -/

namespace Decimal
variable (d : Decimal)

theorem mem_positional {c : Char} (h : c ∈ d.positional) : c.isDigit = true ∨ c = '.' := by
  have hdigit : ∀ {n : Nat}, c ∈ Number.digits n → c.isDigit = true := Number.isDigit_of_mem_digits
  have hzero : ∀ {k : Nat}, c ∈ List.replicate k '0' → c.isDigit = true := fun hc => by
    rw [(List.mem_replicate.1 hc).2]; decide
  unfold positional at h
  split_ifs at h
  · rcases List.mem_append.1 h with h | h
    exacts [Or.inl (hdigit h), Or.inl (hzero h)]
  · rcases List.mem_append.1 h with h | h
    · exact Or.inl (hdigit (List.mem_of_mem_take h))
    · rcases List.mem_cons.1 h with h | h
      exacts [Or.inr h, Or.inl (hdigit (List.mem_of_mem_drop h))]
  · simp only [List.mem_cons, List.mem_append] at h
    rcases h with rfl | h | h | h
    exacts [Or.inl (by decide), Or.inr h, Or.inl (hzero h), Or.inl (hdigit h)]

theorem positional_ne_nil : d.positional ≠ [] := by
  unfold positional
  split_ifs <;> simp [Number.digits_ne_nil]

/-- The scientific form: digits with a point, `e`, a sign and the digits of the
    exponent. -/
theorem scientific_eq : ∃ (m : List Char) (sign : Char) (n : Nat),
    d.scientific = m ++ 'e' :: sign :: Number.digits n ∧ (sign = '-' ∨ sign = '+') ∧
      ∀ c ∈ m, c.isDigit = true ∨ c = '.' := by
  refine ⟨_, _, d.leadingExponent.natAbs, rfl, ?_, fun c hc => ?_⟩
  · split_ifs
    exacts [Or.inl rfl, Or.inr rfl]
  · have hdigit : c ∈ Number.digits d.digits → c.isDigit = true := Number.isDigit_of_mem_digits
    split at hc
    · cases hc
    · next h => exact Or.inl (hdigit (h ▸ hc))
    · next h =>
      rw [h] at hdigit
      rcases List.mem_cons.1 hc with rfl | hc
      · exact Or.inl (hdigit (by simp))
      · rcases List.mem_cons.1 hc with hc | hc
        exacts [Or.inr hc, Or.inl (hdigit (by simp [hc]))]

end Decimal

theorem isNumeric_of_digit_or_point {c : Char} (h : c.isDigit = true ∨ c = '.') :
    isNumeric c = true := by
  rcases h with h | rfl
  exacts [isNumeric_of_isDigit h, by decide]

theorem dash_notMem_of_digits_or_points {w : List Char}
    (h : ∀ c ∈ w, c.isDigit = true ∨ c = '.') : '-' ∉ w :=
  fun hd => absurd (h _ hd) (by decide)

theorem isBare_positional (negative : Bool) (d : Decimal) :
    IsBare (if negative then '-' :: d.positional else d.positional) :=
  isBare_of_dash_notMem negative d.positional_ne_nil
    (fun _ hc => isNumeric_of_digit_or_point (d.mem_positional hc))
    (dash_notMem_of_digits_or_points fun _ => d.mem_positional)

theorem isBare_scientific (negative : Bool) (d : Decimal) :
    IsBare (if negative then '-' :: d.scientific else d.scientific) := by
  obtain ⟨m, sign, n, he, hsign, hm⟩ := d.scientific_eq
  have hnum : ∀ c ∈ d.scientific, isNumeric c = true := by
    intro c hc
    simp only [he, List.mem_append, List.mem_cons] at hc
    rcases hc with hc | rfl | rfl | hc
    · exact isNumeric_of_digit_or_point (hm c hc)
    · decide
    · rcases hsign with rfl | rfl <;> decide
    · exact isNumeric_of_mem_digits hc
  -- the only minus sign is the one of the exponent, with a digit behind it
  have hchain : d.scientific.IsChain fun a b => ¬(a = '-' ∧ b = '-') := by
    have hdash := dash_notMem_digits n
    rw [he]
    refine (isChain_of_dash_notMem (dash_notMem_of_digits_or_points hm)).append ?_ ?_
    · refine ((isChain_of_dash_notMem hdash).cons fun b hb hab => ?_).cons_cons (by simp)
      exact hdash (hab.2 ▸ List.mem_of_mem_head? hb)
    · rintro a - b hb ⟨-, rfl⟩
      cases hb
  have hhead : ∀ b ∈ d.scientific.head?, b ≠ '-' := by
    rw [he]
    cases m with
    | nil => rintro b hb rfl; cases hb
    | cons c m =>
      rintro b hb rfl
      cases hb
      exact absurd (hm '-' (by simp)) (by decide)
  refine Or.inr ?_
  cases negative with
  | false => exact ⟨by simp [he], hnum, not_infix_dashes hchain⟩
  | true =>
    refine ⟨by simp, List.forall_mem_cons.2 ⟨by decide, hnum⟩, not_infix_dashes ?_⟩
    exact hchain.cons fun b hb hab => hhead b hb hab.2

theorem isBare_numberText (x : Binary64) : IsBare (numberText x).toList := by
  unfold numberText
  split_ifs
  · exact Or.inl (by decide)
  · exact Or.inl (by decide)
  · exact Or.inl (by decide)
  · exact isBare_intText 0
  · have h := isBare_scientific true (x.shortest .up)
    have h' := isBare_positional true (x.shortest .up)
    simp only [String.toList_ofList, magnitudeText]
    split_ifs
    exacts [h, h']
  · have h := isBare_scientific false (x.shortest .up)
    have h' := isBare_positional false (x.shortest .up)
    simp only [String.toList_ofList, magnitudeText]
    split_ifs
    exacts [h, h']

end QuerySql
