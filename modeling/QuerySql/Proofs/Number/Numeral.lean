/-
  Texts of numbers are numerals.

  * `IsNumeral` texts keep the grammar of numerals: an optional minus sign, digits,
    and optionally a fraction and an exponent;
  * the text of an integer is one (`isNumeral_intText`), and so is the text of a
    finite float (`isNumeral_numberText`), which is written as `Binary64.numeral`;
  * the text of any other float is a word for it (`numberText_mem_specialTexts`).
-/
import QuerySql.Proofs.Json.Numeral
import QuerySql.Value.Text

namespace QuerySql

open Json (Numeral)

/-- The text keeps the grammar of numerals. -/
def IsNumeral (text : String) : Prop := ∃ n : Numeral, n.IsWellFormed ∧ n.chars = text.toList

/-- The words for the floats that are not finite. -/
def specialTexts : List String := ["NaN", "Infinity", "-Infinity"]

theorem isNumeral_intText (n : Int) : IsNumeral (Number.intText n) :=
  ⟨.ofInt n, Numeral.isWellFormed_ofInt n, Numeral.chars_ofInt n⟩

/-! ## Floats -/

/-- The float is written with an exponent. -/
def Binary64.IsScientific (x : Binary64) : Prop :=
  scientificFrom.magnitude ≤ x.magnitude ∨ x.magnitude < scientificBelow.magnitude

instance (x : Binary64) : Decidable x.IsScientific := inferInstanceAs (Decidable (_ ∨ _))

/-- The numeral that a finite float other than zero is written as, without its sign. -/
def Binary64.unsignedNumeral (x : Binary64) : Numeral :=
  if x.IsScientific then .ofScientific (x.shortest .up) else .ofPositional (x.shortest .up)

/-- The numeral that a finite float is written as. -/
def Binary64.numeral (x : Binary64) : Numeral :=
  if x.isZero then .ofInt 0 else { x.unsignedNumeral with negative := x.isNegative }

section

variable {x : Binary64}

theorem isWellFormed_unsignedNumeral (hzero : x.isZero = false) :
    x.unsignedNumeral.IsWellFormed := by
  unfold Binary64.unsignedNumeral
  split
  · exact Numeral.isWellFormed_ofScientific _
  · exact Numeral.isWellFormed_ofPositional (x.shortest_pos hzero .up)

theorem isWellFormed_numeral (x : Binary64) : x.numeral.IsWellFormed := by
  unfold Binary64.numeral
  split
  · exact Numeral.isWellFormed_ofInt 0
  · next hzero => exact (isWellFormed_unsignedNumeral (Bool.not_eq_true _ ▸ hzero)).withSign _

theorem unsigned_unsignedNumeral (x : Binary64) : x.unsignedNumeral.unsigned = magnitudeText x := by
  unfold Binary64.unsignedNumeral magnitudeText
  split
  · next h => exact (Numeral.unsigned_ofScientific _).trans (if_pos h).symm
  · next h => exact (Numeral.unsigned_ofPositional _).trans (if_neg h).symm

/-- **A finite float is written as its numeral.** -/
theorem chars_numeral (h : x.isFinite = true) : x.numeral.chars = (numberText x).toList := by
  have hbelow : x.magnitude < Binary64.infinityMagnitude := of_decide_eq_true h
  have hnan : x.isNaN = false := decide_eq_false (Nat.lt_asymm hbelow)
  have hinfinite : x.isInfinite = false := beq_eq_false_iff_ne.2 (Nat.ne_of_lt hbelow)
  simp only [numberText, hnan, hinfinite, Bool.false_eq_true, if_false, Binary64.numeral]
  cases hzero : x.isZero with
  | true =>
    rw [if_pos rfl, if_pos rfl, Numeral.chars_ofInt]
    rfl
  | false =>
    have hsame : ({ x.unsignedNumeral with negative := x.isNegative } : Numeral).unsigned =
      x.unsignedNumeral.unsigned := rfl
    simp only [Bool.false_eq_true, if_false, Numeral.chars, hsame, unsigned_unsignedNumeral,
      String.toList_ofList]

end

theorem isNumeral_numberText {x : Binary64} (h : x.isFinite = true) : IsNumeral (numberText x) :=
  ⟨x.numeral, isWellFormed_numeral x, chars_numeral h⟩

/-- The text of a float that is not finite is a word for it. -/
theorem numberText_mem_specialTexts {x : Binary64} (h : x.isFinite = false) :
    numberText x ∈ specialTexts := by
  have habove : ¬ x.magnitude < Binary64.infinityMagnitude := of_decide_eq_false h
  unfold numberText specialTexts
  split
  · simp
  · next hnan =>
    have hnot : ¬ Binary64.infinityMagnitude < x.magnitude := fun hlt => hnan (decide_eq_true hlt)
    have hinfinite : x.isInfinite = true := beq_iff_eq.2 (by omega)
    rw [if_pos hinfinite]
    split <;> simp

end QuerySql
