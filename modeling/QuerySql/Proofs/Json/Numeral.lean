/-
  Numerals as they are printed.

  * `Numeral.chars` is the written form of a numeral, with a sign in front of
    every exponent; a numeral that keeps the grammar (`IsWellFormed`) is read back
    from it (`Numeral.ofChars?_chars`);
  * the text of an integer is such a numeral and denotes the integer
    (`Numeral.value?_ofInt`);
  * so is the text of a float, and it is not the numeral of an integer
    (`Numeral.exists_floatChars`).
-/
import Mathlib.Algebra.Group.Int.Defs
import QuerySql.Json.Basic
import QuerySql.Json.Printer
import QuerySql.Proofs.Number.Shortest

namespace QuerySql.Json

namespace Numeral

/-! ## Written form -/

/-- At least one digit, and nothing else. -/
def IsDigits (cs : List Char) : Prop := cs ≠ [] ∧ ∀ c ∈ cs, c.isDigit = true

/-- A fraction behind its point. -/
def fractionChars : Option (List Char) → List Char
  | none => []
  | some ds => '.' :: ds

/-- An exponent with its sign. -/
def exponentChars : Option (Bool × List Char) → List Char
  | none => []
  | some (negative, ds) => 'e' :: (if negative then '-' else '+') :: ds

/-- The written form without the sign. -/
def unsigned (n : Numeral) : List Char :=
  n.whole ++ (fractionChars n.fraction ++ exponentChars n.exponent)

/-- The written form. -/
def chars (n : Numeral) : List Char := if n.negative then '-' :: n.unsigned else n.unsigned

/-- The numeral keeps the grammar. -/
structure IsWellFormed (n : Numeral) : Prop where
  whole : IsDigits n.whole
  /-- no superfluous leading zero -/
  leading : n.whole.head? = some '0' → n.whole = ['0']
  fraction : ∀ ds ∈ n.fraction, IsDigits ds
  exponent : ∀ e ∈ n.exponent, IsDigits e.2

/-! ## Reading -/

theorem takeWhile_isDigit {cs : List Char} (h : ∀ c ∈ cs.head?, c.isDigit = false) :
    cs.takeWhile Char.isDigit = [] ∧ cs.dropWhile Char.isDigit = cs := by
  cases cs with
  | nil => exact ⟨rfl, rfl⟩
  | cons c cs => simp [h c rfl]

theorem digits?_append {ds rest : List Char} (hds : IsDigits ds)
    (hrest : ∀ c ∈ rest.head?, c.isDigit = false) : digits? (ds ++ rest) = some (ds, rest) := by
  obtain ⟨hne, hdigits⟩ := hds
  obtain ⟨htake, hdrop⟩ := takeWhile_isDigit hrest
  unfold digits?
  rw [List.takeWhile_append_of_pos hdigits, List.dropWhile_append_of_pos hdigits, htake, hdrop,
    List.append_nil]
  cases ds with
  | nil => exact absurd rfl hne
  | cons d ds => rfl

theorem whole?_append {ds rest : List Char} (hds : IsDigits ds)
    (hleading : ds.head? = some '0' → ds = ['0'])
    (hrest : ∀ c ∈ rest.head?, c.isDigit = false) : whole? (ds ++ rest) = some (ds, rest) := by
  obtain ⟨d, ds, rfl⟩ := List.exists_cons_of_ne_nil hds.1
  by_cases hd : d = '0'
  · subst hd
    rw [hleading rfl]
    rfl
  · rw [whole?.eq_def]
    split
    · next h => exact absurd (List.cons.inj h).1 hd
    · exact digits?_append hds hrest

theorem fraction?_append {fraction : Option (List Char)} {rest : List Char}
    (hfraction : ∀ ds ∈ fraction, IsDigits ds)
    (hrest : ∀ c ∈ rest.head?, c.isDigit = false ∧ c ≠ '.') :
    fraction? (fractionChars fraction ++ rest) = some (fraction, rest) := by
  cases fraction with
  | none =>
    rw [fractionChars, List.nil_append, fraction?.eq_def]
    split
    · exact absurd rfl (hrest '.' rfl).2
    · rfl
  | some ds =>
    have hdigits := digits?_append (hfraction ds rfl) fun c hc => (hrest c hc).1
    rw [fractionChars, List.cons_append, fraction?, hdigits]
    rfl

theorem exponent?_exponentChars {exponent : Option (Bool × List Char)}
    (h : ∀ e ∈ exponent, IsDigits e.2) : exponent? (exponentChars exponent) = some exponent := by
  cases exponent with
  | none => rfl
  | some e =>
    obtain ⟨negative, ds⟩ := e
    have hdigits : digits? (ds ++ []) = some (ds, []) := digits?_append (h _ rfl) nofun
    rw [List.append_nil] at hdigits
    cases negative <;> simp [exponentChars, exponent?, hdigits]

theorem head?_exponentChars (exponent : Option (Bool × List Char)) :
    ∀ c ∈ (exponentChars exponent).head?, c.isDigit = false ∧ c ≠ '.' := by
  cases exponent with
  | none => exact nofun
  | some e => rintro c ⟨⟩; decide

theorem head?_behind_whole (n : Numeral) :
    ∀ c ∈ (fractionChars n.fraction ++ exponentChars n.exponent).head?, c.isDigit = false := by
  cases n.fraction with
  | none => exact fun c hc => (head?_exponentChars _ c hc).1
  | some ds => rintro c ⟨⟩; decide

/-- **A numeral is read back from its written form.** -/
theorem ofChars?_chars {n : Numeral} (h : n.IsWellFormed) : ofChars? n.chars = some n := by
  have hwhole := whole?_append h.whole h.leading (head?_behind_whole n)
  have hfraction := fraction?_append h.fraction (head?_exponentChars n.exponent)
  have hexponent := exponent?_exponentChars h.exponent
  have hdash : ∀ rest, n.unsigned ≠ '-' :: rest := by
    intro rest heq
    obtain ⟨d, ds, hd⟩ := List.exists_cons_of_ne_nil h.whole.1
    have hdigit := h.whole.2 d (by rw [hd]; exact List.mem_cons_self)
    rw [unsigned, hd] at heq
    rw [(List.cons.inj heq).1] at hdigit
    exact absurd hdigit (by decide)
  cases hnegative : n.negative with
  | true =>
    rw [chars, hnegative, if_pos rfl, ofChars?]
    simp [unsigned, hwhole, hfraction, hexponent, ← hnegative]
  | false =>
    rw [chars, hnegative, if_neg Bool.false_ne_true, ofChars?]
    · simp [unsigned, hwhole, hfraction, hexponent, ← hnegative]
    · exact hdash

/-! ## Integers -/

/-- The numeral of an integer. -/
def ofInt (n : Int) : Numeral := ⟨n < 0, Number.digits n.natAbs, none, none⟩

theorem isDigits_digits (n : Nat) : IsDigits (Number.digits n) :=
  ⟨Number.digits_ne_nil n, fun _ => Number.isDigit_of_mem_digits⟩

theorem isDigits_zero : IsDigits ['0'] := ⟨by simp, List.forall_mem_singleton.2 rfl⟩

theorem isWellFormed_ofInt (n : Int) : (ofInt n).IsWellFormed where
  whole := isDigits_digits _
  leading h := by
    obtain hzero | hpos := Nat.eq_zero_or_pos n.natAbs
    · simp [ofInt, hzero, Number.digits]
    · exact absurd h (Number.head?_digits hpos)
  fraction := nofun
  exponent := nofun

theorem chars_ofInt (n : Int) : (ofInt n).chars = (Number.intText n).toList := by
  by_cases h : n < 0 <;>
    simp [ofInt, chars, unsigned, fractionChars, exponentChars, Number.intText, h]

/-- The numeral of an integer denotes the integer, if this fits 64 bits. -/
theorem value?_ofInt {n : Int} (h : -2 ^ 63 ≤ n ∧ n < 2 ^ 64) :
    (ofInt n).value? = some (.integer n) := by
  have hinteger : (ofInt n).integer? = some n := by
    have hsmall : Nat.pow 2 63 = 2 ^ 63 := rfl
    have hlarge : Nat.pow 2 64 = 2 ^ 64 := rfl
    simp only [integer?, ofInt, Number.digitsValue_digits, hsmall, hlarge]
    by_cases hneg : n < 0
    · rw [decide_eq_true hneg, if_pos rfl, if_pos (by omega), Option.some.injEq]
      omega
    · rw [decide_eq_false hneg, if_neg Bool.false_ne_true, if_pos (by omega), Option.some.injEq]
      omega
  rw [value?, hinteger]

/-! ## Floats -/

/-- The numeral has a fraction or an exponent. -/
def HasPoint (n : Numeral) : Prop := n.fraction.isSome ∨ n.exponent.isSome

theorem HasPoint.integer?_eq_none {n : Numeral} (h : n.HasPoint) : n.integer? = none := by
  unfold integer?
  split
  · next hfraction hexponent => simp [HasPoint, hfraction, hexponent] at h
  · rfl

theorem isDigits_append {cs ds : List Char} (hcs : ∀ c ∈ cs, c.isDigit = true) (hds : IsDigits ds) :
    IsDigits (cs ++ ds) :=
  ⟨List.append_ne_nil_of_right_ne_nil cs hds.1, List.forall_mem_append.2 ⟨hcs, hds.2⟩⟩

theorem isDigit_of_mem_zeros {k : Nat} : ∀ c ∈ List.replicate k '0', c.isDigit = true := by
  intro c hc
  rw [(List.mem_replicate.1 hc).2]
  decide

/-! ### Written forms of decimals -/

/-- The numeral that a decimal is written as without an exponent. -/
def ofPositional (d : Decimal) : Numeral :=
  let ds := Number.digits d.digits
  if 0 ≤ d.exponent then ⟨false, ds ++ List.replicate d.exponent.toNat '0', none, none⟩
  else if 0 < d.pointPosition then
    ⟨false, ds.take d.pointPosition.toNat, some (ds.drop d.pointPosition.toNat), none⟩
  else ⟨false, ['0'], some (List.replicate (-d.pointPosition).toNat '0' ++ ds), none⟩

/-- The numeral that a decimal is written as with an exponent. -/
def ofScientific (d : Decimal) : Numeral where
  negative := false
  whole := (Number.digits d.digits).take 1
  fraction := if (Number.digits d.digits).drop 1 = [] then none
    else some ((Number.digits d.digits).drop 1)
  exponent := some (d.leadingExponent < 0, Number.digits d.leadingExponent.natAbs)

section

variable {d : Decimal}

theorem unsigned_ofPositional (d : Decimal) : (ofPositional d).unsigned = d.positional := by
  unfold ofPositional Decimal.positional
  split_ifs <;> simp [unsigned, fractionChars, exponentChars]

theorem unsigned_ofScientific (d : Decimal) : (ofScientific d).unsigned = d.scientific := by
  obtain ⟨c, cs, hcs⟩ := List.exists_cons_of_ne_nil (Number.digits_ne_nil d.digits)
  simp only [ofScientific, Decimal.scientific, hcs]
  cases cs <;> simp [unsigned, fractionChars, exponentChars]

theorem exponent_ofPositional (d : Decimal) : (ofPositional d).exponent = none := by
  unfold ofPositional
  split_ifs <;> rfl

theorem hasPoint_ofPositional (h : d.exponent < 0) : (ofPositional d).HasPoint := by
  unfold ofPositional
  rw [if_neg (by omega)]
  split_ifs <;> exact Or.inl rfl

theorem hasPoint_ofScientific (d : Decimal) : (ofScientific d).HasPoint := Or.inr rfl

/-- The digits of an integer with zeros behind them are digits of an integer. -/
theorem leading_digits_append {n : Nat} (hn : 0 < n) (ds : List Char) :
    (Number.digits n ++ ds).head? = some '0' → Number.digits n ++ ds = ['0'] := by
  intro h
  rw [List.head?_append_of_ne_nil _ (Number.digits_ne_nil n)] at h
  exact absurd h (Number.head?_digits hn)

theorem isDigits_digits_append (n k : Nat) :
    IsDigits (Number.digits n ++ List.replicate k '0') :=
  ⟨List.append_ne_nil_of_left_ne_nil (Number.digits_ne_nil n) _,
    List.forall_mem_append.2 ⟨(isDigits_digits n).2, isDigit_of_mem_zeros⟩⟩

theorem isWellFormed_ofPositional (hd : 0 < d.digits) : (ofPositional d).IsWellFormed := by
  have hdigits := isDigits_digits d.digits
  have hposition : d.pointPosition = (Number.digits d.digits).length + d.exponent := rfl
  unfold ofPositional
  split_ifs with hexponent hpoint
  · exact ⟨isDigits_digits_append _ _, leading_digits_append hd _, nofun, nofun⟩
  · -- the point stands between two of the digits
    refine ⟨⟨?_, fun c hc => hdigits.2 c (List.mem_of_mem_take hc)⟩, fun h => ?_, ?_, nofun⟩
    · rw [ne_eq, List.take_eq_nil_iff, not_or]
      exact ⟨by omega, hdigits.1⟩
    · rw [List.head?_take, if_neg (by omega)] at h
      exact absurd h (Number.head?_digits hd)
    · rintro ds ⟨⟩
      refine ⟨?_, fun c hc => hdigits.2 c (List.mem_of_mem_drop hc)⟩
      rw [ne_eq, List.drop_eq_nil_iff]
      omega
  · -- all the digits stand behind the point
    refine ⟨isDigits_zero, fun _ => rfl, ?_, nofun⟩
    rintro ds ⟨⟩
    exact isDigits_append isDigit_of_mem_zeros hdigits

theorem isWellFormed_ofScientific (d : Decimal) : (ofScientific d).IsWellFormed := by
  have hdigits := isDigits_digits d.digits
  obtain ⟨c, cs, hcs⟩ := List.exists_cons_of_ne_nil hdigits.1
  have hone : (Number.digits d.digits).take 1 = [c] := by rw [hcs]; rfl
  refine ⟨⟨?_, fun x hx => hdigits.2 x (List.mem_of_mem_take hx)⟩, fun h => ?_, ?_, ?_⟩
  · rw [ofScientific, hone]
    exact List.cons_ne_nil c []
  · rw [ofScientific, hone] at h ⊢
    rw [Option.some.inj h]
  · intro ds hds
    by_cases hnil : (Number.digits d.digits).drop 1 = []
    · simp [ofScientific, hnil] at hds
    · simp only [ofScientific, hnil, if_false, Option.mem_def, Option.some.injEq] at hds
      exact hds ▸ ⟨hnil, fun x hx => hdigits.2 x (List.mem_of_mem_drop hx)⟩
  · rintro e ⟨⟩
    exact isDigits_digits _

end

/-- The text of a positive decimal is that of a numeral. -/
theorem exists_decimalChars {d : Decimal} (hd : 0 < d.digits) :
    ∃ n : Numeral, n.IsWellFormed ∧ n.HasPoint ∧ n.unsigned = decimalChars d := by
  unfold decimalChars
  split
  · split
    · next hexponent =>
      refine ⟨⟨false, Number.digits d.digits ++ List.replicate d.exponent.toNat '0', some ['0'],
        none⟩, ⟨isDigits_digits_append _ _, leading_digits_append hd _, ?_, nofun⟩, Or.inl rfl, ?_⟩
      · rintro ds ⟨⟩
        exact isDigits_zero
      · simp [unsigned, fractionChars, exponentChars, Decimal.positional, hexponent]
    · next hexponent =>
      exact ⟨ofPositional d, isWellFormed_ofPositional hd, hasPoint_ofPositional (by omega),
        unsigned_ofPositional d⟩
  · exact ⟨ofScientific d, isWellFormed_ofScientific d, hasPoint_ofScientific d,
      unsigned_ofScientific d⟩

/-- A sign does not change whether a numeral keeps the grammar. -/
theorem IsWellFormed.withSign {n : Numeral} (h : n.IsWellFormed) (negative : Bool) :
    ({ n with negative } : Numeral).IsWellFormed :=
  ⟨h.whole, h.leading, h.fraction, h.exponent⟩

/-- **The text of a float is a numeral, and not that of an integer.** -/
theorem exists_floatChars (x : Binary64) :
    ∃ n : Numeral, n.IsWellFormed ∧ n.HasPoint ∧ n.chars = floatChars x := by
  obtain ⟨n, hn, hpoint, hunsigned⟩ : ∃ n : Numeral, n.IsWellFormed ∧ n.HasPoint ∧
      n.unsigned = if x.isZero then ['0', '.', '0'] else decimalChars (x.shortest .even) := by
    by_cases hzero : x.isZero
    · refine ⟨⟨false, ['0'], some ['0'], none⟩, ⟨isDigits_zero, fun _ => rfl, ?_, nofun⟩,
        Or.inl rfl, by rw [if_pos hzero]; rfl⟩
      rintro ds ⟨⟩
      exact isDigits_zero
    · rw [if_neg hzero]
      exact exists_decimalChars (x.shortest_pos (Bool.not_eq_true _ ▸ hzero) .even)
  refine ⟨{ n with negative := x.isNegative }, hn.withSign _, hpoint, ?_⟩
  have hsame : ({ n with negative := x.isNegative } : Numeral).unsigned = n.unsigned := rfl
  rw [chars, hsame, hunsigned]
  rfl

end Numeral

end QuerySql.Json
