/-
  JSON integers as literals.

  A JSON reader holds the integers from `-2 ^ 63` up to `2 ^ 64 - 1`.  Those below
  `2 ^ 63` are integers as values too, and the others are the floats nearest to them.
  `Value.integerNumeral` is what an integer is written as, wherever its value is used
  (`Value.AppearsAs`): its own numeral or that of the float.

  So the literal of an integer below `2 ^ 63` denotes it.  From there up the literal
  denotes a number with the same nearest float, and integers with the same nearest float
  are the only ones that share a literal (`Value.integer_literals`).
-/
import QuerySql.Proofs.Condition.Leaf
import QuerySql.Proofs.Number.Denotation
import QuerySql.Proofs.Statement.Assignment
import QuerySql.Proofs.Value.Json

namespace QuerySql

open Json (Numeral)

/-! ## Nearest floats of integers -/

namespace Binary64

variable {n m : ℤ}

theorem ofInt_eq_nearest (n : ℤ) : ofInt n = nearest n := by
  have hsign : decide ((n : ℚ) < 0) = decide (n < 0) := by
    rw [decide_eq_decide]
    exact_mod_cast Iff.rfl
  rw [ofInt, nearest, hsign, Rat.num_intCast, Rat.den_intCast]

/-- The magnitude of the float `2 ^ (e - 1022)`. -/
def powerMagnitude (e : ℕ) : ℕ := e * 2 ^ 52 + 2 ^ 52

theorem point_powerMagnitude (k : ℕ) : point (powerMagnitude (1022 + k)) = 2 ^ k := by
  have hunit : ((1022 + k : ℕ) : ℤ) - 1074 = (k : ℤ) - 52 := by push_cast; ring
  rw [powerMagnitude, point_add (by norm_num) (by norm_num), hunit, zpow_sub₀ (by norm_num),
    zpow_natCast]
  push_cast
  field_simp

theorem point_lt_overflowLimit {m : ℕ} (h : m < infinityMagnitude) : point m < overflowLimit := by
  rw [← midpoint_infinity]
  exact (point_lt_midpoint m).trans_le (midpoint_strictMono.monotone (Nat.le_sub_one_of_lt h))

/-- The float `2 ^ 63` is written as a number above it. -/
theorem numeral_twoPow63 : (mk 0x43E0000000000000).numeral = .ofInt 9223372036854776000 := by
  decide +kernel

section

variable (hlow : 2 ^ 63 ≤ n) (hhigh : n < 2 ^ 64)
include hlow

theorem abs_cast_eq : |(n : ℚ)| = n := by
  refine abs_of_nonneg ?_
  have hnonneg : 0 ≤ n := by omega
  exact_mod_cast hnonneg

include hhigh

theorem abs_cast_lt_overflowLimit : |(n : ℚ)| < overflowLimit := by
  have hcast : (n : ℚ) < 2 ^ 64 := by exact_mod_cast hhigh
  rw [abs_cast_eq hlow]
  refine hcast.trans ?_
  rw [← point_powerMagnitude 64]
  exact point_lt_overflowLimit (by decide)

/-- The float of an integer from `2 ^ 63` up is not below `2 ^ 63`. -/
theorem le_magnitude_nearest : powerMagnitude 1085 ≤ (nearest n).magnitude := by
  obtain ⟨-, -, hnearest⟩ := nearest_parts (abs_cast_lt_overflowLimit hlow hhigh)
  by_contra hlt
  have hnext : (nearest n).magnitude + 1 ≤ powerMagnitude 1085 := Nat.lt_of_not_le hlt
  have hcast : (2 ^ 63 : ℚ) ≤ n := by exact_mod_cast hlow
  have hbelow := hnearest.le_midpoint le_rfl
  rw [abs_cast_eq hlow] at hbelow
  have hpoint : (2 ^ 63 : ℚ) < point (powerMagnitude 1085) :=
    (hcast.trans hbelow).trans_lt ((midpoint_lt_point_succ _).trans_le
      (point_strictMono.monotone hnext))
  rw [point_powerMagnitude 63] at hpoint
  exact lt_irrefl _ hpoint

theorem isZero_nearest : (nearest n).isZero = false := by
  have hle := le_magnitude_nearest hlow hhigh
  have hpos : 0 < powerMagnitude 1085 := by decide
  exact beq_eq_false_iff_ne.2 (by omega)

/-- What the float of such an integer is written as is not below `2 ^ 63` either: it is
    above the midpoint behind `2 ^ 63`, unless the float is `2 ^ 63` itself. -/
theorem le_rational_numeral : (2 ^ 63 : ℚ) ≤ (nearest n).numeral.rational := by
  obtain ⟨hsign, -, -⟩ := nearest_parts (abs_cast_lt_overflowLimit hlow hhigh)
  obtain ⟨hwritten, hsigns⟩ := isNearest_numeral (nearest n)
  have hpositive : (nearest n).isNegative = false := by
    rw [hsign, decide_eq_false_iff_not, ← abs_cast_eq hlow]
    exact not_lt.2 (abs_nonneg _)
  have hnonneg : 0 ≤ (nearest n).numeral.rational := by
    rw [isZero_nearest hlow hhigh, hpositive] at hsigns
    simpa using hsigns
  rw [abs_of_nonneg hnonneg] at hwritten
  obtain hlt | heq := lt_or_eq_of_le (le_magnitude_nearest hlow hhigh)
  · rw [← point_powerMagnitude 63]
    exact (point_lt_midpoint _).le.trans (hwritten.midpoint_le hlt)
  · have hleast : nearest n = ⟨0x43E0000000000000⟩ :=
      eq_of_parts (hpositive.trans rfl) (heq.symm.trans (by decide))
    rw [hleast, numeral_twoPow63, Numeral.rational_ofInt]
    norm_num

end

end Binary64

/-- What a comparator writes in front of a number and behind it. -/
def Comparator.affixes : Comparator → String × String
  | .lessThan => ("<", "")
  | .lessThanOrEqual => ("<=", "")
  | .greaterThan => (">", "")
  | .greaterThanOrEqual => (">=", "")
  | .not => ("<>", "")
  | .like => (" LIKE '", "'")
  | .contains => (" LIKE '%", "%'")
  | .startsWith => (" LIKE '", "%'")
  | .endsWith => (" LIKE '%", "'")

/-! ## Values of integers -/

namespace Value

variable {n m : ℤ}

/-- A JSON reader holds the integer. -/
def IsHeld (n : ℤ) : Prop := -2 ^ 63 ≤ n ∧ n < 2 ^ 64

/-- The value of a JSON integer. -/
def ofInteger (n : ℤ) : Value := ofJson (.integer n)

/-- The numeral that a JSON integer is written as. -/
def integerNumeral (n : ℤ) : Numeral :=
  if n < 2 ^ 63 then .ofInt n else (Binary64.nearest n).numeral

theorem ofJsonText?_intText (h : IsHeld n) :
    ofJsonText? (Number.intText n) = some (ofInteger n) := by
  have htext : Number.intText n = (Json.integer n).text := by
    simp [Json.text, Json.chars]
  rw [ofJsonText?, htext, Json.ofText?_text (.integer h)]
  rfl

theorem ofInteger_of_lt (hlow : -2 ^ 63 ≤ n) (hhigh : n < 2 ^ 63) :
    ∃ k : Int64, ofInteger n = .int k ∧ k.toInt = n := by
  have hrange : -Int.pow 2 63 ≤ n ∧ n < Int.pow 2 63 := ⟨hlow, hhigh⟩
  refine ⟨Int64.ofInt n, by rw [ofInteger, ofJson, if_pos hrange], ?_⟩
  exact Int64.toInt_ofInt_of_le hlow hhigh

theorem ofInteger_of_le (hlow : 2 ^ 63 ≤ n) :
    ofInteger n = .float (Binary64.nearest n) := by
  have hrange : ¬ (-Int.pow 2 63 ≤ n ∧ n < Int.pow 2 63) := fun h => absurd h.2 (not_lt.2 hlow)
  rw [ofInteger, ofJson, if_neg hrange, Binary64.ofInt_eq_nearest]

/-! ## Literals -/

/-- The text stands for the value wherever it is used: in an equality, behind a
    comparator, in a list of values and in a row that is inserted. -/
structure AppearsAs (v : Value) (text : String) : Prop where
  literal : Report.Ends v.literal text []
  equality : ∀ column, Report.Ends (Condition.equality column v)
    (Text.bracketed column ++ "=" ++ text) []
  comparison : ∀ column op, Report.Ends (Condition.comparison column op v)
    (Text.bracketed column ++ op.affixes.1 ++ text ++ op.affixes.2) []
  membership : ∀ column before after, Report.Ends
    (Condition.membership column (before ++ v :: after))
    (Text.bracketed column ++ " IN (" ++ ", ".intercalate
      (before.map (·.sqlLiteral.text) ++ text :: after.map (·.sqlLiteral.text)) ++ ")")
    (before.flatMap reports ++ after.flatMap reports)
  inserted : ∀ (before : Row) column (after : Row), Report.Ends
    (Row.literalList (before ++ (column, v) :: after))
    (", ".intercalate
      (before.map (·.2.sqlLiteral.text) ++ text :: after.map (·.2.sqlLiteral.text)))
    (before.flatMap (·.2.reports) ++ after.flatMap (·.2.reports))

theorem trimQuotes_sqlLiteral {v : Value} (h : v.kind = .number) :
    Text.trimQuotes v.sqlLiteral.text = v.sqlLiteral.text := by
  have hword : ∃ w bare, v.sqlLiteral = .word w bare := by
    cases v with
    | int | float => exact ⟨_, _, rfl⟩
    | _ => cases h
  obtain ⟨w, bare, hword⟩ := hword
  have hquote := Sql.Literal.quote_notMem_of_isBare bare
  simp [hword, Sql.Literal.text, Text.trimQuotes_eq, Text.trimChars_of_notMem hquote]

/-- The test of a comparator with a number. -/
theorem comparatorTest_of_number {v : Value} (h : v.kind = .number) (column : String)
    (op : Comparator) : (Leaf.comparatorTest column op v).text =
      Text.bracketed column ++ op.affixes.1 ++ v.sqlLiteral.text ++ op.affixes.2 := by
  have hsearch : ∀ before after : String, '\'' ∉ before.toList → '\'' ∉ after.toList →
      (Leaf.searchTest before after column v).text = Text.bracketed column ++
        (" LIKE '" ++ before) ++ v.sqlLiteral.text ++ (after ++ "'") := by
    intro before after hb ha
    rw [Leaf.searchTest_text hb ha, trimQuotes_sqlLiteral h]
    simp only [String.append_assoc]
  cases op with
  | like => exact hsearch "" "" (by decide) (by decide)
  | contains => exact hsearch "%" "%" (by decide) (by decide)
  | startsWith => exact hsearch "" "%" (by decide) (by decide)
  | endsWith => exact hsearch "%" "" (by decide) (by decide)
  | not =>
    cases v with
    | int | float => exact String.append_empty.symm
    | _ => cases h
  | _ => exact String.append_empty.symm

/-- **The literal of a number stands for it wherever it is used.** -/
theorem appearsAs_sqlLiteral {v : Value} (h : v.kind = .number) :
    v.AppearsAs v.sqlLiteral.text := by
  have hreports : v.reports = [] ∧ ∀ column op, (Leaf.compares column op v).reports = [] := by
    cases v with
    | int | float => exact ⟨rfl, fun column op => by cases op <;> rfl⟩
    | _ => cases h
  constructor
  · exact hreports.1 ▸ v.literal_ends
  · intro column
    have hends := Leaf.equality_ends column v
    cases v with
    | int | float => exact hends
    | _ => cases h
  · intro column op
    have hends := Leaf.comparison_ends column op v
    rwa [comparatorTest_of_number h, hreports.2] at hends
  · intro column before after
    have hends := Leaf.membership_ends column (before ++ v :: after)
    have hlist : (sqlLiterals (before ++ v :: after)).1 :: (sqlLiterals (before ++ v :: after)).2 =
        (before ++ v :: after).map sqlLiteral := by
      cases before <;> rfl
    rw [Sql.Test.text, hlist] at hends
    simpa [hreports.1, Sql.Test.listText, Function.comp_def] using hends
  · intro before column after
    have hends := Row.literalList_ends (before ++ (column, v) :: after)
    simpa [hreports.1] using hends

/-! ## Literals of integers -/

/-- **The literal of an integer is its numeral.** -/
theorem appearsAs_integerNumeral (h : IsHeld n) :
    (ofInteger n).AppearsAs (String.ofList (integerNumeral n).chars) := by
  by_cases hsmall : n < 2 ^ 63
  · obtain ⟨k, hk, hkn⟩ := ofInteger_of_lt h.1 hsmall
    have happears := appearsAs_sqlLiteral (v := .int k) rfl
    rw [sqlLiteral, Sql.Literal.text, hkn] at happears
    rwa [hk, integerNumeral, if_pos hsmall, Numeral.chars_ofInt]
  · have hlarge := not_lt.1 hsmall
    have hfinite := (Binary64.nearest_parts (Binary64.abs_cast_lt_overflowLimit hlarge h.2)).2.1
    rw [ofInteger_of_le hlarge, integerNumeral, if_neg hsmall, chars_numeral hfinite]
    exact appearsAs_sqlLiteral rfl

theorem isWellFormed_integerNumeral (n : ℤ) : (integerNumeral n).IsWellFormed := by
  unfold integerNumeral
  split
  · exact Numeral.isWellFormed_ofInt n
  · exact isWellFormed_numeral _

theorem rational_integerNumeral_of_lt (h : n < 2 ^ 63) : (integerNumeral n).rational = n := by
  rw [integerNumeral, if_pos h, Numeral.rational_ofInt]

/-- From `2 ^ 63` up, what the integer is written as has the same nearest float. -/
theorem nearest_integerNumeral (hlow : 2 ^ 63 ≤ n) (hhigh : n < 2 ^ 64) :
    Binary64.nearest (integerNumeral n).rational = Binary64.nearest n := by
  have hfinite := (Binary64.nearest_parts (Binary64.abs_cast_lt_overflowLimit hlow hhigh)).2.1
  have hvalue := Binary64.value_nearest_numeral hfinite
  rw [integerNumeral, if_neg (not_lt.2 hlow)]
  refine (Binary64.value_inj.1 hvalue).resolve_right fun hzero => ?_
  rw [Binary64.isZero_nearest hlow hhigh] at hzero
  cases hzero.2

/-- What an integer is written as is on the same side of `2 ^ 63`. -/
theorem rational_integerNumeral_lt_iff (h : IsHeld n) :
    (integerNumeral n).rational < 2 ^ 63 ↔ n < 2 ^ 63 := by
  by_cases hsmall : n < 2 ^ 63
  · rw [rational_integerNumeral_of_lt hsmall]
    exact_mod_cast Iff.rfl
  · have hle := Binary64.le_rational_numeral (not_lt.1 hsmall) h.2
    rw [integerNumeral, if_neg hsmall]
    exact iff_of_false (not_lt.2 hle) hsmall

/-- Integers are written alike iff they are the same, or have the same float as values. -/
theorem integerNumeral_eq_iff (hn : IsHeld n) (hm : IsHeld m) :
    integerNumeral n = integerNumeral m ↔
      n = m ∨ 2 ^ 63 ≤ n ∧ 2 ^ 63 ≤ m ∧ Binary64.nearest n = Binary64.nearest m := by
  constructor
  · intro heq
    have hside : n < 2 ^ 63 ↔ m < 2 ^ 63 := by
      rw [← rational_integerNumeral_lt_iff hn, heq, rational_integerNumeral_lt_iff hm]
    by_cases hsmall : n < 2 ^ 63
    · have hrational := congrArg Numeral.rational heq
      rw [rational_integerNumeral_of_lt hsmall,
        rational_integerNumeral_of_lt (hside.1 hsmall)] at hrational
      exact Or.inl (by exact_mod_cast hrational)
    · have hlarge := not_lt.1 hsmall
      have hlarge' := not_lt.1 (mt hside.2 hsmall)
      refine Or.inr ⟨hlarge, hlarge', ?_⟩
      rw [← nearest_integerNumeral hlarge hn.2, heq, nearest_integerNumeral hlarge' hm.2]
  · rintro (rfl | ⟨hlarge, hlarge', heq⟩)
    · rfl
    · rw [integerNumeral, integerNumeral, if_neg (not_lt.2 hlarge), if_neg (not_lt.2 hlarge'), heq]

/-- **JSON integers as literals.**  An integer that a JSON reader holds is written as a
    numeral, wherever its value is used.  The numeral denotes the integer if this is below
    `2 ^ 63`, and otherwise a number with the same nearest float.  Different integers have
    the same literal iff they are not below `2 ^ 63` and have the same nearest float. -/
theorem integer_literals :
    (∀ n : ℤ, IsHeld n → ∃ p : Numeral, p.IsWellFormed ∧
      ofJsonText? (Number.intText n) = some (ofInteger n) ∧
      (ofInteger n).AppearsAs (String.ofList p.chars) ∧
      (n < 2 ^ 63 → p.rational = n) ∧
      (2 ^ 63 ≤ n → Binary64.RoundsTo n (Binary64.nearest n) ∧
        Binary64.RoundsTo p.rational (Binary64.nearest n))) ∧
    ∀ n m : ℤ, IsHeld n → IsHeld m → n ≠ m → ∀ r s : Recorder,
      ((Report.outcome (ofInteger n).literal r).1 = (Report.outcome (ofInteger m).literal s).1 ↔
        2 ^ 63 ≤ n ∧ 2 ^ 63 ≤ m ∧ Binary64.nearest n = Binary64.nearest m) := by
  constructor
  · intro n hn
    refine ⟨integerNumeral n, isWellFormed_integerNumeral n, ofJsonText?_intText hn,
      appearsAs_integerNumeral hn, rational_integerNumeral_of_lt, fun hlarge => ?_⟩
    have hrange := Binary64.abs_cast_lt_overflowLimit hlarge hn.2
    refine ⟨Binary64.roundsTo_nearest hrange, ?_⟩
    rw [integerNumeral, if_neg (not_lt.2 hlarge)]
    exact Binary64.roundsTo_numeral (Binary64.nearest_parts hrange).2.1
  · intro n m hn hm hne r s
    rw [(appearsAs_integerNumeral hn).literal r, (appearsAs_integerNumeral hm).literal s,
      String.ofList_inj, Numeral.chars_inj (isWellFormed_integerNumeral n)
      (isWellFormed_integerNumeral m), integerNumeral_eq_iff hn hm, or_iff_right hne]

/-- The numbers around `2 ^ 63`: the largest one that is kept, and two that are not told
    apart. -/
theorem integer_literals_border :
    (∃ p : Numeral, (ofInteger 9223372036854775807).AppearsAs (String.ofList p.chars) ∧
      p.rational = 9223372036854775807) ∧
    (Report.outcome (ofInteger 9223372036854775808).literal {}).1 =
      (Report.outcome (ofInteger 9223372036854775809).literal {}).1 := by
  constructor
  · obtain ⟨p, -, -, happears, hrational, -⟩ :=
      integer_literals.1 9223372036854775807 ⟨by norm_num, by norm_num⟩
    exact ⟨p, happears, by exact_mod_cast hrational (by norm_num)⟩
  · refine (integer_literals.2 9223372036854775808 9223372036854775809 ⟨by norm_num, by norm_num⟩
      ⟨by norm_num, by norm_num⟩ (by norm_num) {} {}).2 ⟨by norm_num, by norm_num, ?_⟩
    decide +kernel

/-- **An integer above `2 ^ 63` is not kept.**  The literal of `2 ^ 63 + 1` denotes another
    number, and no numeral that it is denotes this integer. -/
theorem integer_above_not_kept :
    ofJsonText? "9223372036854775809" = some (ofInteger 9223372036854775809) ∧
    (Report.outcome (ofInteger 9223372036854775809).literal {}).1 = "9223372036854776000" ∧
    ¬ ∃ p : Numeral, p.IsWellFormed ∧ "9223372036854776000".toList = p.chars ∧
      p.rational = 9223372036854775809 := by
  have hread := ofJsonText?_intText (n := 9223372036854775809) ⟨by norm_num, by norm_num⟩
  refine ⟨hread, by decide +kernel, ?_⟩
  rintro ⟨p, hp, hchars, hrational⟩
  have hsame : (Numeral.ofInt 9223372036854776000).chars = p.chars := by
    rw [Numeral.chars_ofInt, ← hchars]
    decide +kernel
  rw [← (Numeral.chars_inj (Numeral.isWellFormed_ofInt _) hp).1 hsame, Numeral.rational_ofInt]
    at hrational
  norm_num at hrational

end Value

end QuerySql
