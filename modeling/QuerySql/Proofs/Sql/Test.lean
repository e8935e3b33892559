/-
  Tests, the atoms of T-SQL conditions.

  * A `Literal` is a word for null or for a number (`IsBare`), or a string;
  * a `Test` compares a column with a literal, tests it for null, or looks for
    it in a list of literals that is not empty;
  * `Test.text` is the written form of a test and `Test.tokens` what it consists
    of; `Test.tokens?_text` joins the two, for columns without a closing bracket;
  * `Token.OfCondition` says what may stand in a condition.
-/
import QuerySql.Proofs.Sql.Token
import Mathlib.Data.List.Chain

namespace QuerySql.Sql

/-! ## Literals -/

/-- Characters that numbers consist of. -/
def isNumeric (c : Char) : Bool := c.isDigit || "+-.e".toList.contains c

/-- Words for null and for the numbers that are not finite. -/
def specialWords : List (List Char) :=
  ["NULL", "NaN", "Infinity", "-Infinity"].map String.toList

/-- Words for values: special words and numbers.  No number holds two minus
    signs in a row. -/
def IsBare (w : List Char) : Prop :=
  w ∈ specialWords ∨ w ≠ [] ∧ (∀ c ∈ w, isNumeric c = true) ∧ ¬ ['-', '-'] <:+: w

theorem isWordChar_of_isNumeric {c : Char} (h : isNumeric c = true) : isWordChar c = true := by
  simp only [isNumeric, Bool.or_eq_true] at h
  rcases h with h | h
  · have hc : 48 ≤ c.toNat ∧ c.toNat ≤ 57 := Char.isDigit_iff_toNat.1 h
    have hne : ∀ d : Char, (d.toNat < 48 ∨ 57 < d.toNat) → c ≠ d := by
      rintro d hd rfl; omega
    have hblank : Text.isBlank c = false := by
      simp only [Text.isBlank]; grind
    have hmark : isMark c = false := by
      simp only [isMark, List.contains_eq_mem, decide_eq_false_iff_not]
      intro hm
      have : ∀ d ∈ "(),;=<>%".toList, d.toNat < 48 ∨ 57 < d.toNat := by simp
      exact hne c (this c hm) rfl
    simp [isWordChar, hblank, hmark, hne '[' (by decide), hne '\'' (by decide)]
  · have hc : c = '+' ∨ c = '-' ∨ c = '.' ∨ c = 'e' := by simpa using h
    rcases hc with rfl | rfl | rfl | rfl <;> rfl

namespace IsBare
variable {w : List Char} (hw : IsBare w)
include hw

theorem ne_nil : w ≠ [] := by
  rcases hw with h | h
  · rintro rfl; exact absurd h (by decide)
  · exact h.1

theorem isWordChar {c : Char} (hc : c ∈ w) : isWordChar c = true := by
  rcases hw with h | h
  · have hall : ∀ w ∈ specialWords, w.all Sql.isWordChar = true := by
      simp only [specialWords, List.map_cons, List.map_nil, List.forall_mem_cons]
      decide
    exact List.all_eq_true.1 (hall w h) c hc
  · exact isWordChar_of_isNumeric (h.2.1 c hc)

theorem isInert : Token.IsInert (.word w) := by
  have hslash : '/' ∉ w := by
    rcases hw with h | ⟨-, hnum, -⟩
    · revert w; decide
    · exact fun h => absurd (hnum _ h) (by decide)
  refine ⟨fun hs => ?_, fun hs => hslash (hs.subset (by simp))⟩
  rcases hw with h | ⟨-, -, hdash⟩
  · have hcount : w.count '-' ≤ 1 := by clear hs hslash; revert w; decide
    have := hs.sublist.count_le '-'
    simp at this; omega
  · exact hdash hs

/-- A word with a capital letter at its start, apart from the special words. -/
theorem ne_keyword {k : List Char} (hk : k ∉ specialWords)
    (hc : ∀ c ∈ k.head?, isNumeric c = false) : w ≠ k := by
  rintro rfl
  rcases hw with h | ⟨hne, hnum, -⟩
  · exact hk h
  · obtain ⟨c, w, rfl⟩ := List.exists_cons_of_ne_nil hne
    have := hnum c (by simp)
    rw [hc c rfl] at this; cases this

end IsBare

/-- A value as it stands in T-SQL. -/
inductive Literal where
  | word (text : List Char) (bare : IsBare text)
  | string (text : List Char)

namespace Literal

/-- The written form of a literal. -/
def text : Literal → String
  | word w _ => String.ofList w
  | string s => Text.quoted (String.ofList s)

/-- The token that a literal is. -/
def token : Literal → Token
  | word w _ => .word w
  | string s => .string s

theorem tokens?_text (l : Literal) : tokens? l.text.toList = some [l.token] := by
  cases l with
  | word w bare => simpa [text, token] using tokens?_word bare.ne_nil fun c hc => bare.isWordChar hc
  | string s => simpa [text, token] using tokens?_string s

theorem isInert_token (l : Literal) : l.token.IsInert := by
  cases l with
  | word w bare => exact bare.isInert
  | string s => trivial

end Literal

/-! ## Vocabulary -/

/-- The words and marks of conditions. -/
def conditionWords : List Token :=
  ["AND", "OR", "NOT", "IN", "IS", "LIKE", "NULL"].map Token.keyword ++
    ['(', ')', ',', '=', '<', '>'].map Token.mark

/-- What conditions consist of. -/
inductive Token.OfCondition : Token → Prop
  | name (text : List Char) : OfCondition (.name text)
  | literal (l : Literal) : OfCondition l.token
  | fixed {t : Token} : t ∈ conditionWords → OfCondition t

/-- Nothing in a condition ends a statement or starts a comment. -/
theorem Token.OfCondition.isInert {t : Token} (h : t.OfCondition) : t.IsInert := by
  cases h with
  | name => trivial
  | literal l => exact l.isInert_token
  | fixed hmem =>
    have hall : ∀ t ∈ conditionWords, t.IsInert := by decide +kernel
    exact hall t hmem

/-! ## Tests -/

/-- What a column is compared with a literal by. -/
inductive Operator where
  | equal
  | less
  | lessOrEqual
  | greater
  | greaterOrEqual
  | different
  | like
deriving DecidableEq, Repr

namespace Operator

/-- The operator with the blanks around it. -/
def text : Operator → String
  | equal => "="
  | less => "<"
  | lessOrEqual => "<="
  | greater => ">"
  | greaterOrEqual => ">="
  | different => "<>"
  | like => " LIKE "

/-- The tokens of an operator. -/
def tokens : Operator → List Token
  | equal => [.mark '=']
  | less => [.mark '<']
  | lessOrEqual => [.mark '<', .mark '=']
  | greater => [.mark '>']
  | greaterOrEqual => [.mark '>', .mark '=']
  | different => [.mark '<', .mark '>']
  | like => [.keyword "LIKE"]

theorem scan_text (op : Operator) : scan .between op.text.toList = (op.tokens, .between) := by
  cases op <;> decide

end Operator

/-- A test of a column. -/
inductive Test where
  | isNull (column : String) (negated : Bool)
  | compares (column : String) (operator : Operator) (operand : Literal)
  /-- the column is one of the literals -/
  | isIn (column : String) (negated : Bool) (first : Literal) (rest : List Literal)

namespace Test

/-- The column that is tested. -/
def column : Test → String
  | isNull c _ | compares c _ _ | isIn c _ _ _ => c

/-- What stands behind the column of a test for null. -/
def nullText (negated : Bool) : String := if negated then " IS NOT NULL" else " IS NULL"

/-- What stands between the column and the literals of a test with a list. -/
def listText (negated : Bool) : String := if negated then " NOT IN (" else " IN ("

/-- The written form of a test. -/
def text : Test → String
  | isNull c negated => Text.bracketed c ++ nullText negated
  | compares c op l => Text.bracketed c ++ op.text ++ l.text
  | isIn c negated l ls =>
    Text.bracketed c ++ listText negated ++ ", ".intercalate ((l :: ls).map Literal.text) ++ ")"

/-- The tokens behind the column of a test for null. -/
def nullTokens (negated : Bool) : List Token :=
  if negated then [.keyword "IS", .keyword "NOT", .keyword "NULL"]
  else [.keyword "IS", .keyword "NULL"]

/-- The words between the column and the literals of a test with a list. -/
def listWords (negated : Bool) : List Token :=
  if negated then [.keyword "NOT", .keyword "IN"] else [.keyword "IN"]

/-- The tokens between the column and the literals of a test with a list. -/
def listTokens (negated : Bool) : List Token := listWords negated ++ [.mark '(']

/-- The name that the column of a test is. -/
def columnToken (column : String) : Token := .name (Text.doubleQuotes column.toList)

/-- The literals of a list with commas between them. -/
def operandTokens (ls : List Literal) : List Token :=
  [Token.mark ','].intercalate (ls.map fun l => [l.token])

/-- A list of literals starts with the first of them. -/
theorem operandTokens_cons (l : Literal) (ls : List Literal) :
    ∃ ts, operandTokens (l :: ls) = l.token :: ts := by
  cases ls with
  | nil => exact ⟨[], by simp [operandTokens]⟩
  | cons l' ls => exact ⟨_, by simp [operandTokens]; rfl⟩

/-- What a test consists of. -/
def tokens : Test → List Token
  | isNull c negated => columnToken c :: nullTokens negated
  | compares c op l => columnToken c :: (op.tokens ++ [l.token])
  | isIn c negated l ls =>
    columnToken c :: (listTokens negated ++ operandTokens (l :: ls) ++ [.mark ')'])

theorem scan_listText (negated : Bool) :
    scan .between (listText negated).toList = (listTokens negated, .between) := by
  cases negated <;> decide

theorem tokens?_nullText (negated : Bool) :
    tokens? (nullText negated).toList = some (nullTokens negated) := by
  cases negated <;> decide

/-- The literals of a list are read one by one. -/
theorem tokens?_operands (ls : List Literal) :
    tokens? (", ".intercalate (ls.map Literal.text)).toList = some (operandTokens ls) :=
  tokens?_commas fun l _ => l.tokens?_text

theorem scan_bracketed {c : String} (h : ']' ∉ c.toList) :
    scan .between (Text.bracketed c).toList = ([columnToken c], .between) := by
  rw [Text.toList_bracketed]
  exact scan_name (mt Text.mem_doubleQuotes.1 h)

/-- A column by itself. -/
theorem tokens?_bracketed {c : String} (h : ']' ∉ c.toList) :
    tokens? (Text.bracketed c).toList = some [columnToken c] := by
  rw [tokens?, scan_bracketed h]
  rfl

/-- A column is read before what stands behind it. -/
theorem tokens?_bracketed_append {c : String} (h : ']' ∉ c.toList) (rest : String) :
    tokens? (Text.bracketed c ++ rest).toList =
      (tokens? rest.toList).map ([columnToken c] ++ ·) := by
  rw [String.toList_append]
  exact tokens?_append_of_between (scan_bracketed h)

/-- **A test is read as its tokens**, if its column has no closing bracket. -/
theorem tokens?_text (t : Test) (h : ']' ∉ t.column.toList) :
    tokens? t.text.toList = some t.tokens := by
  cases t with
  | isNull c negated =>
    have hcolumn : ']' ∉ c.toList := h
    rw [text, tokens?_bracketed_append hcolumn, tokens?_nullText]
    rfl
  | compares c op l =>
    have hcolumn : ']' ∉ c.toList := h
    rw [text, String.append_assoc, tokens?_bracketed_append hcolumn, String.toList_append,
      tokens?_append_of_between op.scan_text, l.tokens?_text]
    rfl
  | isIn c negated l ls =>
    have hcolumn : ']' ∉ c.toList := h
    have hlist := continues_close.behind (tokens?_operands (l :: ls))
    rw [text, String.append_assoc, String.append_assoc, tokens?_bracketed_append hcolumn,
      String.toList_append, tokens?_append_of_between (scan_listText negated), hlist]
    simp [tokens]

/-- A test consists of what conditions consist of. -/
theorem ofCondition_of_mem_tokens (t : Test) : ∀ x ∈ t.tokens, x.OfCondition := by
  have hfixed : ∀ {ts : List Token}, (∀ x ∈ ts, x ∈ conditionWords) → ∀ x ∈ ts, x.OfCondition :=
    fun h x hx => .fixed (h x hx)
  cases t with
  | isNull c negated =>
    refine List.forall_mem_cons.2 ⟨.name _, hfixed ?_⟩
    cases negated <;> decide +kernel
  | compares c op l =>
    refine List.forall_mem_cons.2 ⟨.name _, List.forall_mem_append.2 ⟨hfixed ?_, ?_⟩⟩
    · cases op <;> decide +kernel
    · exact List.forall_mem_singleton.2 (.literal l)
  | isIn c negated l ls =>
    refine List.forall_mem_cons.2 ⟨.name _, List.forall_mem_append.2 ⟨?_, hfixed (by decide +kernel)⟩⟩
    refine List.forall_mem_append.2 ⟨hfixed (by cases negated <;> decide +kernel), ?_⟩
    refine forall_mem_intercalate (hfixed (by decide +kernel)) fun x hx => ?_
    obtain ⟨l', -, rfl⟩ := List.mem_map.1 hx
    exact List.forall_mem_singleton.2 (.literal l')

/-- The contents of the strings in a list of literals do not show in its redacted tokens. -/
theorem redacted_operandTokens (ls ms : List Literal)
    (h : ls.map (fun l => l.token.redacted) = ms.map fun l => l.token.redacted) :
    (operandTokens ls).map Token.redacted = (operandTokens ms).map Token.redacted := by
  have hsingle := congrArg (List.map fun t => [t]) h
  rw [operandTokens, operandTokens, map_intercalate, map_intercalate]
  simp only [List.map_map, Function.comp_def, List.map_cons, List.map_nil] at hsingle ⊢
  rw [hsingle]

end Test

end QuerySql.Sql
