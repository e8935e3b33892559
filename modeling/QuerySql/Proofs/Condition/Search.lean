/-
  What the comparators of the like family search for.

  Each of them puts wildcards around a text (`Comparator.wildcards?`).  The pattern
  is the text between the wildcards, as one string of SQL, except that the quotes
  at the two ends of the text are lost.  So the text that is searched for is the
  given one iff it neither starts nor ends with a quote
  (`Condition.search_exact_iff`).
-/
import QuerySql.Proofs.Condition.Leaf

namespace QuerySql

/-- What stands before and behind the text that a comparator of the like family
    searches for. -/
def Comparator.wildcards? : Comparator → Option (String × String)
  | .like => some ("", "")
  | .contains => some ("%", "%")
  | .startsWith => some ("", "%")
  | .endsWith => some ("%", "")
  | _ => none

theorem Leaf.comparatorTest_of_wildcards {op : Comparator} {before after : String}
    (h : op.wildcards? = some (before, after)) (column : String) (v : Value) :
    Leaf.comparatorTest column op v = Leaf.searchTest before after column v := by
  cases op <;> cases h <;> rfl

namespace Condition

/-- The pattern that is searched for in place of a text. -/
def pattern (before after text : String) : String := before ++ Text.trimQuotes text ++ after

theorem searchTest_string_text (before after column text : String) :
    (Leaf.searchTest before after column (.string text)).text =
      Text.bracketed column ++ " LIKE " ++ Text.quoted (pattern before after text) := by
  have hliteral : (Value.string text).sqlLiteral.searched before.toList after.toList =
      .string (pattern before after text).toList := by
    simp [Value.sqlLiteral, Value.storedForm, Value.text, Sql.Literal.searched, pattern,
      Text.trimQuotes_eq]
  rw [Leaf.searchTest, Sql.Test.text, hliteral, Sql.Literal.text, String.ofList_toList]
  rfl

theorem pattern_eq_iff (before after text : String) :
    pattern before after text = before ++ text ++ after ↔
      text.toList.head? ≠ some '\'' ∧ text.toList.getLast? ≠ some '\'' := by
  rw [← Text.trimChars_eq_self_iff, ← String.toList_inj]
  simp [pattern, Text.trimQuotes_eq]

/-- **The like family searches for the given text** between the wildcards, iff no
    quote stands at either end of the text.  In any case the condition is the
    column and one string, which is read as the wildcards around the text without
    the quotes at its ends. -/
theorem search_exact_iff {op : Comparator} {before after : String}
    (h : op.wildcards? = some (before, after)) (column text : String) : ∃ content,
    Report.Ends (comparison column op (.string text))
      (Text.bracketed column ++ " LIKE " ++ Text.quoted content) [] ∧
    Sql.tokens? (Text.quoted content).toList = some [.string content.toList] ∧
    content = before ++ Text.trimQuotes text ++ after ∧
    (content = before ++ text ++ after ↔
      text.toList.head? ≠ some '\'' ∧ text.toList.getLast? ≠ some '\'') := by
  refine ⟨pattern before after text, ?_, ?_, rfl, pattern_eq_iff before after text⟩
  · have hends := Leaf.comparison_ends column op (.string text)
    have hreports : (Leaf.compares column op (.string text)).reports = [] := by
      cases op <;> rfl
    rwa [hreports, Leaf.comparatorTest_of_wildcards h, searchTest_string_text] at hends
  · rw [Text.toList_quoted]
    exact Sql.tokens?_string _

/-- A text with a quote inside is searched for as it is; of a text that ends with a
    quote, only what stands before it. -/
theorem search_exact_iff_contains :
    (∃ content, Report.Ends (comparison "n" .contains (.string "o'k"))
      (Text.bracketed "n" ++ " LIKE " ++ Text.quoted content) [] ∧ content = "%o'k%") ∧
    ∃ content, Report.Ends (comparison "n" .endsWith (.string "boys'"))
      (Text.bracketed "n" ++ " LIKE " ++ Text.quoted content) [] ∧ content ≠ "%boys'" := by
  have hcontains : Comparator.contains.wildcards? = some ("%", "%") := rfl
  have hends : Comparator.endsWith.wildcards? = some ("%", "") := rfl
  obtain ⟨content, htext, -, -, hexact⟩ := search_exact_iff hcontains "n" "o'k"
  obtain ⟨content', htext', -, -, hexact'⟩ := search_exact_iff hends "n" "boys'"
  refine ⟨⟨content, htext, hexact.2 (by decide)⟩, content', htext', fun h => ?_⟩
  exact absurd (hexact'.1 h).2 (by decide)

end Condition

end QuerySql
