/-
  The patterns of like groups.

  An entry of a like group is written with its text as the pattern, except that
  `%%%` becomes a backslash and a percent sign.  LIKE without an ESCAPE clause has no
  escapes, so these are two elements: a backslash, and any text behind it
  (`likeEntry_matches_iff`).  `Pattern.marked` reads a text from left to right and
  takes `%%%` for given elements, which tells what the mark stands for.

  The comparator `like` of a column is the other way to write the test.  It does not
  know the mark and does not refuse regular expressions, and is the same otherwise
  (`like_spellings`).
-/
import QuerySql.Proofs.Sql.Pattern
import QuerySql.Proofs.Condition.Search
import QuerySql.Proofs.Condition.Reading

namespace QuerySql

namespace Sql.Pattern

/-! ## The mark -/

/-- The elements of a text without sets and `_` in which `%%%` stands for `mark`. -/
def marked (mark : Pattern) : List Char → Pattern
  | [] => []
  | '%' :: '%' :: '%' :: cs => mark ++ marked mark cs
  | c :: cs => (if c = '%' then .anyText else .char c) :: marked mark cs

/-- How often the mark stands in a text. -/
def marks : List Char → Nat
  | [] => 0
  | '%' :: '%' :: '%' :: cs => marks cs + 1
  | _ :: cs => marks cs

theorem not_prefix_mark {c : Char} {cs : List Char}
    (h : ∀ rest, c = '%' → cs = '%' :: '%' :: rest → False) : ¬ ['%', '%', '%'] <+: c :: cs := by
  rintro ⟨rest, hrest⟩
  obtain ⟨rfl, rfl⟩ := List.cons.inj hrest
  exact h rest rfl rfl

theorem marks_eq_zero_iff (cs : List Char) : marks cs = 0 ↔ ¬ ['%', '%', '%'] <:+: cs := by
  fun_induction marks cs with
  | case1 => simp
  | case2 cs ih => exact iff_of_false (Nat.succ_ne_zero _) (not_not_intro ⟨[], cs, rfl⟩)
  | case3 c cs hmark ih =>
    rw [ih, List.infix_cons_iff, or_iff_right (not_prefix_mark hmark)]

/-- Each mark has its elements. -/
theorem count_marked (mark : Pattern) (e : Element) (cs : List Char) :
    (marked mark cs).count e = (marked [] cs).count e + marks cs * mark.count e := by
  fun_induction marked mark cs with
  | case1 => simp [marked, marks]
  | case2 cs ih => simp [marked, marks, ih, Nat.add_one_mul]; omega
  | case3 c cs hmark ih => simp [marked, marks, ih, List.count_cons]; omega

theorem marked_eq_of_marks_eq_zero (mark : Pattern) {cs : List Char} (h : marks cs = 0) :
    marked mark cs = marked [] cs := by
  fun_induction marked mark cs with
  | case1 => rfl
  | case2 cs ih => simp [marks] at h
  | case3 c cs hmark ih => simp [marked, ih (by simpa [marks] using h)]

/-- The elements of a text are characters and any texts, apart from those of the mark. -/
theorem isPlain_of_mem_marked {mark : Pattern} (hmark : ∀ e ∈ mark, IsPlain e) (cs : List Char) :
    ∀ e ∈ marked mark cs, IsPlain e := by
  fun_induction marked mark cs with
  | case1 => exact List.forall_mem_nil _
  | case2 cs ih => exact List.forall_mem_append.2 ⟨hmark, ih⟩
  | case3 c cs _ ih =>
    refine List.forall_mem_cons.2 ⟨?_, ih⟩
    split
    exacts [Or.inl rfl, Or.inr ⟨c, rfl⟩]

/-- **What is written for the mark** is read as a backslash with any text behind it. -/
theorem read?_replaced {cs : List Char} (hone : '_' ∉ cs) (hset : '[' ∉ cs) :
    read? none (Text.replaceFrom Condition.percentMark.toList Condition.escapedPercent.toList 0 cs) =
      some (marked [.char '\\', .anyText] cs) := by
  have hpercent : Condition.percentMark.toList = ['%', '%', '%'] := rfl
  have hescaped : Condition.escapedPercent.toList = ['\\', '%'] := rfl
  rw [hpercent, hescaped]
  fun_induction marked [.char '\\', .anyText] cs with
  | case1 => rfl
  | case2 cs ih =>
    have hmark : '%' :: '%' :: '%' :: cs = ['%', '%', '%'] ++ cs := rfl
    simp only [List.mem_cons, not_or] at hone hset
    rw [hmark, Text.replaceFrom_append, List.cons_append, List.cons_append, List.nil_append,
      read?_char (by decide) (by decide) (by decide), read?_percent,
      ih hone.2.2.2 hset.2.2.2]
    rfl
  | case3 c cs hmark ih =>
    obtain ⟨hone, hones⟩ := not_or.1 (mt List.mem_cons.2 hone)
    obtain ⟨hset, hsets⟩ := not_or.1 (mt List.mem_cons.2 hset)
    rw [Text.replaceFrom_cons _ _ (mt List.isPrefixOf_iff_prefix.1 (not_prefix_mark hmark))]
    by_cases hc : c = '%'
    · rw [hc, read?_percent, ih hones hsets]
      rfl
    · rw [read?_char hc (Ne.symm hone) (Ne.symm hset), ih hones hsets, if_neg hc]
      rfl

/-- To take the mark for a backslash with any text behind it is to take it for a
    percent sign only where there is no mark. -/
theorem forall_matches_marked_iff (member : List Char → Char → Prop) (cs : List Char) :
    (∀ text, (marked [.char '\\', .anyText] cs).Matches member text ↔
      (marked [.char '%'] cs).Matches member text) ↔ ¬ ['%', '%', '%'] <:+: cs := by
  rw [← marks_eq_zero_iff]
  constructor
  · intro h
    -- a text for the percent signs has no more backslashes than there are beside the marks
    have hplain : ∀ e ∈ marked [.char '%'] cs, IsPlain e :=
      isPlain_of_mem_marked (List.forall_mem_singleton.2 (Or.inr ⟨'%', rfl⟩)) cs
    obtain ⟨text, hmatches, hcount⟩ := exists_matches member hplain
    have hle := count_le ((h text).2 hmatches) '\\'
    have hescaped : List.count (.char '\\') [Element.char '\\', .anyText] = 1 := by decide
    have hpercent : List.count (.char '\\') [Element.char '%'] = 0 := by decide
    rw [hcount, count_marked, count_marked [.char '%'], hescaped, hpercent] at hle
    omega
  · intro hnone text
    rw [marked_eq_of_marks_eq_zero _ hnone, marked_eq_of_marks_eq_zero [.char '%'] hnone]

end Sql.Pattern

/-! ## Entries of like groups -/

namespace Condition

open Sql (Like Pattern)

theorem like_string_text (column text : String) : (Leaf.like column (.string text)).test.text =
    Text.bracketed column ++ " LIKE " ++
      Text.quoted (Text.replaceAll percentMark escapedPercent text) := by
  simp [Leaf.test, Sql.Test.text, Sql.Literal.text, Sql.Literal.escaped, Value.sqlLiteral,
    Value.storedForm, Value.text, Sql.Operator.text, Text.replaceAll]

theorem likeEntry_string_ends (column text : String) :
    (likeEntry column (.string text)).Ends
      (.ok (Text.bracketed column ++ " LIKE " ++
        Text.quoted (Text.replaceAll percentMark escapedPercent text))) [] := by
  rw [← like_string_text]
  exact (Leaf.like column (.string text)).condition_concludes.ends rfl

/-- **An entry of a like group** searches for its text with `%%%` taken for a
    backslash and any text behind it.  If the text has no `_` and opens no sets, this is
    to search for a percent sign in the place of each `%%%` iff there is none. -/
theorem likeEntry_matches_iff (member : List Char → Char → Prop) (column : String)
    {pattern : String} (hone : '_' ∉ pattern.toList) (hset : '[' ∉ pattern.toList) :
    ∃ content : String,
    (likeEntry column (.string pattern)).Ends
      (.ok (Text.bracketed column ++ " LIKE " ++ Text.quoted content)) [] ∧
    Sql.tokens? (Text.quoted content).toList = some [.string content.toList] ∧
    (∀ text, Like member text content.toList ↔
      (Pattern.marked [.char '\\', .anyText] pattern.toList).Matches member text) ∧
    ((∀ text, Like member text content.toList ↔
      (Pattern.marked [.char '%'] pattern.toList).Matches member text) ↔
      ¬ percentMark.toList <:+: pattern.toList) := by
  have hlike : ∀ text, Like member text (Text.replaceAll percentMark escapedPercent pattern).toList ↔
      (Pattern.marked [.char '\\', .anyText] pattern.toList).Matches member text := by
    intro text
    rw [Like, Text.toList_replaceAll, Pattern.read?_replaced hone hset]
    simp
  refine ⟨_, likeEntry_string_ends column pattern, ?_, hlike, ?_⟩
  · rw [Text.toList_quoted]
    exact Sql.tokens?_string _
  · simp only [hlike]
    exact Pattern.forall_matches_marked_iff member pattern.toList

/-- `50%%%` does not find the texts that are `50%`. -/
theorem likeEntry_matches_iff_discount : ∃ content : String,
    (likeEntry "discount" (.string "50%%%")).Ends
      (.ok ("[discount] LIKE " ++ Text.quoted content)) [] ∧
    ¬ ∀ text, Like (fun _ _ => False) text content.toList ↔ text = "50%".toList := by
  have hone : '_' ∉ "50%%%".toList := by decide
  have hset : '[' ∉ "50%%%".toList := by decide
  obtain ⟨content, hends, -, -, hiff⟩ :=
    likeEntry_matches_iff (fun _ _ => False) "discount" hone hset
  have hmark : percentMark.toList <:+: "50%%%".toList := by decide
  refine ⟨content, hends, fun h => hiff.1 (fun text => (h text).trans ?_) hmark⟩
  have hmarked : Pattern.marked [.char '%'] "50%%%".toList = [.char '5', .char '0', .char '%'] := rfl
  rw [hmarked]
  simp [Pattern.Matches, Sql.Element.Covers]

/-! ## Like groups and the comparator of columns -/

/-- The condition with a pattern under the comparator `like` of a column. -/
def likeComparator (column : String) (pattern : Value) : Compile String :=
  Filter.conditionOfValue (.object [(column, .object [("like", pattern)])])

/-- The condition with a pattern under a column in a like group. -/
def likeGroup (column : String) (pattern : Value) : Compile String :=
  Filter.conditionOfValue (.object [("like", .object [(column, pattern)])])

theorem likeComparator_concludes (column : String) (v : Value) :
    (likeComparator column v).Concludes none (Leaf.searchTest "" "" column v).text v.reports := by
  have hread : Predicate.ofEntry column (.object [("like", v)]) =
      .ok (Leaf.compares column .like v).predicate := rfl
  exact Filter.conditionOfValue_concludes hread

theorem likeGroup_concludes {column : String} (hkey : Comparator.isKey column = false) (v : Value) :
    (likeGroup column v).Concludes (Leaf.like column v).refusal? (Leaf.like column v).test.text
      v.reports := by
  have hread : Predicate.ofEntry "like" (.object [(column, v)]) =
      .ok (Leaf.like column v).predicate :=
    Predicate.ofEntry_of_like rfl (List.forall_mem_singleton.2 hkey)
  exact Filter.conditionOfValue_concludes hread

/-- Without quotes at its ends a text is what the comparator searches for. -/
theorem searchTest_text_exact (column : String) {text : String}
    (hhead : text.toList.head? ≠ some '\'') (hlast : text.toList.getLast? ≠ some '\'') :
    (Leaf.searchTest "" "" column (.string text)).text =
      Text.bracketed column ++ " LIKE " ++ Text.quoted text := by
  have hpattern := (pattern_eq_iff "" "" text).2 ⟨hhead, hlast⟩
  rw [searchTest_string_text, hpattern, String.empty_append, String.append_empty]

/-- A regular expression is searched for as its text between slashes. -/
theorem likeComparator_regex_concludes (column expression : String) :
    (likeComparator column (.regex expression)).Concludes none
      (Text.bracketed column ++ " LIKE " ++ Text.quoted ("/" ++ expression ++ "/")) [] := by
  have hhead : ("/" ++ expression ++ "/").toList.head? ≠ some '\'' := by simp
  have hlast : ("/" ++ expression ++ "/").toList.getLast? ≠ some '\'' := by
    rw [String.toList_append, List.getLast?_append_of_ne_nil _ (by decide)]
    decide
  rw [← searchTest_text_exact column hhead hlast]
  exact likeComparator_concludes column (.regex expression)

section

variable {column : String} (hkey : Comparator.isKey column = false)
include hkey

/-- The two ways to write LIKE search for the same text iff it holds no `%%%`. -/
theorem like_agrees_string_iff {text : String} (hhead : text.toList.head? ≠ some '\'')
    (hlast : text.toList.getLast? ≠ some '\'') :
    (likeComparator column (.string text)).Agrees (likeGroup column (.string text)) ↔
      ¬ percentMark.toList <:+: text.toList := by
  have hcomparator := likeComparator_concludes column (.string text)
  have hgroup := likeGroup_concludes hkey (.string text)
  rw [searchTest_text_exact column hhead hlast] at hcomparator
  rw [like_string_text] at hgroup
  have hne : '\\' ≠ '%' := by decide
  calc (likeComparator column (.string text)).Agrees (likeGroup column (.string text))
      ↔ Text.bracketed column ++ " LIKE " ++ Text.quoted text = Text.bracketed column ++ " LIKE " ++
          Text.quoted (Text.replaceAll percentMark escapedPercent text) :=
        hcomparator.agrees_iff hgroup
    _ ↔ text = Text.replaceAll percentMark escapedPercent text := by
        rw [String.append_right_inj, Text.quoted_inj]
    _ ↔ Text.replaceFrom percentMark.toList escapedPercent.toList 0 text.toList = text.toList := by
        rw [← String.toList_inj, Text.toList_replaceAll, eq_comm]
    _ ↔ ¬ percentMark.toList <:+: text.toList := Text.replaceFrom_eq_self_iff hne

/-- **The two ways to write LIKE.**  Both search for the text, the like group with its
    marks replaced, so they agree iff there are none; the quotes at the ends of texts are
    left aside.  Only the comparator takes a regular expression, and searches for it
    between slashes. -/
theorem like_spellings :
    (∀ text : String, text.toList.head? ≠ some '\'' → text.toList.getLast? ≠ some '\'' →
      (likeComparator column (.string text)).Ends
        (.ok (Text.bracketed column ++ " LIKE " ++ Text.quoted text)) [] ∧
      (likeGroup column (.string text)).Ends
        (.ok (Text.bracketed column ++ " LIKE " ++
          Text.quoted (Text.replaceAll percentMark escapedPercent text))) [] ∧
      ((likeComparator column (.string text)).Agrees (likeGroup column (.string text)) ↔
        ¬ percentMark.toList <:+: text.toList)) ∧
    ∀ expression : String,
      (likeComparator column (.regex expression)).Ends
        (.ok (Text.bracketed column ++ " LIKE " ++ Text.quoted ("/" ++ expression ++ "/"))) [] ∧
      (∃ ds, (likeGroup column (.regex expression)).Ends
        (.error (.regexPattern column expression)) ds) ∧
      ¬ (likeComparator column (.regex expression)).Agrees (likeGroup column (.regex expression)) := by
  refine ⟨fun text hhead hlast => ⟨?comparator, ?group, ?agree⟩, fun expression => ?regex⟩
  case comparator =>
    rw [← searchTest_text_exact column hhead hlast]
    exact (likeComparator_concludes column (.string text)).ends rfl
  case group =>
    rw [← like_string_text]
    exact (likeGroup_concludes hkey (.string text)).ends rfl
  case agree => exact like_agrees_string_iff hkey hhead hlast
  case regex =>
    have hcomparator := likeComparator_regex_concludes column expression
    have hgroup := likeGroup_concludes hkey (.regex expression)
    refine ⟨hcomparator.ends rfl, hgroup.fails _ rfl, ?_⟩
    rw [hcomparator.agrees_iff hgroup]
    exact id

end

/-- Without a mark the two agree, and on a regular expression they do not. -/
theorem like_spellings_name :
    (likeComparator "name" (.string "Ann%")).Agrees (likeGroup "name" (.string "Ann%")) ∧
    ¬ (likeComparator "name" (.regex "^A")).Agrees (likeGroup "name" (.regex "^A")) := by
  have hkey : Comparator.isKey "name" = false := by decide
  obtain ⟨hstring, hregex⟩ := like_spellings hkey
  exact ⟨(hstring "Ann%" (by decide) (by decide)).2.2.2 (by decide), (hregex "^A").2.2⟩

/-- The two ways to write LIKE do not agree on all texts and regular expressions:
    only one of them replaces the mark. -/
theorem like_spellings_differ : ¬ ∀ (column : String) (p : Value),
    Comparator.isKey column = false → p.kind = .string ∨ p.kind = .regex →
      (likeComparator column p).Agrees (likeGroup column p) := by
  intro h
  have hkey : Comparator.isKey "n" = false := by decide
  have hagree := h "n" (.string "50%%%") hkey (Or.inl rfl)
  exact (like_agrees_string_iff hkey (by decide) (by decide)).1 hagree (by decide)

end Condition

end QuerySql
