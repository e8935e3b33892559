/-
  Lists of values, and their exclusion.

  A list under a column asks that the column has one of the values, and under `!` that
  it has none of them.  Both are written with the same list (`Value.listTest`).  A
  value is written as NULL only if it is null, so the two select complementary rows
  (`exclusion_complements_inclusion`).  The empty list is the exception: it is
  written as NULL alone, and neither selects anything.
-/
import QuerySql.Proofs.Condition.Reading
import QuerySql.Proofs.Json.Token
import QuerySql.Proofs.Number.Numeral
import QuerySql.Proofs.Sql.Evaluation

namespace QuerySql

open Sql (Literal Operator)

/-! ## Literals that are null -/

theorem IsNumeral.ne_null {text : String} (h : IsNumeral text) : text ≠ "NULL" := by
  rintro rfl
  obtain ⟨n, hn, hchars⟩ := h
  have hletter : 'N' ∈ n.chars := by
    rw [hchars]
    decide
  exact absurd (Json.isNumeralChar_of_mem_chars hn 'N' hletter) (by decide)

namespace Value

/-- Only null is written as NULL. -/
theorem isNull_sqlLiteral {v : Value} : v.sqlLiteral.IsNull ↔ v = .null := by
  have hword {text : String} (hne : text ≠ "NULL") : text.toList ≠ "NULL".toList :=
    mt String.toList_inj.1 hne
  cases v with
  | null => exact iff_of_true rfl rfl
  | bool b => exact iff_of_false (by cases b <;> decide) nofun
  | int n => exact iff_of_false (hword (isNumeral_intText n.toInt).ne_null) nofun
  | float x =>
    refine iff_of_false (hword ?_) nofun
    cases hfinite : x.isFinite with
    | true => exact (isNumeral_numberText hfinite).ne_null
    | false =>
      intro heq
      have hspecial := numberText_mem_specialTexts hfinite
      rw [heq] at hspecial
      exact absurd hspecial (by decide)
  | _ => exact iff_of_false not_false nofun

/-! ## Tests with lists -/

/-- The test that a column has one of the values, or none of them. -/
def listTest (column : String) (negated : Bool) (vs : List Value) : Sql.Test :=
  .isIn column negated (sqlLiterals vs).1 (sqlLiterals vs).2

section

variable {α : Type} {holds : Operator → α → Literal → Bool} {row : String → Option α} {x : α}
  {column : String} {vs : List Value}

/-- Of values that are not null, one selects what the other does not. -/
theorem listTest_complement (hvs : ∀ v ∈ vs, v ≠ .null) (hne : vs ≠ []) (hrow : row column = some x) :
    (listTest column false vs).truth holds row = .true ↔
      (listTest column true vs).truth holds row ≠ .true := by
  refine (Sql.Test.isIn_complement_iff hrow).2 (Or.inr ?_)
  obtain ⟨v, vs, rfl⟩ := List.exists_cons_of_ne_nil hne
  intro m hm
  obtain ⟨w, hw, rfl⟩ := List.mem_map.1 (show m ∈ (v :: vs).map sqlLiteral from hm)
  exact mt isNull_sqlLiteral.1 (hvs w hw)

/-- Nothing is selected by a list without values. -/
theorem listTest_nil_ne_true (negated : Bool) (hrow : row column = some x) :
    (listTest column negated []).truth holds row ≠ .true := by
  have hnull : (sqlLiterals []).1.IsNull := rfl
  cases negated with
  | false =>
    intro h
    obtain ⟨m, hm, hnot, -⟩ := (Sql.Test.isIn_eq_true hrow).1 h
    rw [List.mem_singleton.1 hm] at hnot
    exact hnot hnull
  | true =>
    intro h
    exact ((Sql.Test.notIn_eq_true hrow).1 h _ List.mem_cons_self).1 hnull

end

end Value

/-! ## Filters with lists -/

namespace Filter

/-- A list under a column. -/
def inclusion (column : String) (vs : List Value) : Value := .object [(column, .array vs)]

/-- A list under `!` for a column. -/
def exclusion (column : String) (vs : List Value) : Value :=
  .object [(column, .object [("!", .array vs)])]

theorem inclusion_ends {column : String} (hcolumn : Text.lowerCase column ∉ ["or", "and"])
    (vs : List Value) : (conditionOfValue (inclusion column vs)).Ends
      (.ok (Value.listTest column false vs).text) (vs.flatMap Value.reports) := by
  have hread : Predicate.ofEntry column (.array vs) = .ok (Leaf.isIn column vs).predicate :=
    Predicate.ofEntry_eq_ok.2 ⟨.isIn column vs, hcolumn⟩
  exact (conditionOfValue_concludes hread).ends rfl

theorem exclusion_ends (column : String) (vs : List Value) :
    (conditionOfValue (exclusion column vs)).Ends
      (.ok (Value.listTest column true vs).text) (vs.flatMap Value.reports) := by
  have hread : Predicate.ofEntry column (.object [("!", .array vs)]) =
      .ok (Leaf.compares column .not (.array vs)).predicate := rfl
  exact (conditionOfValue_concludes hread).ends rfl

/-- **A list and its exclusion** are written as IN and NOT IN.  Of a row with a content
    in the column one selects what the other does not, if there are values and none is
    null; neither selects anything if there are no values. -/
theorem exclusion_complements_inclusion {column : String}
    (hcolumn : Text.lowerCase column ∉ ["or", "and"]) {vs : List Value} (hvs : ∀ v ∈ vs, v ≠ .null) :
    (conditionOfValue (inclusion column vs)).Ends
      (.ok (Value.listTest column false vs).text) (vs.flatMap Value.reports) ∧
    (conditionOfValue (exclusion column vs)).Ends
      (.ok (Value.listTest column true vs).text) (vs.flatMap Value.reports) ∧
    ∀ {α : Type} (holds : Operator → α → Literal → Bool) (row : String → Option α) (x : α),
      row column = some x →
      (vs ≠ [] → ((Value.listTest column false vs).truth holds row = .true ↔
        (Value.listTest column true vs).truth holds row ≠ .true)) ∧
      (vs = [] → (Value.listTest column false vs).truth holds row ≠ .true ∧
        (Value.listTest column true vs).truth holds row ≠ .true) := by
  refine ⟨inclusion_ends hcolumn vs, exclusion_ends column vs, ?_⟩
  intro α holds row x hrow
  constructor
  · intro hne
    exact Value.listTest_complement hvs hne hrow
  · rintro rfl
    exact ⟨Value.listTest_nil_ne_true false hrow, Value.listTest_nil_ne_true true hrow⟩

/-- Whatever equals 7, a row with it is selected by one of the two. -/
theorem exclusion_complements_inclusion_of_two :
    (conditionOfValue (exclusion "b" [.int 1, .string "a"])).Ends
      (.ok (Value.listTest "b" true [.int 1, .string "a"]).text) [] ∧
    ∀ holds : Operator → Nat → Literal → Bool,
      (Value.listTest "b" false [.int 1, .string "a"]).truth holds (fun _ => some 7) = .true ↔
      (Value.listTest "b" true [.int 1, .string "a"]).truth holds (fun _ => some 7) ≠ .true := by
  have hcolumn : Text.lowerCase "b" ∉ ["or", "and"] := by decide
  have hvs : ∀ v ∈ [Value.int 1, .string "a"], v ≠ .null := by simp
  obtain ⟨-, hexclusion, hselects⟩ := exclusion_complements_inclusion hcolumn hvs
  refine ⟨hexclusion, fun holds => ?_⟩
  exact (hselects holds (fun _ => some 7) 7 rfl).1 (List.cons_ne_nil _ _)

/-- Without values the two do not complement each other: no content is selected by
    either of them.  Under `or` there is no list to begin with, but a group. -/
theorem exclusion_of_no_values :
    (conditionOfValue (inclusion "b" [])).Ends (.ok "[b] IN (NULL)") [] ∧
    (conditionOfValue (exclusion "b" [])).Ends (.ok "[b] NOT IN (NULL)") [] ∧
    (Value.listTest "b" false []).text = "[b] IN (NULL)" ∧
    (Value.listTest "b" true []).text = "[b] NOT IN (NULL)" ∧
    ¬ ((Value.listTest "b" false []).truth (fun _ _ _ => true) (fun _ => some 7) = .true ↔
      (Value.listTest "b" true []).truth (fun _ _ _ => true) (fun _ => some 7) ≠ .true) ∧
    (conditionOfValue (inclusion "or" [.int 1])).Ends (.error (.notAnObject .filter .number)) [] := by
  have hcolumn : Text.lowerCase "b" ∉ ["or", "and"] := by decide
  have hin : (Value.listTest "b" false []).text = "[b] IN (NULL)" := by decide +kernel
  have hnot : (Value.listTest "b" true []).text = "[b] NOT IN (NULL)" := by decide +kernel
  refine ⟨hin ▸ inclusion_ends hcolumn [], hnot ▸ exclusion_ends "b" [], hin, hnot, by decide, ?_⟩
  exact conditionOfValue_ends_error rfl

end Filter

end QuerySql
