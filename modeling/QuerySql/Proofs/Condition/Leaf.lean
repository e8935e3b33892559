/-
  Leaves of filters and the tests that are written for them.

  A `Leaf` is a single requirement of a filter: one equality, one test of a
  comparator, one list or one entry of a like group.

  * `Leaf.test` is the test that a leaf stands for and `Leaf.reports` what
    writing it reports.  The condition of a leaf is the text of its test, and only
    a regular expression in a like group is refused (`Leaf.condition_concludes`);
  * `Leaf.skeleton` is the leaf without the characters of its texts
    (`Leaf.redacted_skeleton`).
-/
import QuerySql.Proofs.Sql.Test
import QuerySql.Proofs.Value.Literal

namespace QuerySql

/-- A single requirement of a filter. -/
inductive Leaf where
  | equals (column : String) (value : Value)
  | compares (column : String) (comparator : Comparator) (value : Value)
  | isIn (column : String) (values : List Value)
  /-- an entry of a like group -/
  | like (column : String) (pattern : Value)

namespace Leaf

/-- The column that is tested. -/
def column : Leaf → String
  | equals c _ | compares c _ _ | isIn c _ | like c _ => c

/-- The condition of a leaf. -/
def condition : Leaf → Compile String
  | equals c v => Condition.equality c v
  | compares c op v => Condition.comparison c op v
  | isIn c vs => Condition.membership c vs
  | like c v => Condition.likeEntry c v

/-- The leaf is a regular expression in a like group. -/
def IsRegex : Leaf → Prop
  | like _ (.regex _) => True
  | _ => False

/-- Why a leaf has no condition. -/
def refusal? : Leaf → Option Error
  | like c (.regex pattern) => some (.regexPattern c pattern)
  | _ => none

theorem isRegex_iff {l : Leaf} : l.IsRegex ↔ ∃ c pattern, l = like c (.regex pattern) := by
  cases l with
  | like c v => cases v <;> simp [IsRegex]
  | _ => simp [IsRegex]

theorem refusal?_eq_some {l : Leaf} {e : Error} : l.refusal? = some e ↔
    ∃ c pattern, l = like c (.regex pattern) ∧ e = .regexPattern c pattern := by
  cases l with
  | like c v => cases v <;> simp [refusal?, eq_comm]
  | _ => simp [refusal?]

theorem refusal?_eq_none {l : Leaf} : l.refusal? = none ↔ ¬ l.IsRegex := by
  cases l with
  | like c v => cases v <;> simp [refusal?, IsRegex]
  | _ => simp [refusal?, IsRegex]

/-! ## Tests -/

/-- The test that a column equals a value, or is null. -/
def equalityTest (column : String) : Value → Sql.Test
  | .null => .isNull column false
  | v => .compares column .equal v.sqlLiteral

/-- The test that a column differs from a value, from null or from the items of a list. -/
def inequalityTest (column : String) : Value → Sql.Test
  | .null => .isNull column true
  | .array items =>
    .isIn column true (Value.sqlLiterals items).1 (Value.sqlLiterals items).2
  | v => .compares column .different v.sqlLiteral

/-- The test that a column contains the text of a value. -/
def searchTest (before after : String) (column : String) (v : Value) : Sql.Test :=
  .compares column .like (v.sqlLiteral.searched before.toList after.toList)

/-- The test of a comparator. -/
def comparatorTest (column : String) (op : Comparator) (v : Value) : Sql.Test :=
  match op with
  | .lessThan => .compares column .less v.sqlLiteral
  | .lessThanOrEqual => .compares column .lessOrEqual v.sqlLiteral
  | .greaterThan => .compares column .greater v.sqlLiteral
  | .greaterThanOrEqual => .compares column .greaterOrEqual v.sqlLiteral
  | .not => inequalityTest column v
  | .like => searchTest "" "" column v
  | .contains => searchTest "%" "%" column v
  | .startsWith => searchTest "" "%" column v
  | .endsWith => searchTest "%" "" column v

/-- The test that a leaf stands for. -/
def test : Leaf → Sql.Test
  | equals c v => equalityTest c v
  | compares c op v => comparatorTest c op v
  | isIn c vs => .isIn c false (Value.sqlLiterals vs).1 (Value.sqlLiterals vs).2
  | like c v => .compares c .like v.sqlLiteral.escaped

/-- What writing the condition of a leaf reports. -/
def reports : Leaf → List Diagnostic
  | equals _ v => v.reports
  | compares _ .not (.array items) => items.flatMap Value.reports
  | compares _ _ v => v.reports
  | isIn _ vs => vs.flatMap Value.reports
  | like _ v => v.reports

@[simp] theorem column_test (l : Leaf) : l.test.column = l.column := by
  cases l with
  | equals c v => cases v <;> rfl
  | compares c op v => cases op <;> cases v <;> rfl
  | isIn | like => rfl

/-! ## Conditions -/

theorem equality_ends (c : String) (v : Value) :
    Report.Ends (Condition.equality c v) (equalityTest c v).text v.reports := by
  cases v with
  | null => exact Report.ends_pure _
  | _ => exact (Value.literal_ends _).map fun l => Text.bracketed c ++ "=" ++ l

theorem operation_ends (op : Sql.Operator) (c : String) (v : Value) :
    Report.Ends (Condition.operation op.text c v) (Sql.Test.compares c op v.sqlLiteral).text
      v.reports :=
  v.literal_ends.map fun l => Text.bracketed c ++ op.text ++ l

theorem literalList_ends (vs : List Value) : Report.Ends (Condition.literalList vs)
    (", ".intercalate (((Value.sqlLiterals vs).1 :: (Value.sqlLiterals vs).2).map Sql.Literal.text))
    (vs.flatMap Value.reports) := by
  cases vs with
  | nil => exact Report.ends_pure _
  | cons v vs =>
    have h := (Report.ends_mapM (l := v :: vs) fun w _ => w.literal_ends).map (", ".intercalate ·)
    simpa [Condition.literalList, Value.sqlLiterals, Function.comp_def] using h

theorem membership_ends (c : String) (vs : List Value) :
    Report.Ends (Condition.membership c vs)
      (Sql.Test.isIn c false (Value.sqlLiterals vs).1 (Value.sqlLiterals vs).2).text
      (vs.flatMap Value.reports) :=
  (literalList_ends vs).map fun ls => Text.bracketed c ++ " IN (" ++ ls ++ ")"

theorem exclusion_ends (c : String) (vs : List Value) :
    Report.Ends (Condition.exclusion c vs)
      (Sql.Test.isIn c true (Value.sqlLiterals vs).1 (Value.sqlLiterals vs).2).text
      (vs.flatMap Value.reports) :=
  (literalList_ends vs).map fun ls => Text.bracketed c ++ " NOT IN (" ++ ls ++ ")"

/-- The test of the like family: the trimmed literal between wildcards and quotes. -/
theorem searchTest_text {before after : String} (hb : '\'' ∉ before.toList)
    (ha : '\'' ∉ after.toList) (c : String) (v : Value) : (searchTest before after c v).text =
      Text.bracketed c ++ " LIKE '" ++ before ++ Text.trimQuotes v.sqlLiteral.text ++ after ++ "'" := by
  have hquote : " LIKE '" = " LIKE " ++ "'" := rfl
  rw [searchTest, Sql.Test.text, ← v.sqlLiteral.searched_text hb ha, hquote]
  simp only [Sql.Operator.text, String.append_assoc]

theorem search_ends {before after : String} (hb : '\'' ∉ before.toList) (ha : '\'' ∉ after.toList)
    (c : String) (v : Value) :
    Report.Ends (Condition.search before after c v) (searchTest before after c v).text
      v.reports := by
  rw [searchTest_text hb ha]
  exact v.literal_ends.map fun l =>
    Text.bracketed c ++ " LIKE '" ++ before ++ Text.trimQuotes l ++ after ++ "'"

theorem comparison_ends (c : String) (op : Comparator) (v : Value) :
    Report.Ends (Condition.comparison c op v) (comparatorTest c op v).text
      (compares c op v).reports := by
  cases op with
  | lessThan => exact operation_ends .less c v
  | lessThanOrEqual => exact operation_ends .lessOrEqual c v
  | greaterThan => exact operation_ends .greater c v
  | greaterThanOrEqual => exact operation_ends .greaterOrEqual c v
  | not =>
    cases v with
    | null => exact Report.ends_pure _
    | array items => exact exclusion_ends c items
    | _ => exact operation_ends .different c _
  | like => exact search_ends (by decide) (by decide) c v
  | contains => exact search_ends (by decide) (by decide) c v
  | startsWith => exact search_ends (by decide) (by decide) c v
  | endsWith => exact search_ends (by decide) (by decide) c v

/-- **The condition of a leaf is the text of its test**, unless it is a regular
    expression in a like group, which is refused. -/
theorem condition_concludes (l : Leaf) : l.condition.Concludes l.refusal? l.test.text l.reports := by
  cases l with
  | equals c v => exact (Compile.ends_lift (equality_ends c v)).concludes
  | compares c op v => exact (Compile.ends_lift (comparison_ends c op v)).concludes
  | isIn c vs => exact (Compile.ends_lift (membership_ends c vs)).concludes
  | like c v =>
    have hlike := (Compile.ends_lift v.literal_ends).map fun l =>
      Text.bracketed c ++ " LIKE " ++
        Text.replaceAll Condition.percentMark Condition.escapedPercent l
    rw [Sql.Literal.escaped_text] at hlike
    cases v with
    | regex p => exact Compile.concludes_throw (.regexPattern c p) _ _
    | _ => exact hlike.concludes

theorem condition_settles (l : Leaf) : l.condition.Settles (¬ l.IsRegex) l.test.text l.reports :=
  l.condition_concludes.settles refusal?_eq_none

/-! ## Skeletons -/

/-- The leaf without the characters of its texts. -/
def skeleton : Leaf → Leaf
  | equals c v => equals c v.skeleton
  | compares c op v => compares c op v.skeleton
  | isIn c vs => isIn c (vs.map Value.skeleton)
  | like c v => like c v.skeleton

@[simp] theorem column_skeleton (l : Leaf) : l.skeleton.column = l.column := by
  cases l <;> rfl

theorem isRegex_skeleton (l : Leaf) : l.skeleton.IsRegex ↔ l.IsRegex := by
  cases l with
  | like c v => cases v <;> exact Iff.rfl
  | _ => exact Iff.rfl

theorem redacted_sqlLiterals (vs : List Value) (c : String) (negated : Bool) :
    (Sql.Test.isIn c negated (Value.sqlLiterals (vs.map Value.skeleton)).1
      (Value.sqlLiterals (vs.map Value.skeleton)).2).tokens.map Sql.Token.redacted =
    (Sql.Test.isIn c negated (Value.sqlLiterals vs).1 (Value.sqlLiterals vs).2).tokens.map
      Sql.Token.redacted := by
  cases vs with
  | nil => rfl
  | cons v vs =>
    have h := Sql.Test.redacted_operandTokens
      ((v :: vs).map fun w => w.skeleton.sqlLiteral) ((v :: vs).map Value.sqlLiteral)
      (by simp [Value.redacted_skeleton])
    simp only [Sql.Test.tokens, Value.sqlLiterals, List.map_cons, List.map_append, List.map_map,
      Function.comp_def] at h ⊢
    rw [h]

theorem redacted_compares (op : Sql.Operator) (c : String) {l m : Sql.Literal}
    (h : l.token.redacted = m.token.redacted) :
    (Sql.Test.compares c op l).tokens.map Sql.Token.redacted =
      (Sql.Test.compares c op m).tokens.map Sql.Token.redacted := by
  simp [Sql.Test.tokens, h]

/-- **A leaf and its skeleton are written by the same tokens**, up to the
    contents of strings. -/
theorem redacted_skeleton (l : Leaf) :
    l.skeleton.test.tokens.map Sql.Token.redacted = l.test.tokens.map Sql.Token.redacted := by
  cases l with
  | equals c v =>
    cases v with
    | null => rfl
    | _ => exact redacted_compares .equal c (Value.redacted_skeleton _)
  | compares c op v =>
    cases op with
    | lessThan => exact redacted_compares .less c v.redacted_skeleton
    | lessThanOrEqual => exact redacted_compares .lessOrEqual c v.redacted_skeleton
    | greaterThan => exact redacted_compares .greater c v.redacted_skeleton
    | greaterThanOrEqual => exact redacted_compares .greaterOrEqual c v.redacted_skeleton
    | not =>
      cases v with
      | null => rfl
      | array items =>
        have h := redacted_sqlLiterals items c true
        rwa [← Value.skeletons_eq] at h
      | _ => exact redacted_compares .different c (Value.redacted_skeleton _)
    | like | contains | startsWith | endsWith =>
      exact redacted_compares .like c (Sql.Literal.redacted_token_searched _ _ _ _ _ _)
  | isIn c vs => exact redacted_sqlLiterals vs c false
  | like c v =>
    refine redacted_compares .like c ?_
    rw [Sql.Literal.redacted_token_escaped, Sql.Literal.redacted_token_escaped, v.redacted_skeleton]

end Leaf

end QuerySql
