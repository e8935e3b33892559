/-
  Conditions: the texts of filters.

  * `equality` tests a column against a value, or for null;
  * `membership` tests it against a list of values; the empty list is written
    as the list of null alone, which no value is equal to;
  * `comparison` is the test of a comparator;
  * `likeEntry` is the test of an entry of a like group.

  The four comparators of the like family search for the text of a literal: the
  quotes of the literal and those at the ends of the text are trimmed, wildcards
  are added, and the result is put between quotes again.  A like group takes
  the literal as it is, except that it writes `%%%` as an escaped percent sign,
  and refuses regular expressions.

  The predicates of a filter are joined with AND, and a group is put between
  parentheses with its members joined with AND or OR.  A member of a group is
  not put between parentheses itself: AND binds tighter than OR.  A group
  without members fails.  What is reported and which failure comes first follow
  the order of the text.
-/
import QuerySql.Filter.Basic
import QuerySql.Value.Text
import QuerySql.Text.Basic

namespace QuerySql.Condition

/-- `[column]=value`, or `[column] IS NULL`. -/
def equality (column : String) (v : Value) : Report String :=
  match v with
  | .null => return Text.bracketed column ++ " IS NULL"
  | v => return Text.bracketed column ++ "=" ++ (← v.literal)

/-- The literals of a list of values, with commas between them; `NULL` for the
    empty list. -/
def literalList (values : List Value) : Report String :=
  if values.isEmpty then return "NULL"
  else return ", ".intercalate (← values.mapM Value.literal)

/-- `[column] IN (...)`. -/
def membership (column : String) (values : List Value) : Report String :=
  return Text.bracketed column ++ " IN (" ++ (← literalList values) ++ ")"

/-- `[column] NOT IN (...)`. -/
def exclusion (column : String) (values : List Value) : Report String :=
  return Text.bracketed column ++ " NOT IN (" ++ (← literalList values) ++ ")"

/-- The column and the value with an operator between them. -/
def operation (operator column : String) (v : Value) : Report String :=
  return Text.bracketed column ++ operator ++ (← v.literal)

/-- The column differs from the value. -/
def inequality (column : String) (v : Value) : Report String :=
  match v with
  | .null => return Text.bracketed column ++ " IS NOT NULL"
  | .array items => exclusion column items
  | v => operation "<>" column v

/-- The column contains the text of the value between `before` and `after`. -/
def search (before after column : String) (v : Value) : Report String :=
  return Text.bracketed column ++ " LIKE '" ++ before ++ Text.trimQuotes (← v.literal) ++ after
    ++ "'"

/-- The test of a comparator. -/
def comparison (column : String) (c : Comparator) (v : Value) : Report String :=
  match c with
  | .lessThan => operation "<" column v
  | .lessThanOrEqual => operation "<=" column v
  | .greaterThan => operation ">" column v
  | .greaterThanOrEqual => operation ">=" column v
  | .not => inequality column v
  | .like => search "" "" column v
  | .contains => search "%" "%" column v
  | .startsWith => search "" "%" column v
  | .endsWith => search "%" "" column v

/-- The test of the comparator with the given key. -/
def comparisonOfKey (column key : String) (v : Value) : Compile String := do
  let c ← Comparator.ofKey key
  comparison column c v

/-- The tests of one column, all of which must hold. -/
def comparisons (column : String) (tests : List (Comparator × Value)) : Report String :=
  return " AND ".intercalate (← tests.mapM fun (c, v) => comparison column c v)

/-- What stands for a percent sign in the pattern of a like group. -/
def percentMark : String := "%%%"

/-- What a like group writes for `percentMark`. -/
def escapedPercent : String := "\\%"

/-- `[column] LIKE pattern`. -/
def likeEntry (column : String) (pattern : Value) : Compile String := do
  match pattern with
  | .regex text => throw (.regexPattern column text)
  | v =>
    let literal ← v.literal
    return Text.bracketed column ++ " LIKE " ++ Text.replaceAll percentMark escapedPercent literal

/-- The texts of the members of a group between parentheses. -/
def group (joiner : String) (members : List String) : Compile String :=
  if members.isEmpty then throw .emptyGroup
  else return "(" ++ joiner.intercalate members ++ ")"

end QuerySql.Condition

namespace QuerySql

mutual

/-- The condition of a predicate. -/
def Predicate.condition : Predicate → Compile String
  | .equals column v => Condition.equality column v
  | .compares column tests => Condition.comparisons column tests
  | .isIn column values => Condition.membership column values
  | .any members => do Condition.group " OR " (← Filter.memberConditions members)
  | .all members => do Condition.group " AND " (← Filter.memberConditions members)
  | .like patterns =>
    return " AND ".intercalate (← patterns.mapM fun (column, v) => Condition.likeEntry column v)

/-- The conditions of the predicates of a filter. -/
def Filter.conditions : List Predicate → Compile (List String)
  | [] => return []
  | p :: rest => return (← p.condition) :: (← Filter.conditions rest)

/-- The conditions of the members of a group. -/
def Filter.memberConditions : List (List Predicate) → Compile (List String)
  | [] => return []
  | f :: rest =>
    return " AND ".intercalate (← Filter.conditions f) :: (← Filter.memberConditions rest)

end

/-- The condition of a filter. -/
def Filter.condition (f : Filter) : Compile String :=
  return " AND ".intercalate (← Filter.conditions f)

/-- The condition that one of the filters holds. -/
def Filter.anyCondition (members : List Filter) : Compile String := do
  Condition.group " OR " (← Filter.memberConditions members)

end QuerySql
