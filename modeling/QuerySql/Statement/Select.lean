/-
  SELECT statements, and the clause that restricts a statement.

  * `Criteria.restriction` is the condition of the filter after WHERE, and then
    AND with the group of alternatives.  The alternatives are written with AND
    also if there is no filter;
  * `Criteria.columnList` are the selected columns, then the grouping columns
    that are not among them, then the aggregates, or `*`;
  * `Criteria.selectText` is the statement.  Without rows to skip, a limit is
    written as TOP; with them the statement pages by OFFSET and FETCH, which
    needs an order, so that the one of the settings is used if there is none.
-/
import QuerySql.Condition
import QuerySql.Criteria
import QuerySql.SortOrder
import QuerySql.Settings

namespace QuerySql

/-! ## Restriction -/

namespace Criteria

/-- The condition after WHERE, with the words before it. -/
def filterText (c : Criteria) : Compile String :=
  match c.filter with
  | none | some [] => return ""
  | some f => return " WHERE " ++ (← f.condition)

/-- The group of alternatives, with the word before it. -/
def alternativesText (c : Criteria) : Compile String :=
  match c.alternatives with
  | [] => return ""
  | members => return " AND " ++ (← Filter.anyCondition members)

/-- What restricts a statement to some of the rows. -/
def restriction (c : Criteria) : Compile String :=
  return (← c.filterText) ++ (← c.alternativesText)

/-! ## Columns -/

/-- An aggregate of a column, under the name of the column. -/
def aggregate (before after column : String) : String :=
  before ++ Text.bracketed column ++ after ++ " AS " ++ Text.bracketed column

/-- The items of the list of columns. -/
def columnItems (c : Criteria) : List String :=
  c.select.map Text.bracketed
    ++ (c.groupBy.filter fun column => !c.select.contains column).map Text.bracketed
    ++ c.sum.map (aggregate "SUM(" ")")
    ++ c.average.map (aggregate "AVG(CAST(" " AS FLOAT))")
    ++ c.max.map (aggregate "MAX(" ")")
    ++ c.min.map (aggregate "MIN(" ")")

/-- The list of columns. -/
def columnList (c : Criteria) : String :=
  match c.columnItems with
  | [] => "*"
  | items => ", ".intercalate items

/-! ## Order and pages -/

end Criteria

/-- A column with its direction. -/
def SortOrder.item : String × Direction → String
  | (column, direction) => Text.bracketed column ++ " " ++ direction.sqlText

/-- The list of sorted columns. -/
def SortOrder.sqlText : SortOrder → Except Error String
  | .expression text => return item (← ofExpression text)
  | .columns sorted => return ", ".intercalate (sorted.map item)

namespace Criteria

/-- The rows that are returned at most, if none are skipped. -/
def topText (c : Criteria) : String :=
  match c.rowLimit?, c.offset? with
  | some n, none => "TOP " ++ Number.natText n.toNat ++ " "
  | _, _ => ""

/-- The grouping columns. -/
def groupText (c : Criteria) : String :=
  match c.groupBy with
  | [] => ""
  | columns => " GROUP BY " ++ ", ".intercalate (columns.map Text.bracketed)

/-- What the rows are ordered by. -/
def orderText (settings : Settings) (c : Criteria) : Except Error String :=
  match c.sort.filter fun s => !s.isEmpty with
  | some sort => return " ORDER BY " ++ (← sort.sqlText)
  | none =>
    match c.offset? with
    | some _ => return " ORDER BY " ++ settings.fallbackOrder
    | none => return ""

/-- The rows that are skipped, and then returned at most. -/
def pageText (c : Criteria) : String :=
  match c.offset?, c.rowLimit? with
  | none, _ => ""
  | some skipped, none => " OFFSET " ++ Number.natText skipped.toNat ++ " ROWS"
  | some skipped, some n =>
    " OFFSET " ++ Number.natText skipped.toNat ++ " ROWS FETCH NEXT " ++ Number.natText n.toNat
      ++ " ROWS ONLY"

/-- The SELECT statement on a table. -/
def selectText (settings : Settings) (table : String) (c : Criteria) : Compile String := do
  let restriction ← c.restriction
  let order ← (c.orderText settings : Except Error _)
  return "SELECT " ++ c.topText ++ c.columnList ++ " FROM " ++ Text.bracketed table ++ restriction
    ++ c.groupText ++ order ++ c.pageText

end Criteria

end QuerySql
