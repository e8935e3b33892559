/-
  Criteria: what a statement selects and how.

  A `Criteria` has a filter, groups of alternatives that are added to it, a
  sort, the number of rows to skip and to return at most, the selected and the
  grouping columns, and the columns of four aggregates.  `offset?` and
  `rowLimit?` are the numbers that a statement acts on: zero is the same as no
  number at all.

  Criteria are read from an object with the keys `where`, `or`, `sort`, `skip`,
  `limit`, `select`, `groupBy`, `sum`, `average`, `max` and `min`, all of them
  optional; other keys mean nothing.  The entries are read in order, and of a
  key that is repeated the last entry counts, with two exceptions: a null under
  `where`, and under `or` anything but a list with members, change nothing.
-/
import QuerySql.SortOrder
import QuerySql.Filter.Reading
import QuerySql.Value.Text

namespace QuerySql

/-- What a statement selects and how. -/
structure Criteria where
  filter : Option Filter := none
  /-- filters one of which must hold besides `filter` -/
  alternatives : List Filter := []
  sort : Option SortOrder := none
  skip : Option UInt64 := none
  limit : Option UInt64 := none
  select : List String := []
  groupBy : List String := []
  sum : List String := []
  average : List String := []
  max : List String := []
  min : List String := []
deriving Inhabited

namespace Criteria

/-- The number of rows to skip, unless it is zero. -/
def offset? (c : Criteria) : Option UInt64 := c.skip.filter (0 < ·)

/-- The number of rows to return at most, unless it is zero. -/
def rowLimit? (c : Criteria) : Option UInt64 := c.limit.filter (0 < ·)

/-- Some column is aggregated. -/
def hasAggregates (c : Criteria) : Bool :=
  !(c.sum.isEmpty && c.average.isEmpty && c.max.isEmpty && c.min.isEmpty)

end Criteria

/-! ## Reading sorts -/

/-- The value under a column asks for the descending direction: a number that is
    not positive, or the word `desc` in any case. -/
def Direction.isDescending : Value → Bool
  | .int n => n.toInt ≤ 0
  | .float x => x.isAtMostZero
  | .string text => Text.lowerCase text = "desc"
  | _ => false

/-- A column name without a dash at its start, and whether there was one. -/
def SortOrder.undash (column : String) : String × Bool :=
  match column.toList with
  | '-' :: rest => (String.ofList rest, true)
  | _ => (column, false)

/-- The columns of an object.  Null and false leave a column out. -/
def SortOrder.columnsOfEntries : List (String × Value) → List (String × Direction)
  | [] => []
  | (_, .null) :: rest => columnsOfEntries rest
  | (_, .bool false) :: rest => columnsOfEntries rest
  | (column, v) :: rest =>
    let (name, dashed) := undash column
    let direction := if dashed || Direction.isDescending v then .descending else .ascending
    (name, direction) :: columnsOfEntries rest

/-- The sort that a value asks for. -/
def SortOrder.ofValue : Value → Except Error (Option SortOrder)
  | .null => .ok none
  | .string text => .ok (if Text.AllBlank text then none else some (.expression text))
  | .object entries =>
    match columnsOfEntries entries with
    | [] => .ok none
    | sorted => .ok (some (.columns sorted))
  | v => .error (.sortKind v.kind)

/-! ## Reading criteria -/

namespace Criteria

/-- The columns that a value names: the texts of its items if it is a list, none
    if it is null, and otherwise its own text. -/
def columnsOfValue : Value → List String
  | .null => []
  | .array items => items.map Value.text
  | v => [v.text]

/-- The filters under the key `or`; a value that is not a list with members
    stands for none. -/
def alternativesOfValue : Value → Except Error (Option (List Filter))
  | .array [] => .ok none
  | .array items => (Filter.ofValues items).map some
  | _ => .ok none

/-- The criteria after one more entry. -/
def readEntry (c : Criteria) : String × Value → Except Error Criteria
  | (key, v) =>
    match key with
    | "where" => do
      if v.isNull then return c else return { c with filter := some (← Filter.ofValue v) }
    | "or" => do
      match ← alternativesOfValue v with
      | some alternatives => return { c with alternatives }
      | none => return c
    | "sort" => do return { c with sort := ← SortOrder.ofValue v }
    | "skip" => .ok { c with skip := v.count? }
    | "limit" => .ok { c with limit := v.count? }
    | "select" => .ok { c with select := columnsOfValue v }
    | "groupBy" => .ok { c with groupBy := columnsOfValue v }
    | "sum" => .ok { c with sum := columnsOfValue v }
    | "average" => .ok { c with average := columnsOfValue v }
    | "max" => .ok { c with max := columnsOfValue v }
    | "min" => .ok { c with min := columnsOfValue v }
    | _ => .ok c

/-- The criteria that a value stands for. -/
def ofValue : Value → Except Error Criteria
  | .object entries => entries.foldlM readEntry {}
  | v => .error (.notAnObject .criteria v.kind)

/-- The criteria of a JSON text. -/
def ofText (text : String) : Except Error Criteria :=
  match Value.ofJsonText? text with
  | some v => ofValue v
  | none => .error .criteriaText

end Criteria

end QuerySql
