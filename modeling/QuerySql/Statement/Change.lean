/-
  Statements that change rows: INSERT, UPDATE and DELETE.

  A `Row` gives columns their values, in order.  It is read from an object
  (`Row.ofValue`).

  * `Row.joined` joins the texts of the entries of an ordered mapping;
  * `Row.columnList` and `Row.literalList` are the two lists of an INSERT;
  * `Row.assignments` is the list of an UPDATE.  Its entries are written as
    conditions, comparator objects included, and then ` IS NULL` is replaced by
    `=NULL` wherever it occurs, inside literals too.

  An INSERT has no way to return the value that the server gives to the primary
  key.  So `Row.insertText` is three statements: one that declares a table
  variable, the INSERT itself, which puts the value there, and a SELECT that
  reads it.

  ```text
  DECLARE @Inserted AS TABLE (id NVARCHAR(255));
  INSERT INTO [dbo].[users] ([name]) OUTPUT INSERTED.[id] INTO @Inserted VALUES ('john');
  SELECT id FROM @Inserted
  ```

  An UPDATE needs at least one value (`Row.updateText`).
-/
import QuerySql.Condition
import QuerySql.Statement.Select

namespace QuerySql

/-! ## Rows -/

/-- Columns with their values. -/
abbrev Row := List (String × Value)

namespace Row

variable {α : Type}

/-- The row that a value stands for. -/
def ofValue : Value → Except Error Row
  | .object entries => .ok entries
  | v => .error (.notAnObject .row v.kind)

/-- The texts of the entries with a separator between them. -/
def joined (separator : String) (text : String → α → Compile String)
    (entries : List (String × α)) : Compile String :=
  return separator.intercalate (← entries.mapM fun (key, v) => text key v)

/-- The bracketed columns, with commas between them. -/
def columnList (row : List (String × α)) : String :=
  ", ".intercalate (row.map fun (column, _) => Text.bracketed column)

/-- The literals of the values, with commas between them. -/
def literalList (row : Row) : Report String :=
  return ", ".intercalate (← row.mapM fun (_, v) => v.literal)

/-- An assignment before ` IS NULL` is replaced. -/
def assignment (column : String) (v : Value) : Compile String := do
  match ← (Comparator.tests? v : Except Error _) with
  | some tests => Condition.comparisons column tests
  | none => Condition.equality column v

/-- The assignments of a row, with commas between them. -/
def assignments (row : Row) : Compile String :=
  return Text.replaceAll " IS NULL" "=NULL" (← joined ", " assignment row)

end Row

/-! ## Statements -/

/-- Inserts a row into a table of a schema and returns its primary key. -/
def Row.insertText (settings : Settings) (table schema : String) (row : Row) :
    Report String := do
  let output := "OUTPUT INSERTED." ++ Text.bracketed settings.primaryKey ++ " INTO "
    ++ settings.captureTable
  let content ←
    if row.isEmpty then pure (" " ++ output ++ " DEFAULT VALUES")
    else do
      let literals ← Row.literalList row
      pure (" (" ++ Row.columnList row ++ ") " ++ output ++ " VALUES (" ++ literals ++ ")")
  return "DECLARE " ++ settings.captureTable ++ " AS TABLE (" ++ settings.primaryKey ++ " "
    ++ settings.captureType ++ "); INSERT INTO " ++ Text.bracketed schema ++ "."
    ++ Text.bracketed table ++ content ++ "; SELECT " ++ settings.primaryKey ++ " FROM "
    ++ settings.captureTable

/-- Assigns the values of a row to the rows that the criteria select. -/
def Row.updateText (table : String) (row : Row) (c : Criteria) : Compile String := do
  if row.isEmpty then throw .updateWithoutValues
  let assigned ← Row.assignments row
  let restriction ← c.restriction
  return "UPDATE " ++ Text.bracketed table ++ " SET " ++ assigned ++ restriction

/-- Deletes the rows that the criteria select. -/
def Criteria.deleteText (table : String) (c : Criteria) : Compile String := do
  return "DELETE FROM " ++ Text.bracketed table ++ (← c.restriction)

end QuerySql
