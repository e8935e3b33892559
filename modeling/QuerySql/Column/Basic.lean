/-
  Columns, and the statements that create and change tables.

  * `ColumnType` are the abstract types of columns, found by their names in any
    case of the letters (`ColumnType.ofName?`);
  * `ColumnType.sqlText` is the type of the column in a table; only the types
    of texts have a size, which is unlimited if none is given;
  * `Attribute` is the definition of a column, with the name of its type and
    with flags that may be left open;
  * `ColumnRow` is a row of the metadata of a table, and `Attribute.ofRow` the
    definition that it describes;
  * `Attribute.columnText` is the definition as a statement has it.  A primary
    key comes first: an integer one is numbered by the server, and any other is
    a text of at most 255 characters that is not null.  Of the remaining
    constraints only one is written: that values are unique, or else that they
    are not null.
-/
import QuerySql.Outcome
import QuerySql.Number.Decimal
import QuerySql.Text.Basic

namespace QuerySql

/-! ## Types -/

/-- Abstract types of columns. -/
inductive ColumnType where
  | binary | string | array | json | text | boolean | integer | float | date | time | dateTime
deriving DecidableEq, Repr

namespace ColumnType

/-- The type names, in lower case. -/
def nameTable : List (String × ColumnType) :=
  [("binary", binary), ("string", string), ("array", array), ("json", json), ("text", text),
    ("boolean", boolean), ("int", integer), ("integer", integer), ("float", float),
    ("double", float), ("date", date), ("time", time), ("datetime", dateTime)]

/-- The type with a name, in any case of its letters. -/
def ofName? (name : String) : Option ColumnType := Entries.get? (Text.lowerCase name) nameTable

/-- The type of a column in a table. -/
def sqlText (size : Option UInt32) : ColumnType → String
  | binary | string => "NVARCHAR(" ++ sizeText ++ ")"
  | array | json | text => "VARCHAR(" ++ sizeText ++ ")"
  | boolean => "BIT"
  | integer => "INT"
  | float => "FLOAT"
  | date => "DATE"
  | time => "TIME"
  | dateTime => "DATETIME2"
where
  sizeText : String := match size with
    | some n => Number.natText n.toNat
    | none => "MAX"

/-- The type that is used in place of one that is not known. -/
def fallback : String := "VARCHAR"

/-- The type of a column in a table, by its name.  A name that is not known is
    reported. -/
def sqlTextOfName (name : String) (size : Option UInt32) : Report String :=
  match ofName? name with
  | some t => return t.sqlText size
  | none => do
    report (.unknownType name fallback)
    return fallback

end ColumnType

/-! ## Definitions -/

/-- The definition of a column. -/
structure Attribute where
  /-- the name of its type -/
  type : String := ""
  size : Option UInt32 := none
  primaryKey : Option Bool := none
  unique : Option Bool := none
  autoIncrement : Option Bool := none
  nullable : Option Bool := none
  indexed : Option Bool := none
deriving DecidableEq, Repr, Inhabited

/-- A row of the metadata of a table. -/
structure ColumnRow where
  name : String
  type : String
  autoIncrement : Option Bool := none
  primaryKey : Option Bool := none
  unique : Option Bool := none
  indexed : Option Bool := none
  nullable : Option Bool := none
deriving DecidableEq, Repr, Inhabited

/-- The definition that a row of metadata describes. -/
def Attribute.ofRow (row : ColumnRow) : Attribute where
  type := row.type
  primaryKey := row.primaryKey
  unique := row.unique
  autoIncrement := row.autoIncrement
  nullable := row.nullable
  indexed := row.indexed

/-- The columns that rows of metadata describe, with their names. -/
def Attribute.ofRows (rows : List ColumnRow) : List (String × Attribute) :=
  rows.map fun row => (row.name, .ofRow row)

/-! ## Tables -/

/-- The definition of a column in a table. -/
def Attribute.columnText (column : String) (a : Attribute) : Report String := do
  let type ← ColumnType.sqlTextOfName a.type a.size
  let constraint :=
    if a.primaryKey = some true then
      if type = "INT" then "INT IDENTITY PRIMARY KEY" else "VARCHAR(255) NOT NULL PRIMARY KEY"
    else if a.unique = some true then type ++ " UNIQUE"
    else if a.nullable = some false then type ++ " NOT NULL"
    else type ++ " NULL"
  return Text.bracketed column ++ " " ++ constraint

namespace Table

/-- The definitions of columns, with commas between them. -/
def columnTexts (columns : List (String × Attribute)) : Report String :=
  return ", ".intercalate (← columns.mapM fun (column, a) => a.columnText column)

/-- Creates a table; it must have a column. -/
def createText (table : String) (columns : List (String × Attribute)) : Compile String := do
  if columns.isEmpty then throw (.tableWithoutColumns table)
  return "CREATE TABLE " ++ Text.bracketed table ++ " (" ++ (← columnTexts columns) ++ ")"

/-- Drops a table. -/
def dropText (table : String) : String := "DROP TABLE " ++ Text.bracketed table

/-- Adds a column to a table. -/
def addColumnText (table column : String) (a : Attribute) : Report String :=
  return "ALTER TABLE " ++ Text.bracketed table ++ " ADD " ++ (← a.columnText column)

/-- Drops a column of a table. -/
def dropColumnText (table column : String) : String :=
  "ALTER TABLE " ++ Text.bracketed table ++ " DROP COLUMN " ++ Text.bracketed column

end Table

end QuerySql
