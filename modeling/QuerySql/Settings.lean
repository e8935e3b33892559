/-
  Settings: the names that statements are filled in with.

  Each of the five settings may be given by a string under its name at the top
  of a TOML document (`Settings.ofText`); one that is missing keeps its default.
  Anything else in the document means nothing, but the document must be well
  formed.
-/
import QuerySql.Toml.Document
import QuerySql.Outcome

namespace QuerySql

/-- The names that statements are filled in with. -/
structure Settings where
  /-- the schema of the tables that rows are inserted into -/
  schema : String := "dbo"
  /-- the column whose value is captured when a row is inserted -/
  primaryKey : String := "id"
  /-- the table variable that holds the captured value -/
  captureTable : String := "@Inserted"
  /-- the type of the captured column -/
  captureType : String := "NVARCHAR(255)"
  /-- what rows are ordered by if they are paged without being sorted -/
  fallbackOrder : String := "@@IDENTITY"
deriving DecidableEq, Repr, Inhabited

/-- Captures the primary key in another table variable, under another type. -/
def Settings.capture (table type : String) (s : Settings) : Settings :=
  { s with captureTable := table, captureType := type }

namespace Settings

/-- The string under a name, or the default if the name is missing. -/
def entry (name default : String) (table : Toml.Table) : Except Error String :=
  match Entries.get? name table with
  | none => .ok default
  | some (.string text) => .ok text
  | some _ => .error .settingsText

/-- The settings of a document. -/
def ofText (text : String) : Except Error Settings := do
  match Toml.Document.read? text with
  | none => .error .settingsText
  | some table =>
    let default : Settings := {}
    return {
      schema := ← entry "schema" default.schema table
      primaryKey := ← entry "primary_key" default.primaryKey table
      captureTable := ← entry "capture_table" default.captureTable table
      captureType := ← entry "capture_type" default.captureType table
      fallbackOrder := ← entry "fallback_order_by" default.fallbackOrder table }

end Settings

end QuerySql
