/-
  Running the command line.

  `run` carries out an invocation on a host: it loads the settings, reads what
  the command needs, and returns the statement or the failure.  The settings
  file of the arguments goes before the one of the environment, and that before
  the one at the usual place.  They are loaded first, whatever the command is.

  `outcome` is what the arguments lead to, with the text on both outputs.
-/
import QuerySql.CommandLine.Arguments
import QuerySql.CommandLine.Files
import QuerySql.Settings
import QuerySql.Criteria
import QuerySql.Column.Reading
import QuerySql.Statement.Change
import QuerySql.Column.Basic

namespace QuerySql.CommandLine

/-! ## Failures -/

/-- Why an invocation fails. -/
inductive Failure where
  | file (path : String) (e : FileError)
  | input (e : FileError)
  /-- the settings file cannot be read; a path that the arguments give is named -/
  | settingsFile (path : Option String) (e : FileError)
  /-- the settings file is malformed -/
  | settingsText (path : Option String) (e : Error)
  /-- the values of an UPDATE are not JSON -/
  | valuesText
  /-- the row of an INSERT is not JSON -/
  | rowText
  | metadataText
  | definitionText
  | compile (e : Error)
deriving DecidableEq, Repr

namespace Failure

/-- The words before the cause when settings come from a given path. -/
def settingsContext : Option String → String
  | some path => "reading config " ++ path ++ ": "
  | none => ""

/-- The text of a failure: the context, then the cause. -/
def message : Failure → String
  | file path e => "reading " ++ path ++ ": " ++ e.message
  | input e => "reading stdin: " ++ e.message
  | settingsFile path e => settingsContext path ++ "IO error: " ++ e.message ++ ": " ++ e.message
  | settingsText path e => settingsContext path ++ e.message
  | valuesText => "parsing --set"
  | rowText => "JSON"
  | metadataText => "parsing column metadata"
  | definitionText => "parsing attribute definition"
  | compile e => e.message

end Failure

/-! ## Reading -/

variable {m : Type → Type} [Monad m]

/-- A step of an invocation. -/
abbrev Step (m : Type → Type) := ExceptT Failure m

/-- Fails for a cause that lies in the criteria. -/
def checked {α : Type} (result : Except Error α) : Step m α :=
  match result with
  | .ok a => pure a
  | .error e => throw (.compile e)

/-- The settings in a file. -/
def settingsIn (host : Host m) (path : String) (named : Option String) : Step m Settings := do
  match ← host.readFile path with
  | .error e => throw (.settingsFile named e)
  | .ok text =>
    match Settings.ofText text with
    | .error e => throw (.settingsText named e)
    | .ok settings => return settings

/-- The settings of an invocation. -/
def loadSettings (host : Host m) (path : Option String) : Step m Settings := do
  match path with
  | some path => settingsIn host path (some path)
  | none =>
    match ← host.environmentSettings with
    | some path => settingsIn host path none
    | none =>
      match ← host.usualSettings with
      | some path => settingsIn host path none
      | none => return {}

/-- The content of a file, or of the standard input. -/
def readSource (host : Host m) (path : Option String) : Step m String := do
  match path.filter (· ≠ "-") with
  | some path =>
    match ← host.readFile path with
    | .ok text => return text
    | .error e => throw (.file path e)
  | none =>
    match ← host.readInput with
    | .ok text => return text
    | .error e => throw (.input e)

/-- The criteria in a file; a blank one holds no criteria. -/
def readCriteria (host : Host m) (path : Option String) : Step m Criteria := do
  let text ← readSource host path
  if Text.AllBlank text then return {} else checked (Criteria.ofText text)

/-- The definition of a column: JSON if it starts with a brace, else a type. -/
def readDefinition (text : String) : Step m Attribute :=
  match text.toList.dropWhile Text.isBlank with
  | '{' :: _ =>
    match Attribute.ofText? text with
    | some a => pure a
    | none => throw .definitionText
  | _ => pure { type := text }

/-- The text that a compilation yields; its diagnostics are not shown. -/
def compiled (text : Compile String) : Step m String := checked (text.run.run {}).1

/-! ## Commands -/

/-- The text that a command prints. -/
def Command.run (host : Host m) (settings : Settings) : Command → Step m String
  | .select table criteria => do
    compiled ((← readCriteria host criteria).selectText settings table)
  | .update table values criteria => do
    let some values := Value.ofJsonText? values | throw .valuesText
    let row ← checked (Row.ofValue values)
    let criteria ← readCriteria host criteria
    compiled (Row.updateText table row criteria)
  | .delete table criteria => do
    compiled ((← readCriteria host criteria).deleteText table)
  | .insert table row schema => do
    let some row := Value.ofJsonText? (← readSource host row) | throw .rowText
    let row ← checked (Row.ofValue row)
    compiled (Row.insertText settings table (schema.getD settings.schema) row)
  | .createTable table attributes => do
    let columns ← checked (Attribute.listOfText (← readSource host attributes))
    compiled (Table.createText table columns)
  | .dropTable table => pure (Table.dropText table)
  | .addColumn table column definition => do
    compiled (Table.addColumnText table column (← readDefinition definition))
  | .dropColumn table column => pure (Table.dropColumnText table column)
  | .introspect metadata => do
    let some rows := ColumnRow.listOfText? (← readSource host metadata) | throw .metadataText
    return (Attribute.listToJson (Attribute.ofRows rows)).prettyText
  | .literal value => compiled ((Value.ofJsonText? value).getD (.string value)).literal

/-- The command compiles a statement. -/
def Command.isStatement : Command → Bool
  | .introspect _ | .literal _ => false
  | _ => true

/-- Carries out an invocation. -/
def run (host : Host m) (i : Invocation) : Step m String := do
  let settings ← loadSettings host i.settingsFile
  i.command.run host settings

/-! ## Outcomes -/

/-- How the command line ends. -/
structure Outcome where
  status : UInt8
  output : String := ""
  errors : String := ""
deriving DecidableEq, Repr

/-- The name and version of the command line. -/
def versionText : String := "tsqlc 0.3.0"

/-- A summary of the commands. -/
def helpText : String :=
  "Compile declarative query criteria into SQL Server statements\n\n"
    ++ "Usage: tsqlc [OPTIONS] COMMAND\n\n"
    ++ "Commands: select, update, delete, insert, create-table, drop-table, add-column,\n"
    ++ "drop-column, introspect, literal"

/-- What the arguments lead to. -/
def outcome (host : Host m) (arguments : List String) : m Outcome := do
  match Request.ofArguments arguments with
  | .version => return { status := 0, output := versionText ++ "\n" }
  | .help => return { status := 0, output := helpText ++ "\n" }
  | .misuse => return { status := 2, errors := helpText ++ "\n" }
  | .run i =>
    match ← (run host i).run with
    | .ok text =>
      return {
        status := 0
        output := text ++ "\n"
        errors := if i.verbose && i.command.isStatement then "Generated SQL:\n" else "" }
    | .error e => return { status := 1, errors := "Error: " ++ e.message ++ "\n" }

end QuerySql.CommandLine
