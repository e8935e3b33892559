/-
  The arguments of the command line.

  `Request.ofArguments` reads the arguments: options, the name of a command, and
  then the words and options of that command.

  * `--config FILE` (`-c FILE`) and `--verbose` (`-v`) may stand before the name
    of the command or after it; the file that is named later counts;
  * the value of an option is the next argument, or it is attached: `--config=F`,
    `-cF` and `-c=F`;
  * flags of one letter may be put together, the last of them with a value;
  * an argument that starts with a dash, other than the dash alone, is never a
    word or a value that is not attached.  After `--` every argument is a word;
  * an option must not be repeated on the same side of the name, and the name
    of a file must not be empty.
-/
namespace QuerySql.CommandLine

/-- What the command line can do.  A file that is not given, or given by a dash,
    is the standard input. -/
inductive Command where
  | select (table : String) (criteria : Option String)
  | update (table values : String) (criteria : Option String)
  | delete (table : String) (criteria : Option String)
  | insert (table : String) (row schema : Option String)
  | createTable (table : String) (attributes : Option String)
  | dropTable (table : String)
  | addColumn (table column definition : String)
  | dropColumn (table column : String)
  | introspect (metadata : Option String)
  | literal (value : String)
deriving DecidableEq, Repr

/-- A command with the options that every command has. -/
structure Invocation where
  settingsFile : Option String
  verbose : Bool
  command : Command
deriving DecidableEq, Repr

/-- What the arguments ask for. -/
inductive Request where
  | run (invocation : Invocation)
  | version
  | help
  /-- the arguments are not understood -/
  | misuse
deriving DecidableEq, Repr

/-! ## Options and words -/

/-- What ends the reading of the arguments early. -/
inductive Stop where
  | version | help | misuse
deriving DecidableEq, Repr

/-- What is expected on one side of the name of the command. -/
structure Level where
  /-- the long options with a value -/
  options : List String
  /-- before the name, where the first word is that name -/
  isFirst : Bool

/-- What was read on one side of the name of the command. -/
structure Matches where
  words : List String := []
  values : List (String × String) := []
  verbose : Bool := false
  /-- the option whose value must be the next argument -/
  pending : Option String := none
deriving DecidableEq, Repr

namespace Matches

/-- The value of an option. -/
def value? (option : String) (m : Matches) : Option String := m.values.lookup option

/-- Gives an option its value. -/
def setValue (option value : String) (m : Matches) : Except Stop Matches :=
  if (m.value? option).isSome || (option == "config" && value.isEmpty) then .error .misuse
  else .ok { m with values := (option, value) :: m.values, pending := none }

/-- Sets the flag for verbose output. -/
def setVerbose (m : Matches) : Except Stop Matches :=
  if m.verbose then .error .misuse else .ok { m with verbose := true }

end Matches

/-- Reads a long option, behind its dashes. -/
def Level.takeLong (level : Level) (m : Matches) (cs : List Char) : Except Stop Matches :=
  let name := String.ofList (cs.takeWhile (· ≠ '='))
  let value := (cs.dropWhile (· ≠ '=')).tail?.map String.ofList
  if level.options.contains name then
    match value with
    | some value => m.setValue name value
    | none => .ok { m with pending := some name }
  else if value.isSome then .error .misuse
  else if name = "verbose" then m.setVerbose
  else if name = "help" then .error .help
  else if name = "version" ∧ level.isFirst then .error .version
  else .error .misuse

/-- Reads options of one letter, behind their dash. -/
def Level.takeShort (level : Level) : Matches → List Char → Except Stop Matches
  | m, [] => .ok m
  | m, 'c' :: [] => .ok { m with pending := some "config" }
  | m, 'c' :: '=' :: value => m.setValue "config" (String.ofList value)
  | m, 'c' :: value => m.setValue "config" (String.ofList value)
  | m, 'v' :: rest => do takeShort level (← m.setVerbose) rest
  | _, 'h' :: _ => .error .help
  | _, 'V' :: _ => .error (if level.isFirst then .version else .misuse)
  | _, _ => .error .misuse

/-- Reads the arguments on one side of the name of the command, and returns the
    arguments from the name on. -/
def Level.read (level : Level) : Matches → List String → Except Stop (Matches × List String)
  | m, [] => if m.pending.isSome then .error .misuse else .ok (m, [])
  | m, argument :: rest =>
    match argument.toList with
    | ['-', '-'] =>
      if level.isFirst || m.pending.isSome then .error .misuse
      else .ok ({ m with words := m.words ++ rest }, [])
    | '-' :: '-' :: cs =>
      if m.pending.isSome then .error .misuse
      else do read level (← level.takeLong m cs) rest
    | '-' :: c :: cs =>
      if m.pending.isSome then .error .misuse
      else do read level (← level.takeShort m (c :: cs)) rest
    | _ =>
      match m.pending with
      | some option => do read level (← m.setValue option argument) rest
      | none =>
        if level.isFirst then .ok (m, argument :: rest)
        else read level { m with words := m.words ++ [argument] } rest

/-! ## Commands -/

/-- The long options with a value of a command, besides those that every command
    has; `none` if there is no such command. -/
def Command.options? (name : String) : Option (List String) :=
  if name = "update" then some ["set"]
  else if name = "insert" then some ["schema"]
  else if ["select", "delete", "create-table", "drop-table", "add-column", "drop-column",
      "introspect", "literal"].contains name then some []
  else none

/-- The command `help` says something on these words: none, or one command. -/
def Command.isHelpTopic : List String → Bool
  | [] => true
  | [name] => name == "help" || (Command.options? name).isSome
  | _ => false

/-- A table and the name of a file, which may be missing but not empty. -/
def tableAndFile? : List String → Option (String × Option String)
  | [table] => some (table, none)
  | [table, file] => if file.isEmpty then none else some (table, some file)
  | _ => none

/-- The name of a file, which may be missing but not empty. -/
def file? : List String → Option (Option String)
  | [] => some none
  | [file] => if file.isEmpty then none else some (some file)
  | _ => none

/-- The command of a name with its words and options. -/
def Command.ofMatches? (name : String) (m : Matches) : Option Command :=
  match name with
  | "select" => (tableAndFile? m.words).map fun (table, file) => .select table file
  | "update" => do
    let (table, file) ← tableAndFile? m.words
    return .update table (← m.value? "set") file
  | "delete" => (tableAndFile? m.words).map fun (table, file) => .delete table file
  | "insert" =>
    (tableAndFile? m.words).map fun (table, file) => .insert table file (m.value? "schema")
  | "create-table" => (tableAndFile? m.words).map fun (table, file) => .createTable table file
  | "drop-table" =>
    match m.words with
    | [table] => some (.dropTable table)
    | _ => none
  | "add-column" =>
    match m.words with
    | [table, column, definition] => some (.addColumn table column definition)
    | _ => none
  | "drop-column" =>
    match m.words with
    | [table, column] => some (.dropColumn table column)
    | _ => none
  | "introspect" => (file? m.words).map .introspect
  | "literal" =>
    match m.words with
    | [value] => some (.literal value)
    | _ => none
  | _ => none

/-- The invocation that the arguments ask for. -/
def Invocation.ofArguments (arguments : List String) : Except Stop Invocation := do
  let (outer, rest) ← Level.read ⟨["config"], true⟩ {} arguments
  match rest with
  | [] => throw .misuse
  | "help" :: topics => throw (if Command.isHelpTopic topics then .help else .misuse)
  | name :: rest =>
    match Command.options? name with
    | none => throw .misuse
    | some options =>
      let (inner, _) ← Level.read ⟨"config" :: options, false⟩ {} rest
      match Command.ofMatches? name inner with
      | none => throw .misuse
      | some command =>
        return {
          settingsFile := inner.value? "config" <|> outer.value? "config"
          verbose := outer.verbose || inner.verbose
          command }

/-- What the arguments ask for. -/
def Request.ofArguments (arguments : List String) : Request :=
  match Invocation.ofArguments arguments with
  | .ok invocation => .run invocation
  | .error .version => .version
  | .error .help => .help
  | .error .misuse => .misuse

end QuerySql.CommandLine
