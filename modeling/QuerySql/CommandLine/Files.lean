/-
  Files that the command line reads.

  A `Host` is what the command line knows of the world around it: how to read
  files and the standard input, and where settings may be.  `Directory` is a
  host whose files are given as a list of relative paths with their contents;
  on it the command line is a function of its arguments.

  The usual place of the settings is the file `usualSettingsPath` below the
  directory for settings, which is `.config` in the home directory unless the
  environment says otherwise.
-/
namespace QuerySql.CommandLine

/-- Why a file cannot be read. -/
inductive FileError where
  /-- a failure of the system, with its description and number -/
  | system (description : String) (number : Nat)
  | notText
deriving DecidableEq, Repr

namespace FileError

/-- The text of a failure. -/
def message : FileError → String
  | system description number => description ++ " (os error " ++ toString number ++ ")"
  | notText => "stream did not contain valid UTF-8"

/-- There is no such file. -/
def notFound : FileError := .system "No such file or directory" 2

/-- A file stands where the path has a directory. -/
def notDirectory : FileError := .system "Not a directory" 20

/-- The path leads to a directory. -/
def isDirectory : FileError := .system "Is a directory" 21

end FileError

/-- The usual settings file, below the directory for settings. -/
def usualSettingsPath : String := "tsql-criteria/config.toml"

/-- What the command line knows of the world around it. -/
structure Host (m : Type → Type) where
  /-- the content of a file -/
  readFile : String → m (Except FileError String)
  /-- all of the standard input -/
  readInput : m (Except FileError String)
  /-- the settings file that the environment names -/
  environmentSettings : m (Option String)
  /-- the settings file at the usual place, if it exists -/
  usualSettings : m (Option String)

/-! ## Directories -/

/-- The files below a directory, with their paths from there. -/
structure Directory where
  files : List (String × String)

namespace Directory

/-- The names that a path is made of. -/
def segments (path : String) : List String :=
  (path.toList.splitOn '/').map String.ofList

/-- The files of the directory, with the names that their paths are made of. -/
def entries (d : Directory) : List (List String × String) :=
  d.files.map fun (path, content) => (segments path, content)

/-- What stands at a place given by names. -/
inductive Node where
  | file (content : String)
  | directory
  | nothing
deriving DecidableEq, Repr

/-- What stands at a place. -/
def node (d : Directory) (place : List String) : Node :=
  match d.entries.lookup place with
  | some content => .file content
  | none => if d.entries.any fun entry => place.isPrefixOf entry.1 then .directory else .nothing

/-- Walks from a directory, whose place is `place`, along the names of a path.
    Nothing outside the directory can be found. -/
def walk (d : Directory) (place : List String) : List String → Except FileError String
  | [] => .error .isDirectory
  | name :: rest =>
    if name = "" ∨ name = "." then walk d place rest
    else if name = ".." then
      if place.isEmpty then .error .notFound else walk d place.dropLast rest
    else match d.node (place ++ [name]) with
      | .nothing => .error .notFound
      | .directory => walk d (place ++ [name]) rest
      | .file content => if rest.isEmpty then .ok content else .error .notDirectory

/-- The content of the file at a relative path. -/
def read (d : Directory) (path : String) : Except FileError String :=
  if path.isEmpty || path.startsWith "/" then .error .notFound else d.walk [] (segments path)

/-- The host with the given home directory, in which it runs, standard input and
    settings file named by the environment. -/
def host (d : Directory) (input : String) (environmentSettings : Option String) :
    Host Id where
  readFile path := d.read path
  readInput := .ok input
  environmentSettings := environmentSettings
  usualSettings :=
    let path := ".config/" ++ usualSettingsPath
    match d.read path with
    | .error e => if e = .isDirectory then some path else none
    | .ok _ => some path

end Directory

end QuerySql.CommandLine
