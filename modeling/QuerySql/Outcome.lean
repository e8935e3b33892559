/-
  What comes of reading and compiling criteria besides a text.

  An `Error` is a cause of failure together with the names and kinds that its
  message mentions.  `Error.category` sorts the causes, and `Error.message` is
  the text shown to the user: the title of the category and the detail of the
  cause.

  A `Diagnostic` is something that happened without making compilation fail.  A
  `Recorder` keeps the diagnostics in the order in which they were reported.
  `Report` is a computation that may report, `Compile` one that may also fail;
  what a failing computation reported before it failed stays recorded.
-/
import QuerySql.Value.Basic
import QuerySql.Text.Basic
import QuerySql.Text.Escaped

namespace QuerySql

/-! ## Errors -/

/-- The part of a request that must be an object. -/
inductive Part where
  | criteria | filter | row
deriving DecidableEq, Repr

/-- The name of a part in messages. -/
def Part.name : Part → String
  | criteria => "criteria"
  | filter => "where"
  | row => "values"

/-- Causes of failure. -/
inductive Error where
  /-- a key that names no comparator -/
  | unknownComparator (key : String)
  /-- a negated group -/
  | negatedGroup
  /-- a regular expression as the pattern of a like group -/
  | regexPattern (column pattern : String)
  | notAnObject (part : Part) (found : Value.Kind)
  /-- a group that is neither a list nor an object -/
  | notAGroup (key : String) (found : Value.Kind)
  /-- a group without members, while criteria are read -/
  | groupWithoutMembers (key : String)
  /-- a like group that is not an object -/
  | likeNotAnObject
  | sortKind (found : Value.Kind)
  /-- a sort text of which `rest` is left where a column name must stand -/
  | sortText (text rest : String)
  /-- a group without members, while a filter is compiled -/
  | emptyGroup
  | criteriaText
  | attributesText
  /-- a malformed definition of an attribute -/
  | attributeDefinition (name : String)
  | tableWithoutColumns (table : String)
  | updateWithoutValues
  /-- a malformed settings document -/
  | settingsText
deriving DecidableEq, Repr

namespace Error

/-- Categories of causes. -/
inductive Category where
  | unsupportedOperator | unsupportedValueType | invalidCriteria | settings
deriving DecidableEq, Repr

/-- The category of a cause. -/
def category : Error → Category
  | unknownComparator _ | negatedGroup => .unsupportedOperator
  | regexPattern _ _ => .unsupportedValueType
  | settingsText => .settings
  | _ => .invalidCriteria

/-- The words that open the message of an error. -/
def Category.title : Category → String
  | unsupportedOperator => "Unsupported operator"
  | unsupportedValueType => "Unsupported value type"
  | invalidCriteria => "Invalid criteria"
  | settings => "Configuration error"

/-- What a cause adds to the title of its category. -/
def detail? : Error → Option String
  | unknownComparator key => some ("Unknown comparator: " ++ key)
  | negatedGroup => some "NOT not supported yet"
  | regexPattern column pattern =>
    some ("RegExp not supported in LIKE on [" ++ column ++ "]: /" ++ pattern ++ "/")
  | notAnObject part found => some (part.name ++ " must be an object, got " ++ found.name)
  | notAGroup key found =>
    some ("`" ++ key ++ "` must be a list of criteria, got " ++ found.name)
  | groupWithoutMembers key => some ("`" ++ key ++ "` needs at least one criteria")
  | likeNotAnObject => some "`like` must map attributes to patterns"
  | sortKind found => some ("sort must be a string or an object, got " ++ found.name)
  | sortText text rest =>
    some ("Bad sort expression '" ++ text ++ "': Error(Error \x7b input: " ++ Text.escaped rest
      ++ ", code: TakeTill1 \x7d)")
  | emptyGroup => some "empty criteria group"
  | criteriaText => some "criteria is not valid JSON"
  | attributesText => some "attributes are not a JSON object"
  | attributeDefinition name => some ("attribute [" ++ name ++ "]")
  | tableWithoutColumns table =>
    some ("CREATE TABLE " ++ Text.bracketed table ++ " needs at least one attribute")
  | updateWithoutValues => some "UPDATE needs at least one value"
  | settingsText => none

/-- The message of an error. -/
def message (e : Error) : String :=
  match e.detail? with
  | some detail => e.category.title ++ ": " ++ detail
  | none => e.category.title

end Error

/-! ## Diagnostics -/

/-- Something worth reporting that does not make compilation fail. -/
inductive Diagnostic where
  /-- a type of column that is not known, and the type used in its place -/
  | unknownType (name fallback : String)
  /-- a value without a JSON form, which was used as it is -/
  | unencodable (kind : Value.Kind)
deriving DecidableEq, Repr

/-- The text of a diagnostic. -/
def Diagnostic.message : Diagnostic → String
  | unknownType name fallback =>
    "Unregistered type given: '" ++ name ++ "', using " ++ fallback
  | unencodable kind => "Could not JSON-encode " ++ kind.name ++ " value, passing it through"

/-- The diagnostics reported so far, the oldest first. -/
structure Recorder where
  diagnostics : List Diagnostic := []
deriving DecidableEq, Repr

/-- The recorder after one more report. -/
def Recorder.add (d : Diagnostic) (r : Recorder) : Recorder := ⟨r.diagnostics ++ [d]⟩

/-- A computation that may report diagnostics. -/
abbrev Report := StateM Recorder

/-- A computation that may report diagnostics and fail. -/
abbrev Compile := ExceptT Error Report

/-- Reports a diagnostic. -/
def report (d : Diagnostic) : Report Unit := modify (Recorder.add d)

end QuerySql
