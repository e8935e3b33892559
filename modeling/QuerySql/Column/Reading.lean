/-
  Definitions and metadata of columns, read from JSON and written as JSON.

  * An `Attribute` is given by the name of its type, by an object of its fields,
    or by the list of its fields in the order of the structure.  Fields may be
    missing, and null is the same as missing except for the type; an object may
    have other keys, which mean nothing, but must not repeat a field.  A list
    is no longer than there are fields.
  * `Attribute.ofText?` reads one definition, `Attribute.listOfText` an object
    of definitions, where the last of several with one name counts.
  * A `ColumnRow` is given by an object or by a list in the same way, but its
    name and type must be there.  `ColumnRow.listOfText?` reads a list of rows
    from the text as it is written, so that the values of keys that mean nothing
    need only be well formed.
  * `Attribute.toJson` writes a definition without the fields that are open.
-/
import QuerySql.Column.Basic
import QuerySql.Json.Source
import QuerySql.Json.Printer

namespace QuerySql

/-- The value under a field, if it is there; fails on a field that is repeated. -/
def Entries.field? {α β : Type} (read : β → Option α) (key : String)
    (entries : List (String × β)) : Option (Option α) :=
  match entries.filter fun entry => entry.1 = key with
  | [] => some none
  | [(_, v)] => (read v).map some
  | _ => none

/-- The value at a position of a list, if it is there. -/
def Entries.position? {α β : Type} (read : β → Option α) (i : Nat) (items : List β) :
    Option (Option α) :=
  match items[i]? with
  | none => some none
  | some v => (read v).map some

/-! ## Definitions -/

namespace Json

/-- The text of a string. -/
def string? : Json → Option String
  | .string text => some text
  | _ => none

/-- A truth value; null leaves it open. -/
def flag? : Json → Option (Option Bool)
  | .null => some none
  | .bool b => some (some b)
  | _ => none

/-- A size of 32 bits; null leaves it open. -/
def size? : Json → Option (Option UInt32)
  | .null => some none
  | .integer n => if 0 ≤ n ∧ n < Int.pow 2 32 then some (some (UInt32.ofNat n.toNat)) else none
  | _ => none

end Json

namespace Attribute

/-- The definition with the given entries. -/
def ofEntries? (entries : List (String × Json)) : Option Attribute := do
  return {
    type := (← Entries.field? Json.string? "type" entries).getD ""
    size := (← Entries.field? Json.size? "size" entries).join
    primaryKey := (← Entries.field? Json.flag? "primaryKey" entries).join
    unique := (← Entries.field? Json.flag? "unique" entries).join
    autoIncrement := (← Entries.field? Json.flag? "autoIncrement" entries).join
    nullable := (← Entries.field? Json.flag? "nullable" entries).join
    indexed := (← Entries.field? Json.flag? "indexed" entries).join }

/-- The definition with the given fields, in order. -/
def ofItems? (items : List Json) : Option Attribute := do
  if 7 < items.length then none
  return {
    type := (← Entries.position? Json.string? 0 items).getD ""
    size := (← Entries.position? Json.size? 1 items).join
    primaryKey := (← Entries.position? Json.flag? 2 items).join
    unique := (← Entries.position? Json.flag? 3 items).join
    autoIncrement := (← Entries.position? Json.flag? 4 items).join
    nullable := (← Entries.position? Json.flag? 5 items).join
    indexed := (← Entries.position? Json.flag? 6 items).join }

/-- The definition that a JSON value stands for. -/
def ofJson? : Json → Option Attribute
  | .string type => some { type }
  | .object entries => ofEntries? entries
  | .array items => ofItems? items
  | _ => none

/-- The definition that a JSON text as written stands for. -/
def ofSource? : Json.Source → Option Attribute
  | .object entries => (Json.entriesWithin? (Json.maxDepth - 1) entries).bind ofEntries?
  | source => (Json.ofSource? source).bind ofJson?

/-- The definition that a JSON text stands for. -/
def ofText? (text : String) : Option Attribute := (Json.Source.ofText? text).bind ofSource?

/-- The definitions of the entries of an object, up to the first malformed one. -/
def listOfEntries : List (String × Json) → Except Error (List (String × Attribute))
  | [] => .ok []
  | (name, v) :: rest =>
    match ofJson? v with
    | some a => return (name, a) :: (← listOfEntries rest)
    | none => .error (.attributeDefinition name)

/-- The definitions that a JSON text lists under the names of the columns. -/
def listOfText (text : String) : Except Error (List (String × Attribute)) :=
  match Json.ofText? text with
  | some (.object entries) => listOfEntries entries
  | _ => .error .attributesText

/-! ### Written definitions -/

/-- The entry of a flag that is set. -/
def flagEntry (key : String) (flag : Option Bool) : List (String × Json) :=
  match flag with
  | some b => [(key, .bool b)]
  | none => []

/-- The definition as JSON. -/
def toJson (a : Attribute) : Json :=
  .object <| ("type", .string a.type)
    :: (match a.size with
      | some n => [("size", .integer n.toNat)]
      | none => [])
    ++ flagEntry "primaryKey" a.primaryKey ++ flagEntry "unique" a.unique
    ++ flagEntry "autoIncrement" a.autoIncrement ++ flagEntry "nullable" a.nullable
    ++ flagEntry "indexed" a.indexed

/-- Definitions under the names of the columns, as JSON.  A name that is
    repeated keeps its first position and gets its last definition. -/
def listToJson (columns : List (String × Attribute)) : Json :=
  .object (Entries.distinct (columns.map fun (name, a) => (name, a.toJson)))

end Attribute

/-! ## Metadata -/

namespace Json.Source

/-- The text of a string; there is none if it names a surrogate alone. -/
def string? : Source → Option String
  | .string text => text
  | _ => none

/-- A truth value; null leaves it open. -/
def flag? : Source → Option (Option Bool)
  | .null => some none
  | .bool b => some (some b)
  | _ => none

end Json.Source

namespace ColumnRow

open Json (Source)

/-- The row with the given entries. -/
def ofEntries? (entries : List (String × Source)) : Option ColumnRow := do
  return {
    name := ← (← Entries.field? Source.string? "ColumnName" entries)
    type := ← (← Entries.field? Source.string? "TypeName" entries)
    autoIncrement := (← Entries.field? Source.flag? "AutoIncrement" entries).join
    primaryKey := (← Entries.field? Source.flag? "PrimaryKey" entries).join
    unique := (← Entries.field? Source.flag? "Unique" entries).join
    indexed := (← Entries.field? Source.flag? "Indexed" entries).join
    nullable := (← Entries.field? Source.flag? "Nullable" entries).join }

/-- The row with the given fields, in order. -/
def ofItems? (items : List Source) : Option ColumnRow := do
  if 7 < items.length then none
  return {
    name := ← (← Entries.position? Source.string? 0 items)
    type := ← (← Entries.position? Source.string? 1 items)
    autoIncrement := (← Entries.position? Source.flag? 2 items).join
    primaryKey := (← Entries.position? Source.flag? 3 items).join
    unique := (← Entries.position? Source.flag? 4 items).join
    indexed := (← Entries.position? Source.flag? 5 items).join
    nullable := (← Entries.position? Source.flag? 6 items).join }

/-- The row that a JSON text as written stands for. -/
def ofSource? : Source → Option ColumnRow
  | .object entries =>
    (entries.mapM fun (entry : Option String × Source) => entry.1.map (·, entry.2)).bind ofEntries?
  | .array items => ofItems? items
  | _ => none

/-- The rows that a JSON text lists. -/
def listOfText? (text : String) : Option (List ColumnRow) :=
  match Source.ofText? text with
  | some (.array items) => items.mapM ofSource?
  | _ => none

end ColumnRow

end QuerySql
