/-
  Values and JSON.

  * `Value.ofJson` is the value of a JSON text.  An integer beyond 63 bits and
    sign becomes the nearest float;
  * `Value.toJson?` encodes a value as JSON.  A date becomes its text and a
    pattern an empty object.  Functions have no encoding: one in an array
    becomes null, as does one by itself, and an entry of an object is dropped.
    An object that repeats a key gets one entry for it, at the first position
    and with the last value.  Infinities and NaN have no JSON form, and neither
    has a value that holds one, wherever it stands.
-/
import QuerySql.Value.Basic
import QuerySql.Json.Source
import QuerySql.Json.Printer

namespace QuerySql.Value

mutual

/-- The value of a JSON value. -/
def ofJson : Json → Value
  | .null => .null
  | .bool b => .bool b
  | .integer n =>
    if -Int.pow 2 63 ≤ n ∧ n < Int.pow 2 63 then .int (Int64.ofInt n) else .float (.ofInt n)
  | .float x => .float x
  | .string text => .string text
  | .array items => .array (ofJsonItems items)
  | .object entries => .object (ofJsonEntries entries)

/-- The values of the items of an array. -/
def ofJsonItems : List Json → List Value
  | [] => []
  | v :: rest => ofJson v :: ofJsonItems rest

/-- The values of the entries of an object. -/
def ofJsonEntries : List (String × Json) → List (String × Value)
  | [] => []
  | (key, v) :: rest => (key, ofJson v) :: ofJsonEntries rest

end

/-- The value that a JSON text denotes. -/
def ofJsonText? (text : String) : Option Value := (Json.ofText? text).map ofJson

mutual

/-- The JSON form of a value. -/
def toJson? : Value → Option Json
  | .null => some .null
  | .bool b => some (.bool b)
  | .int n => some (.integer n.toInt)
  | .float x => if x.isFinite then some (.float x) else none
  | .string text => some (.string text)
  | .date instant => some (.string instant.jsonText)
  | .function _ => some .null
  | .regex _ => some (.object [])
  | .array items => (toJsonItems? items).map .array
  | .object entries => (toJsonEntries? entries).map fun es => .object (Entries.distinct es)

/-- The JSON forms of the items of an array. -/
def toJsonItems? : List Value → Option (List Json)
  | [] => some []
  | v :: rest => do return (← toJson? v) :: (← toJsonItems? rest)

/-- The entries of an object that have a JSON form, without the functions. -/
def toJsonEntries? : List (String × Value) → Option (List (String × Json))
  | [] => some []
  | (_, .function _) :: rest => toJsonEntries? rest
  | (key, v) :: rest => do return (key, ← toJson? v) :: (← toJsonEntries? rest)

end

/-- The JSON text of a value, if it has a JSON form. -/
def jsonText? (v : Value) : Option String := v.toJson?.map Json.text

end QuerySql.Value
