/-
  Texts of values.

  * `numberText` is the SQL text of a float, with the fewest digits that read
    back as it: positional from `10 ^ -6` up to `10 ^ 21`, scientific outside.
    Of two equally near decimals it takes the larger one.  Zero is `0` whatever
    its sign;
  * `Value.text` is the plain text of a value.  Arrays are the texts of their
    items with commas between them, where null is empty; an object is its JSON
    text, or a fixed text if it has no JSON form;
  * `Value.sqlText` is the SQL literal: `NULL`, 1 and 0 for the truth values,
    numbers as they are, and any other value as its text between quotes;
  * `Value.stored` prepares a value for storage: a function becomes its source
    text, an array or object its JSON text, and any other value stays as it is.
    An array or object without a JSON form also stays, and is reported;
  * `Value.literal` is the SQL literal of the prepared value.
-/
import QuerySql.Value.Json
import QuerySql.Text.Basic
import QuerySql.Outcome

namespace QuerySql

/-! ## Numbers -/

/-- The least float that is written in scientific form, `10 ^ 21`. -/
def scientificFrom : Binary64 := ⟨0x444B1AE4D6E2EF50⟩

/-- The float nearest to `10 ^ -6`; smaller ones are written in scientific form. -/
def scientificBelow : Binary64 := ⟨0x3EB0C6F7A0B5ED8D⟩

/-- The digits of a finite number other than zero, without its sign. -/
def magnitudeText (x : Binary64) : List Char :=
  let d := x.shortest .up
  if scientificFrom.magnitude ≤ x.magnitude ∨ x.magnitude < scientificBelow.magnitude then
    d.scientific
  else d.positional

/-- The SQL text of a float. -/
def numberText (x : Binary64) : String :=
  if x.isNaN then "NaN"
  else if x.isInfinite then if x.isNegative then "-Infinity" else "Infinity"
  else if x.isZero then "0"
  else String.ofList (if x.isNegative then '-' :: magnitudeText x else magnitudeText x)

/-! ## Values -/

namespace Value

mutual

/-- The plain text of a value. -/
def text : Value → String
  | .null => "NULL"
  | .bool b => if b then "true" else "false"
  | .int n => Number.intText n.toInt
  | .float x => numberText x
  | .string text => text
  | .date instant => instant.sqlText
  | .function source => source
  | .regex pattern => "/" ++ pattern ++ "/"
  | .array items => ",".intercalate (itemTexts items)
  | .object entries => ((Value.object entries).jsonText?).getD "[object Object]"

/-- The texts of the items of an array; null is empty there. -/
def itemTexts : List Value → List String
  | [] => []
  | .null :: rest => "" :: itemTexts rest
  | v :: rest => text v :: itemTexts rest

end

/-- The SQL literal of a value. -/
def sqlText : Value → String
  | .null => "NULL"
  | .bool b => if b then "1" else "0"
  | .int n => Number.intText n.toInt
  | .float x => numberText x
  | v => Text.quoted v.text

/-! ### Storage -/

/-- The JSON text of an array or object, or the value itself, with a report,
    if it has no JSON form. -/
def encoded (v : Value) : Report Value :=
  match v.jsonText? with
  | some text => return .string text
  | none => do
    report (.unencodable v.kind)
    return v

/-- The value prepared for storage. -/
def stored : Value → Report Value
  | .function source => return .string source
  | .array items => encoded (.array items)
  | .object entries => encoded (.object entries)
  | v => return v

/-- The SQL literal of a value prepared for storage. -/
def literal (v : Value) : Report String := return (← v.stored).sqlText

end Value

end QuerySql
