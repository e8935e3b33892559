/-
  Values that criteria and rows are made of.

  Besides what JSON has, a `Value` can be a point in time, a function (its
  source text) or a pattern (a regular expression).  Integers have 64 bits.
  The entries of an object are ordered, and a key may repeat.

  * `Value.kind` is the kind that messages name;
  * `isFalsy` holds of null, false, zero, NaN and the empty string;
  * `count?` is the number of rows that a value under `skip` or `limit` asks
    for: a natural number, given as an integer or as a float, and at most the
    largest number of 64 bits;
  * `ToValue` turns values of other types into a `Value`.
-/
import QuerySql.Instant
import QuerySql.Number.Binary64
import QuerySql.Entries

namespace QuerySql

/-- A value of criteria or rows. -/
inductive Value where
  | null
  | bool (b : Bool)
  | int (n : Int64)
  | float (x : Binary64)
  | string (text : String)
  | date (instant : Instant)
  /-- a function, given by its source text -/
  | function (source : String)
  /-- a regular expression -/
  | regex (pattern : String)
  | array (items : List Value)
  | object (entries : List (String × Value))
deriving Inhabited

namespace Value

/-- Kinds of values. -/
inductive Kind where
  | null | boolean | number | string | date | function | regex | array | object
deriving DecidableEq, Repr

/-- The name of a kind in messages. -/
def Kind.name : Kind → String
  | null => "null"
  | boolean => "boolean"
  | number => "number"
  | string => "string"
  | date => "date"
  | function => "function"
  | regex => "regex"
  | array => "array"
  | object => "object"

/-- The kind of a value. -/
def kind : Value → Kind
  | .null => .null
  | .bool _ => .boolean
  | .int _ | .float _ => .number
  | .string _ => .string
  | .date _ => .date
  | .function _ => .function
  | .regex _ => .regex
  | .array _ => .array
  | .object _ => .object

/-! ## Views -/

/-- The value is null. -/
def isNull : Value → Bool
  | .null => true
  | _ => false

/-- Null, false, zero, NaN and the empty string. -/
def isFalsy : Value → Bool
  | .null => true
  | .bool b => !b
  | .int n => n == 0
  | .float x => x.isZero || x.isNaN
  | .string text => text.isEmpty
  | _ => false

/-- The text of a string. -/
def string? : Value → Option String
  | .string text => some text
  | _ => none

/-- The entries of an object. -/
def entries? : Value → Option (List (String × Value))
  | .object entries => some entries
  | _ => none

/-- The value of the first entry of an object with the given key. -/
def get? (key : String) (v : Value) : Option Value := v.entries?.bind (Entries.get? key)

/-- The natural number that a number is, as 64 bits: one that is larger counts
    as the largest of them. -/
def count? : Value → Option UInt64
  | .int n => if 0 ≤ n.toInt then some (UInt64.ofNat n.toInt.toNat) else none
  | .float x => x.natural?.map fun n => UInt64.ofNat (min n (Nat.pow 2 64 - 1))
  | _ => none

end Value

/-! ## Values of other types -/

/-- Types with a conversion to `Value`. -/
class ToValue (α : Type) where
  toValue : α → Value

export ToValue (toValue)

variable {α : Type} [ToValue α]

instance : ToValue Value := ⟨id⟩

instance : ToValue Bool := ⟨.bool⟩

instance : ToValue Int32 := ⟨fun n => .int n.toInt64⟩

instance : ToValue Int64 := ⟨.int⟩

instance : ToValue UInt32 := ⟨fun n => .int n.toUInt64.toInt64⟩

instance : ToValue Binary64 := ⟨.float⟩

instance : ToValue String := ⟨.string⟩

instance : ToValue Instant := ⟨.date⟩

instance : ToValue (List α) := ⟨fun items => .array (items.map toValue)⟩

/-- Nothing is null. -/
instance : ToValue (Option α) := ⟨fun v? => v?.elim .null toValue⟩

/-- An object of the given entries. -/
def Value.ofEntries (entries : List (String × α)) : Value :=
  .object (entries.map fun (key, v) => (key, toValue v))

end QuerySql
