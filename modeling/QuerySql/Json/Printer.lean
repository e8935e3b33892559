/-
  JSON text of a value.

  * `Json.text` is compact: no blanks at all;
  * `Json.prettyText` puts each item and each entry on a line of its own,
    indented by two spaces a level, and a space after each colon;
  * in strings only `"`, `\` and the characters below U+0020 are escaped
    (`stringChars`);
  * a number is written with the fewest digits that read back as it
    (`floatChars`): in positional form, with at least one digit after the
    point, if its first digit stands for `10 ^ -5` to `10 ^ 15`, and else in
    scientific form.  Of two equally near decimals it takes the even one.
-/
import QuerySql.Json.Basic
import QuerySql.Number.Decimal

namespace QuerySql.Json

/-! ## Strings -/

/-- A lower-case hexadecimal digit. -/
def hexDigit (n : Nat) : Char := Nat.digitChar n

/-- A character as it is written inside a string. -/
def escapedChar (c : Char) : List Char :=
  if c = '"' then ['\\', '"']
  else if c = '\\' then ['\\', '\\']
  else if c = '\x08' then ['\\', 'b']
  else if c = '\t' then ['\\', 't']
  else if c = '\n' then ['\\', 'n']
  else if c = '\x0c' then ['\\', 'f']
  else if c = '\r' then ['\\', 'r']
  else if c.toNat < 0x20 then
    ['\\', 'u', '0', '0', hexDigit (c.toNat / 16), hexDigit (c.toNat % 16)]
  else [c]

/-- A string between its quotes. -/
def stringChars (text : String) : List Char :=
  '"' :: (text.toList.flatMap escapedChar ++ ['"'])

/-! ## Numbers -/

/-- The digits of a positive number. -/
def decimalChars (d : Decimal) : List Char :=
  if -5 ≤ d.leadingExponent ∧ d.leadingExponent ≤ 15 then
    if 0 ≤ d.exponent then d.positional ++ ['.', '0'] else d.positional
  else d.scientific

/-- The text of a finite number. -/
def floatChars (x : Binary64) : List Char :=
  let unsigned := if x.isZero then ['0', '.', '0'] else decimalChars (x.shortest .even)
  if x.isNegative then '-' :: unsigned else unsigned

/-! ## Compact text -/

mutual

/-- The compact text. -/
def chars : Json → List Char
  | .null => ['n', 'u', 'l', 'l']
  | .bool true => ['t', 'r', 'u', 'e']
  | .bool false => ['f', 'a', 'l', 's', 'e']
  | .integer n => (Number.intText n).toList
  | .float x => floatChars x
  | .string text => stringChars text
  | .array [] => ['[', ']']
  | .array (v :: rest) => '[' :: (chars v ++ (itemsChars rest ++ [']']))
  | .object [] => ['{', '}']
  | .object ((key, v) :: rest) =>
    '{' :: (stringChars key ++ ':' :: (chars v ++ (entriesChars rest ++ ['}'])))

/-- Further items of an array, a comma before each. -/
def itemsChars : List Json → List Char
  | [] => []
  | v :: rest => ',' :: (chars v ++ itemsChars rest)

/-- Further entries of an object, a comma before each. -/
def entriesChars : List (String × Json) → List Char
  | [] => []
  | (key, v) :: rest => ',' :: (stringChars key ++ ':' :: (chars v ++ entriesChars rest))

end

/-- The compact text. -/
def text (v : Json) : String := String.ofList v.chars

/-! ## Indented text -/

/-- A new line at the given depth. -/
def newLine (depth : Nat) : List Char := '\n' :: List.replicate (2 * depth) ' '

mutual

/-- The indented text of a value at the given depth. -/
def prettyChars (depth : Nat) : Json → List Char
  | .array [] => ['[', ']']
  | .array (v :: rest) =>
    '[' :: (newLine (depth + 1) ++ prettyChars (depth + 1) v
      ++ prettyItems (depth + 1) rest ++ newLine depth ++ [']'])
  | .object [] => ['{', '}']
  | .object ((key, v) :: rest) =>
    '{' :: (newLine (depth + 1) ++ stringChars key ++ ':' :: ' ' :: prettyChars (depth + 1) v
      ++ prettyEntries (depth + 1) rest ++ newLine depth ++ ['}'])
  | .null => chars .null
  | .bool b => chars (.bool b)
  | .integer n => chars (.integer n)
  | .float x => chars (.float x)
  | .string text => chars (.string text)

/-- Further items of an array, each on its own line after a comma. -/
def prettyItems (depth : Nat) : List Json → List Char
  | [] => []
  | v :: rest => ',' :: (newLine depth ++ prettyChars depth v ++ prettyItems depth rest)

/-- Further entries of an object, each on its own line after a comma. -/
def prettyEntries (depth : Nat) : List (String × Json) → List Char
  | [] => []
  | (key, v) :: rest =>
    ',' :: (newLine depth ++ stringChars key ++ ':' :: ' ' :: prettyChars depth v
      ++ prettyEntries depth rest)

end

/-- The indented text. -/
def prettyText (v : Json) : String := String.ofList (prettyChars 0 v)

end QuerySql.Json
