/-
  JSON text as it is written, and the values read from it.

  A `Source` is the tree of a JSON text before its numerals and repeated keys
  are looked at: numerals stay numerals, and an object keeps every entry.
  It is read in two passes, each of which descends on its input:

  * `tokens?` cuts the text into brackets, commas, colons, strings and words.
    A **word** is a run of characters that are none of these and not blank;
    it must be `null`, `true`, `false` or a numeral;
  * `Source.step` consumes one token.  Its state says what may come next and
    holds the frames of the arrays and objects that are still open.

  `Source.ofText?` joins the two.  There is no limit to the nesting here.

  `Json.ofSource?` gives the value of a JSON text as written.  It fails where
  a text has a tree but no value: a number is too large, a string names a
  surrogate alone, or arrays and objects are nested more than `maxDepth`
  levels deep.  A key that is repeated keeps its first position and gets its
  last value.  `Json.ofText?` reads a value from text.
-/
import QuerySql.Json.Basic
import QuerySql.Text.Basic

namespace QuerySql.Json

/-! ## Strings -/

/-- A code unit that only a pair of which stands for a character. -/
def isSurrogate (n : Nat) : Bool := 0xD800 ≤ n && n < 0xE000

/-- The first of a pair of surrogates. -/
def isLeadingSurrogate (n : Nat) : Bool := 0xD800 ≤ n && n < 0xDC00

/-- The second of a pair of surrogates. -/
def isTrailingSurrogate (n : Nat) : Bool := 0xDC00 ≤ n && n < 0xE000

/-- The value of a hexadecimal digit in either case. -/
def hexValue? (c : Char) : Option Nat :=
  if '0' ≤ c ∧ c ≤ '9' then some (c.toNat - '0'.toNat)
  else if 'a' ≤ c ∧ c ≤ 'f' then some (c.toNat - 'a'.toNat + 10)
  else if 'A' ≤ c ∧ c ≤ 'F' then some (c.toNat - 'A'.toNat + 10)
  else none

/-- The code unit written with four hexadecimal digits. -/
def hexUnit? (a b c d : Char) : Option Nat := do
  return (((← hexValue? a) * 16 + (← hexValue? b)) * 16 + (← hexValue? c)) * 16 + (← hexValue? d)

/-- The character that a backslash with `c` stands for. -/
def escape? (c : Char) : Option Char :=
  match c with
  | '"' => some '"'
  | '\\' => some '\\'
  | '/' => some '/'
  | 'b' => some '\x08'
  | 'f' => some '\x0c'
  | 'n' => some '\n'
  | 'r' => some '\r'
  | 't' => some '\t'
  | _ => none

/-- The code points written between the quotes of a string, surrogates
    included; `none` if the escapes are malformed or a character below U+0020
    stands there. -/
def points? : List Char → Option (List Nat)
  | [] => some []
  | '\\' :: 'u' :: a :: b :: c :: d :: rest => do
    let n ← hexUnit? a b c d
    return n :: (← points? rest)
  | '\\' :: e :: rest => do
    let c ← escape? e
    return c.toNat :: (← points? rest)
  | c :: rest => do
    if c.toNat < 0x20 ∨ c = '\\' then none
    return c.toNat :: (← points? rest)

/-- The characters that code points stand for, each pair of surrogates one;
    `none` if a surrogate stands alone. -/
def ofPoints? : List Nat → Option (List Char)
  | [] => some []
  | m :: n :: rest =>
    if isLeadingSurrogate m && isTrailingSurrogate n then do
      return Char.ofNat (0x10000 + (m - 0xD800) * 0x400 + (n - 0xDC00)) :: (← ofPoints? rest)
    else if isSurrogate m then none
    else do return Char.ofNat m :: (← ofPoints? (n :: rest))
  | [m] => if isSurrogate m then none else some [Char.ofNat m]

/-! ## Tokens -/

/-- A token of JSON text. -/
inductive Token where
  | openArray
  | closeArray
  | openObject
  | closeObject
  | comma
  | colon
  | null
  | bool (b : Bool)
  | number (n : Numeral)
  /-- a string; `none` if it names a surrogate alone, which no text can hold -/
  | string (text : Option String)
deriving DecidableEq, Repr

/-- The token of a word. -/
def Token.ofWord? (word : List Char) : Option Token :=
  if word = ['n', 'u', 'l', 'l'] then some .null
  else if word = ['t', 'r', 'u', 'e'] then some (.bool true)
  else if word = ['f', 'a', 'l', 's', 'e'] then some (.bool false)
  else (Numeral.ofChars? word).map .number

/-- The token of the characters between two quotes. -/
def Token.ofString? (body : List Char) : Option Token :=
  (points? body).map fun points => .string ((ofPoints? points).map String.ofList)

/-- The token that one character is by itself. -/
def Token.ofMark? (c : Char) : Option Token :=
  match c with
  | '[' => some .openArray
  | ']' => some .closeArray
  | '{' => some .openObject
  | '}' => some .closeObject
  | ',' => some .comma
  | ':' => some .colon
  | _ => none

/-- Where the reader of tokens is in the text.  The characters of a token that
    is being read are kept in reverse. -/
inductive Place where
  | between
  | word (before : List Char)
  | string (before : List Char)
  /-- in a string, after a backslash -/
  | escape (before : List Char)
deriving DecidableEq, Repr

/-- The tokens of the text that follows a place. -/
def tokensFrom? : Place → List Char → Option (List Token)
  | .between, [] => some []
  | .between, c :: cs =>
    if Text.isLineBlank c then tokensFrom? .between cs
    else if c = '"' then tokensFrom? (.string []) cs
    else match Token.ofMark? c with
      | some mark => do return mark :: (← tokensFrom? .between cs)
      | none => tokensFrom? (.word [c]) cs
  | .word before, [] => do return [← Token.ofWord? before.reverse]
  | .word before, c :: cs =>
    if Text.isLineBlank c then do
      return (← Token.ofWord? before.reverse) :: (← tokensFrom? .between cs)
    else if c = '"' then do
      return (← Token.ofWord? before.reverse) :: (← tokensFrom? (.string []) cs)
    else match Token.ofMark? c with
      | some mark => do
        return (← Token.ofWord? before.reverse) :: mark :: (← tokensFrom? .between cs)
      | none => tokensFrom? (.word (c :: before)) cs
  | .string before, c :: cs =>
    if c = '"' then do
      return (← Token.ofString? before.reverse) :: (← tokensFrom? .between cs)
    else if c = '\\' then tokensFrom? (.escape before) cs
    else tokensFrom? (.string (c :: before)) cs
  | .escape before, c :: cs => tokensFrom? (.string (c :: '\\' :: before)) cs
  | .string _, [] => none
  | .escape _, [] => none

/-- The tokens of a text. -/
def tokens? (cs : List Char) : Option (List Token) := tokensFrom? .between cs

/-! ## Trees -/

/-- A JSON text as a tree.  A string or key is `none` if it names a surrogate
    alone. -/
inductive Source where
  | null
  | bool (b : Bool)
  | number (n : Numeral)
  | string (text : Option String)
  | array (items : List Source)
  | object (entries : List (Option String × Source))
deriving Inhabited

namespace Source

/-- An array or object that is still open, with what it holds so far in
    reverse.  The value of the last key of an object is still to come. -/
inductive Frame where
  | array (before : List Source)
  | object (before : List (Option String × Source)) (key : Option String)

/-- What may come next. -/
inductive State where
  /-- a value -/
  | value (frames : List Frame)
  /-- the first item of an array, or its end -/
  | firstItem (frames : List Frame)
  /-- the first key of an object, or its end -/
  | firstKey (frames : List Frame)
  /-- a key -/
  | key (before : List (Option String × Source)) (frames : List Frame)
  /-- the colon after a key -/
  | colon (before : List (Option String × Source)) (key : Option String) (frames : List Frame)
  /-- after an item: a comma or the end of the array -/
  | moreItems (before : List Source) (frames : List Frame)
  /-- after an entry: a comma or the end of the object -/
  | moreEntries (before : List (Option String × Source)) (frames : List Frame)
  /-- nothing: the value is complete -/
  | done (v : Source)

/-- The state after a complete value. -/
def complete (v : Source) : List Frame → State
  | [] => .done v
  | .array before :: frames => .moreItems (v :: before) frames
  | .object before key :: frames => .moreEntries ((key, v) :: before) frames

/-- The state after the first token of a value. -/
def begin (frames : List Frame) : Token → Option State
  | .null => some (complete .null frames)
  | .bool b => some (complete (.bool b) frames)
  | .number n => some (complete (.number n) frames)
  | .string text => some (complete (.string text) frames)
  | .openArray => some (.firstItem frames)
  | .openObject => some (.firstKey frames)
  | .closeArray | .closeObject | .comma | .colon => none

/-- The state after one more token. -/
def step : State → Token → Option State
  | .value frames, token => begin frames token
  | .firstItem frames, .closeArray => some (complete (.array []) frames)
  | .firstItem frames, token => begin (.array [] :: frames) token
  | .firstKey frames, .closeObject => some (complete (.object []) frames)
  | .firstKey frames, .string key => some (.colon [] key frames)
  | .key before frames, .string key => some (.colon before key frames)
  | .colon before key frames, .colon => some (.value (.object before key :: frames))
  | .moreItems before frames, .comma => some (.value (.array before :: frames))
  | .moreItems before frames, .closeArray => some (complete (.array before.reverse) frames)
  | .moreEntries before frames, .comma => some (.key before frames)
  | .moreEntries before frames, .closeObject => some (complete (.object before.reverse) frames)
  | _, _ => none

/-- The tree of a list of tokens. -/
def ofTokens? (tokens : List Token) : Option Source :=
  match tokens.foldlM step (.value []) with
  | some (.done v) => some v
  | _ => none

/-- The tree of a JSON text. -/
def ofText? (text : String) : Option Source := (tokens? text.toList).bind ofTokens?

end Source

/-! ## Values -/

/-- The number of levels that arrays and objects may be nested. -/
def maxDepth : Nat := 127

mutual

/-- The value of a tree that has at most `depth` levels of nesting. -/
def ofSourceWithin? (depth : Nat) : Source → Option Json
  | .null => some .null
  | .bool b => some (.bool b)
  | .number n => n.value?
  | .string text => text.map .string
  | .array items =>
    match depth with
    | 0 => none
    | depth + 1 => (itemsWithin? depth items).map .array
  | .object entries =>
    match depth with
    | 0 => none
    | depth + 1 => (entriesWithin? depth entries).map fun es => .object (Entries.distinct es)

/-- The values of the items of an array. -/
def itemsWithin? (depth : Nat) : List Source → Option (List Json)
  | [] => some []
  | v :: rest => do return (← ofSourceWithin? depth v) :: (← itemsWithin? depth rest)

/-- The entries of an object, as they are written. -/
def entriesWithin? (depth : Nat) : List (Option String × Source) → Option (List (String × Json))
  | [] => some []
  | (key, v) :: rest => do
    return (← key, ← ofSourceWithin? depth v) :: (← entriesWithin? depth rest)

end

/-- The value of a JSON text as written. -/
def ofSource? (source : Source) : Option Json := ofSourceWithin? maxDepth source

/-- The value that a JSON text denotes. -/
def ofText? (text : String) : Option Json := (Source.ofText? text).bind ofSource?

end QuerySql.Json
