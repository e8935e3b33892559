/-
  TOML documents.

  `Document.read?` reads a document, line by line: empty lines, pairs of a key
  and a value, and the headers of tables and of lists of tables.  The whole
  document must be well formed.

  Values nest to at most `maxDepth` levels, and `value?` descends on the levels
  that are left.  The loops over items, entries and lines are bounded by the
  number of characters that are left, of which each round takes at least one.
-/
import QuerySql.Toml.Item
import QuerySql.Toml.Scalar
import QuerySql.Toml.Text

namespace QuerySql.Toml

/-! ## Values -/

/-- What reads a value at the start of the characters. -/
abbrev Reader := List Char → Option (Item × List Char)

/-- The items of an array up to its end. -/
def items? (value? : Reader) : Nat → List Char → Option (List Item × List Char)
  | 0, _ => none
  | bound + 1, cs =>
    match skipFiller false cs with
    | ']' :: rest => some ([], rest)
    | cs => do
      let (item, rest) ← value? cs
      match skipFiller false rest with
      | ',' :: rest => do
        let (items, rest) ← items? value? bound rest
        return (item :: items, rest)
      | ']' :: rest => return ([item], rest)
      | _ => none

/-- A key and its value. -/
def pair? (value? : Reader) (cs : List Char) : Option ((List String × Item) × List Char) := do
  let (key, rest) ← key? cs
  match rest with
  | '=' :: rest => do
    let (item, rest) ← value? (skipBlanks rest)
    return ((key, item), rest)
  | _ => none

/-- The pairs of an inline table up to its end; there is at least one. -/
def pairs? (value? : Reader) : Nat → Table → List Char → Option (Table × List Char)
  | 0, _, _ => none
  | bound + 1, table, cs => do
    let ((key, item), rest) ← pair? value? cs
    let table ← alter (insert item) (key.map .key) table
    match skipBlanks rest with
    | ',' :: rest => pairs? value? bound table rest
    | '}' :: rest => return (table, rest)
    | _ => none

/-- An inline table, behind its opening brace. -/
def inlineTable? (value? : Reader) (cs : List Char) : Option (Item × List Char) :=
  match skipBlanks cs with
  | '}' :: rest => some (.table .inline [], rest)
  | cs => (pairs? value? cs.length [] cs).map fun (table, rest) => (.table .inline table, rest)

/-- The number of levels that arrays and inline tables may be nested. -/
def maxDepth : Nat := 79

/-- A value with at most `depth` levels of nesting. -/
def value? (depth : Nat) (cs : List Char) : Option (Item × List Char) :=
  match cs with
  | '[' :: rest =>
    match depth with
    | 0 => none
    | depth + 1 =>
      (items? (value? depth) cs.length rest).map fun (items, rest) => (.array items, rest)
  | '{' :: rest =>
    match depth with
    | 0 => none
    | depth + 1 => inlineTable? (value? depth) rest
  | '"' :: _ | '\'' :: _ => (string? cs).map fun (text, rest) => (.string text, rest)
  | cs => (skipScalar? cs).map fun rest => (.scalar, rest)

/-! ## Lines -/

/-- The tables read so far, and the name of the one that pairs are added to. -/
structure Document where
  root : Table := []
  current : List String := []

namespace Document

/-- The document after a header. -/
def addHeader (d : Document) (name : List String) (isList : Bool) : Option Document := do
  let replace := if isList then openTables else openTable
  return ⟨← alter replace (name.map .header) d.root, name⟩

/-- The document after a pair of a key and a value. -/
def addPair (d : Document) (key : List String) (item : Item) : Option Document := do
  let route := d.current.map Step.header ++ key.map Step.key
  return { d with root := ← alter (insert item) route d.root }

/-- Reads a line that is not empty. -/
def readLine? (d : Document) (cs : List Char) : Option (Document × List Char) :=
  match cs with
  | '[' :: '[' :: rest => do
    let (name, rest) ← key? rest
    match rest with
    | ']' :: ']' :: rest => return (← d.addHeader name true, ← lineEnd? rest)
    | _ => none
  | '[' :: rest => do
    let (name, rest) ← key? rest
    match rest with
    | ']' :: rest => return (← d.addHeader name false, ← lineEnd? rest)
    | _ => none
  | cs => do
    let ((key, item), rest) ← pair? (value? maxDepth) cs
    return (← d.addPair key item, ← lineEnd? rest)

/-- Reads the lines up to the end. -/
def readLines? : Nat → Document → List Char → Option Document
  | 0, d, cs => if cs.isEmpty then some d else none
  | bound + 1, d, cs =>
    match skipBlanks cs with
    | [] => some d
    | c :: rest =>
      if c = '\n' ∨ c = '\r' ∨ c = '#' then do
        readLines? bound d (← lineEnd? (c :: rest))
      else do
        let (d, rest) ← d.readLine? (c :: rest)
        readLines? bound d rest

/-- Reads a document; a byte order mark may stand before it. -/
def read? (text : String) : Option Table :=
  let cs := match text.toList with
    | '\uFEFF' :: rest => rest
    | cs => cs
  (readLines? (cs.length + 1) {} cs).map (·.root)

end Document

end QuerySql.Toml
