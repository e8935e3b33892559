/-
  Strings, keys and blanks of TOML.

  The functions here read something at the start of the characters and return
  it with what follows, or `none` if it is not there.

  * `basicString?` and `literalString?` read what follows the opening quote of a
    string on one line, `longBasicString?` and `longLiteralString?` what follows
    the three opening quotes of one that may span lines;
  * `string?` reads any of the four from its opening quote on;
  * `key?` reads a key: parts with dots between them, each a word or a string;
  * `lineEnd?` passes over the end of a line with its comment, `skipFiller` over
    blanks, comments and line ends between the items of an array.
-/
import QuerySql.Number.Decimal

namespace QuerySql.Toml

/-! ## Blanks and lines -/

/-- A space or a tab. -/
def isBlank (c : Char) : Bool := c == ' ' || c == '\t'

/-- The text without the blanks at its start. -/
def skipBlanks (cs : List Char) : List Char := cs.dropWhile isBlank

/-- A character that may stand in a comment: a tab, or one that is no control. -/
def isCommentChar (c : Char) : Bool := c == '\t' || (0x20 ≤ c.toNat && c.toNat ≠ 0x7F)

/-- Passes over a line feed, alone or after a carriage return. -/
def newline? : List Char → Option (List Char)
  | '\n' :: rest => some rest
  | '\r' :: '\n' :: rest => some rest
  | _ => none

/-- Passes over the rest of a line: blanks, a comment, and the line feed or the
    end of the document. -/
def lineEnd? (cs : List Char) : Option (List Char) :=
  let rest := match skipBlanks cs with
    | '#' :: comment => comment.dropWhile isCommentChar
    | rest => rest
  if rest.isEmpty then some [] else newline? rest

/-- Passes over blanks, comments and line ends. -/
def skipFiller : (inComment : Bool) → List Char → List Char
  | _, [] => []
  | inComment, c :: cs =>
    if inComment && isCommentChar c then skipFiller true cs
    else if isBlank c || c == '\n' then skipFiller false cs
    else if c == '\r' && cs.head? == some '\n' then skipFiller false cs
    else if c == '#' then skipFiller true cs
    else c :: cs

/-! ## Strings -/

/-- The value of hexadecimal digits, all of `cs`. -/
def hexValue? (cs : List Char) : Option Nat :=
  cs.foldlM (fun n c =>
    if c.isDigit then some (16 * n + (c.toNat - '0'.toNat))
    else if 'a' ≤ c ∧ c ≤ 'f' then some (16 * n + (c.toNat - 'a'.toNat + 10))
    else if 'A' ≤ c ∧ c ≤ 'F' then some (16 * n + (c.toNat - 'A'.toNat + 10))
    else none) 0

/-- The character with a code point; surrogates are none. -/
def charOf? (n : Nat) : Option Char :=
  if n.isValidChar then some (Char.ofNat n) else none

/-- The character that a backslash with `c` stands for. -/
def escape? : Char → Option Char
  | 'b' => some '\x08'
  | 't' => some '\t'
  | 'n' => some '\n'
  | 'f' => some '\x0c'
  | 'r' => some '\r'
  | '"' => some '"'
  | '\\' => some '\\'
  | _ => none

/-- A character that stands for itself in a basic string. -/
def isBasicChar (c : Char) : Bool := isCommentChar c && c != '"' && c != '\\'

/-- A character that stands for itself in a literal string. -/
def isLiteralChar (c : Char) : Bool := isCommentChar c && c != '\''

/-- Puts a character before the text that was read. -/
def before (c : Char) : List Char × List Char → List Char × List Char
  | (text, rest) => (c :: text, rest)

/-- A basic string, behind its opening quote. -/
def basicString? : List Char → Option (List Char × List Char)
  | [] => none
  | '"' :: rest => some ([], rest)
  | '\\' :: 'u' :: a :: b :: c :: d :: rest => do
    let e ← charOf? (← hexValue? [a, b, c, d])
    return before e (← basicString? rest)
  | '\\' :: 'U' :: a :: b :: c :: d :: e :: f :: g :: h :: rest => do
    let e ← charOf? (← hexValue? [a, b, c, d, e, f, g, h])
    return before e (← basicString? rest)
  | '\\' :: e :: rest => do
    let e ← escape? e
    return before e (← basicString? rest)
  | c :: rest => if isBasicChar c then (basicString? rest).map (before c) else none

/-- A literal string, behind its opening quote. -/
def literalString? : List Char → Option (List Char × List Char)
  | [] => none
  | '\'' :: rest => some ([], rest)
  | c :: rest => if isLiteralChar c then (literalString? rest).map (before c) else none

/-- Where the reader of a long basic string is. -/
inductive Margin where
  | text
  /-- behind a backslash, in blanks that must end the line -/
  | lineEnd
  /-- in blanks and line ends that a backslash leaves out -/
  | indent
deriving DecidableEq, Repr

/-- A basic string over lines, behind its three opening quotes.  Up to two quotes
    may stand before the three that end it.  A backslash at the end of a line
    leaves out the blanks and line ends up to the next character. -/
def longBasicString? : Margin → List Char → Option (List Char × List Char)
  | _, [] => none
  | .lineEnd, c :: rest =>
    if isBlank c then longBasicString? .lineEnd rest
    else if c = '\n' then longBasicString? .indent rest
    else if c = '\r' ∧ rest.head? = some '\n' then longBasicString? .lineEnd rest
    else none
  | .indent, ' ' :: rest => longBasicString? .indent rest
  | .indent, '\t' :: rest => longBasicString? .indent rest
  | .indent, '\n' :: rest => longBasicString? .indent rest
  | .indent, '\r' :: '\n' :: rest => longBasicString? .indent rest
  | _, '"' :: '"' :: '"' :: '"' :: '"' :: rest => some (['"', '"'], rest)
  | _, '"' :: '"' :: '"' :: '"' :: rest => some (['"'], rest)
  | _, '"' :: '"' :: '"' :: rest => some ([], rest)
  | _, '"' :: rest => (longBasicString? .text rest).map (before '"')
  | _, '\\' :: 'u' :: a :: b :: c :: d :: rest => do
    let e ← charOf? (← hexValue? [a, b, c, d])
    return before e (← longBasicString? .text rest)
  | _, '\\' :: 'U' :: a :: b :: c :: d :: e :: f :: g :: h :: rest => do
    let e ← charOf? (← hexValue? [a, b, c, d, e, f, g, h])
    return before e (← longBasicString? .text rest)
  | _, '\\' :: e :: rest =>
    match escape? e with
    | some e => (longBasicString? .text rest).map (before e)
    | none =>
      if isBlank e then longBasicString? .lineEnd rest
      else if e = '\n' then longBasicString? .indent rest
      else if e = '\r' ∧ rest.head? = some '\n' then longBasicString? .lineEnd rest
      else none
  | _, '\n' :: rest => (longBasicString? .text rest).map (before '\n')
  | _, '\r' :: '\n' :: rest => (longBasicString? .text rest).map (before '\n')
  | _, c :: rest => if isBasicChar c then (longBasicString? .text rest).map (before c) else none

/-- A literal string over lines, behind its three opening quotes. -/
def longLiteralString? : List Char → Option (List Char × List Char)
  | [] => none
  | '\'' :: '\'' :: '\'' :: '\'' :: '\'' :: rest => some (['\'', '\''], rest)
  | '\'' :: '\'' :: '\'' :: '\'' :: rest => some (['\''], rest)
  | '\'' :: '\'' :: '\'' :: rest => some ([], rest)
  | '\'' :: rest => (longLiteralString? rest).map (before '\'')
  | '\n' :: rest => (longLiteralString? rest).map (before '\n')
  | '\r' :: '\n' :: rest => (longLiteralString? rest).map (before '\n')
  | c :: rest => if isLiteralChar c then (longLiteralString? rest).map (before c) else none

/-- Passes over a line end directly behind the opening quotes of a long string. -/
def skipFirstNewline (cs : List Char) : List Char := (newline? cs).getD cs

/-- A string of any kind, from its opening quote on. -/
def string? (cs : List Char) : Option (String × List Char) :=
  let found := match cs with
    | '"' :: '"' :: '"' :: rest => longBasicString? .text (skipFirstNewline rest)
    | '"' :: rest => basicString? rest
    | '\'' :: '\'' :: '\'' :: rest => longLiteralString? (skipFirstNewline rest)
    | '\'' :: rest => literalString? rest
    | _ => none
  found.map fun (text, rest) => (String.ofList text, rest)

/-! ## Keys -/

/-- A character of a key that is written without quotes. -/
def isBareKeyChar (c : Char) : Bool := c.isAlphanum || c == '_' || c == '-'

/-- One part of a key. -/
def keyPart? (cs : List Char) : Option (String × List Char) :=
  match cs with
  | '"' :: rest => (basicString? rest).map fun (text, rest) => (String.ofList text, rest)
  | '\'' :: rest => (literalString? rest).map fun (text, rest) => (String.ofList text, rest)
  | cs =>
    match cs.takeWhile isBareKeyChar with
    | [] => none
    | word => some (String.ofList word, cs.dropWhile isBareKeyChar)

/-- The number of parts that a key may have. -/
def maxKeyParts : Nat := 79

/-- A key of at most `parts` parts, with blanks around each. -/
def keyOf? : (parts : Nat) → List Char → Option (List String × List Char)
  | 0, _ => none
  | parts + 1, cs => do
    let (part, rest) ← keyPart? (skipBlanks cs)
    match skipBlanks rest with
    | '.' :: rest => do
      let (more, rest) ← keyOf? parts rest
      return (part :: more, rest)
    | rest => return ([part], rest)

/-- A key. -/
def key? (cs : List Char) : Option (List String × List Char) := keyOf? maxKeyParts cs

end QuerySql.Toml
