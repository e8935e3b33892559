/-
  Sorting: columns with a direction.

  A `SortOrder` is either a text, which is read when a statement is compiled, or a
  list of columns.  A blank text and an empty list do not sort
  (`SortOrder.isEmpty`).  A sort text has a column and optionally a word for the
  direction (`SortOrder.ofExpression`):

  ```text
  -created_at        created_at, descending
  name               name, ascending
  name asc           name, ascending
  name desc          name, descending
  ```

  A text is laid out by line blanks: they may stand before the column, and
  between the column and the word.  The column and the word themselves end at
  any blank.  A dash before the column sorts descending whatever the word is;
  otherwise a word other than `asc`, in any case, does.  What follows the word
  is ignored.
-/
import QuerySql.Text.Basic
import QuerySql.Outcome

namespace QuerySql

/-- The direction of a sort. -/
inductive Direction where
  | ascending
  | descending
deriving DecidableEq, Repr

/-- The SQL word for a direction. -/
def Direction.sqlText : Direction → String
  | .ascending => "ASC"
  | .descending => "DESC"

/-- What the rows are sorted by. -/
inductive SortOrder where
  /-- a text such as `-age` or `name desc` -/
  | expression (text : String)
  | columns (sorted : List (String × Direction))
deriving DecidableEq, Repr

/-- Nothing to sort by. -/
def SortOrder.isEmpty : SortOrder → Bool
  | .expression text => decide (Text.AllBlank text)
  | .columns sorted => sorted.isEmpty

namespace SortOrder

/-- The text without the line blanks at its start. -/
def skipBlanks (cs : List Char) : List Char := cs.dropWhile Text.isLineBlank

/-- The characters up to the first blank, and the rest. -/
def word (cs : List Char) : List Char × List Char := cs.span fun c => !Text.isBlank c

/-- An optional dash. -/
def dash : List Char → Bool × List Char
  | '-' :: rest => (true, rest)
  | cs => (false, cs)

/-- The direction that a dash and a word, which may be empty, ask for. -/
def direction (dashed : Bool) (word : List Char) : Direction :=
  if dashed then .descending
  else if word.isEmpty then .ascending
  else if Text.lowerCase (String.ofList word) = "asc" then .ascending
  else .descending

/-- The column and the direction of a sort text. -/
def ofExpression (text : String) : Except Error (String × Direction) :=
  let (dashed, rest) := dash (skipBlanks text.toList)
  match word rest with
  | ([], _) => .error (.sortText text (String.ofList rest))
  | (column, rest) =>
    .ok (String.ofList column, direction dashed (word (skipBlanks rest)).1)

end SortOrder

end QuerySql
