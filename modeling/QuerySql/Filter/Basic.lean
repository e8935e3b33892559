/-
  Filters: conditions on the columns of a table.

  A `Comparator` has one or two keys (`Comparator.keyTable`), and
  `Comparator.ofKey?` finds the comparator of a key.  Keys are compared
  exactly.  An object one of whose keys is a comparator key is a **comparator
  object**: `Comparator.tests?` reads its entries as tests of one column, and
  fails if another of its keys is not a comparator key.

  A `Filter` is a list of predicates that must all hold.  Groups have filters
  as members: all of them must hold for `Predicate.all`, one of them for
  `Predicate.any`.  A filter is built up by `equals`, `compares`, `isIn`,
  `like`, `any` and `all`, each of which puts one predicate behind those that
  are there.
-/
import QuerySql.Outcome

namespace QuerySql

/-! ## Comparators -/

/-- Tests of one column against a value. -/
inductive Comparator where
  | lessThan
  | lessThanOrEqual
  | greaterThan
  | greaterThanOrEqual
  | not
  | like
  | contains
  | startsWith
  | endsWith
deriving DecidableEq, Repr

namespace Comparator

/-- The comparator keys with what they stand for. -/
def keyTable : List (String × Comparator) :=
  [("<", lessThan), ("lessThan", lessThan),
    ("<=", lessThanOrEqual), ("lessThanOrEqual", lessThanOrEqual),
    (">", greaterThan), ("greaterThan", greaterThan),
    (">=", greaterThanOrEqual), ("greaterThanOrEqual", greaterThanOrEqual),
    ("!", not), ("not", not),
    ("like", like), ("contains", contains), ("startsWith", startsWith), ("endsWith", endsWith)]

/-- The comparator of a key. -/
def ofKey? (key : String) : Option Comparator := Entries.get? key keyTable

/-- The key is one of the comparator keys. -/
def isKey (key : String) : Bool := (ofKey? key).isSome

/-- The comparator of a key, or the error that names the key. -/
def ofKey (key : String) : Except Error Comparator :=
  match ofKey? key with
  | some c => .ok c
  | none => .error (.unknownComparator key)

/-! ### Comparator objects -/

/-- The entries of a comparator object as tests, in order. -/
def testsOfEntries : List (String × Value) → Except Error (List (Comparator × Value))
  | [] => .ok []
  | (key, v) :: rest => do
    let c ← ofKey key
    return (c, v) :: (← testsOfEntries rest)

/-- The tests of a comparator object; `none` if the value is not one. -/
def tests? (v : Value) : Except Error (Option (List (Comparator × Value))) :=
  match v with
  | .object entries =>
    if entries.any fun entry => isKey entry.1 then (testsOfEntries entries).map some
    else .ok none
  | _ => .ok none

end Comparator

/-! ## Predicates -/

/-- A predicate on the columns of a table. -/
inductive Predicate where
  /-- the column equals the value, or is null if the value is -/
  | equals (column : String) (value : Value)
  /-- the column passes all the tests -/
  | compares (column : String) (tests : List (Comparator × Value))
  /-- the column equals one of the values -/
  | isIn (column : String) (values : List Value)
  /-- all of the filters hold -/
  | all (members : List (List Predicate))
  /-- one of the filters holds -/
  | any (members : List (List Predicate))
  /-- each column matches its pattern -/
  | like (patterns : List (String × Value))
deriving Inhabited

/-- Predicates that must all hold. -/
abbrev Filter := List Predicate

namespace Filter

/-- Also requires that the column equals the value. -/
def equals (column : String) (value : Value) (f : Filter) : Filter :=
  f ++ [.equals column value]

/-- Also requires that the column passes a test. -/
def compares (column : String) (c : Comparator) (value : Value) (f : Filter) : Filter :=
  f ++ [.compares column [(c, value)]]

/-- Also requires that the column equals one of the values. -/
def isIn (column : String) (values : List Value) (f : Filter) : Filter :=
  f ++ [.isIn column values]

/-- Also requires that the column matches the pattern. -/
def like (column : String) (pattern : Value) (f : Filter) : Filter :=
  f ++ [.like [(column, pattern)]]

/-- Also requires that one of the filters holds. -/
def any (members : List Filter) (f : Filter) : Filter := f ++ [.any members]

/-- Also requires that all of the filters hold. -/
def all (members : List Filter) (f : Filter) : Filter := f ++ [.all members]

end Filter

end QuerySql
