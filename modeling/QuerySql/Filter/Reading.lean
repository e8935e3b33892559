/-
  Filters read from values.

  A filter is given by an object, and each of its entries is a predicate.  The
  entry is looked at in this order:

  1. a comparator object stands for its tests of the column;
  2. under the key `or` or `and`, in any case, stands a group: a list of
     filters, or an object whose values are filters and whose keys mean nothing;
  3. a list stands for its members as the possible values of the column;
  4. under the key `like`, in any case, stands an object of columns and patterns;
  5. the key `not`, in any case, is refused;
  6. any other value is what the column must be equal to.

  The first entry that cannot be read makes the reading fail.
-/
import QuerySql.Filter.Basic
import QuerySql.Text.Basic

namespace QuerySql

/-- What the key of an entry says about it. -/
inductive Keyword where
  | or | and | like | not
deriving DecidableEq, Repr

/-- The keyword that a key is, in any case of its letters. -/
def Keyword.ofKey? (key : String) : Option Keyword :=
  let lowered := Text.lowerCase key
  if lowered = "or" then some .or
  else if lowered = "and" then some .and
  else if lowered = "like" then some .like
  else if lowered = "not" then some .not
  else none

/-- The kind of group whose members stand under a key. -/
def Predicate.group? (key : String) : Option (List Filter → Predicate) :=
  match Keyword.ofKey? key with
  | some .or => some .any
  | some .and => some .all
  | _ => none

/-- Refuses a group without members. -/
def Filter.nonempty (key : String) (members : List Filter) : Except Error (List Filter) :=
  if members.isEmpty then .error (.groupWithoutMembers key) else .ok members

/-- The predicate of an object that is neither a comparator object nor a group. -/
def Predicate.ofObject (key : String) (entries : List (String × Value)) :
    Except Error Predicate :=
  match Keyword.ofKey? key with
  | some .like => .ok (.like entries)
  | some .not => .error .negatedGroup
  | _ => .ok (.equals key (.object entries))

/-- The predicate of a value that is neither a list nor an object. -/
def Predicate.ofScalar (key : String) (v : Value) : Except Error Predicate :=
  match Keyword.ofKey? key with
  | some .or | some .and => .error (.notAGroup key v.kind)
  | some .like => .error .likeNotAnObject
  | some .not => .error .negatedGroup
  | none => .ok (.equals key v)

mutual

/-- The predicate of an entry. -/
def Predicate.ofEntry (key : String) : Value → Except Error Predicate
  | .array items =>
    match Predicate.group? key with
    | some group => do return group (← Filter.nonempty key (← Filter.ofValues items))
    | none => .ok (.isIn key items)
  | .object entries => do
    match ← Comparator.tests? (.object entries) with
    | some tests => return .compares key tests
    | none =>
      match Predicate.group? key with
      | some group => return group (← Filter.nonempty key (← Filter.ofMembers entries))
      | none => Predicate.ofObject key entries
  | v => Predicate.ofScalar key v

/-- The filter that a value stands for. -/
def Filter.ofValue : Value → Except Error Filter
  | .object entries => Filter.ofEntries entries
  | v => .error (.notAnObject .filter v.kind)

/-- The predicates of the entries of an object. -/
def Filter.ofEntries : List (String × Value) → Except Error Filter
  | [] => .ok []
  | (key, v) :: rest => do return (← Predicate.ofEntry key v) :: (← Filter.ofEntries rest)

/-- The filters of a list of values. -/
def Filter.ofValues : List Value → Except Error (List Filter)
  | [] => .ok []
  | v :: rest => do return (← Filter.ofValue v) :: (← Filter.ofValues rest)

/-- The filters of the values of an object. -/
def Filter.ofMembers : List (String × Value) → Except Error (List Filter)
  | [] => .ok []
  | (_, v) :: rest => do return (← Filter.ofValue v) :: (← Filter.ofMembers rest)

end

end QuerySql
