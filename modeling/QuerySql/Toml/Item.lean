/-
  The tables of a TOML document.

  A document is a table of items.  Of a scalar only a string keeps its content.
  Tables come about in four ways (`Origin`), and these decide which later lines
  may still add to them:

  * a **route** leads from table to table by the names of a header or of a
    dotted key.  `Step.mayEnter` says whether a table lets a route through: a
    header passes through any table but an inline one.  A dotted key passes
    through tables that no header names, and ends in one that dotted keys made;
  * in a list of tables every route leads to the last one, where a dotted key
    cannot end;
  * `alter` follows a route, making the tables that are missing, and replaces
    the item at its end.  It fails if the route or the replacement does.
-/
import QuerySql.Entries

namespace QuerySql.Toml

/-- How a table came about. -/
inductive Origin where
  /-- named by a header -/
  | header
  /-- passed through by a header -/
  | passed
  /-- passed through by a dotted key -/
  | dotted
  /-- written as a value -/
  | inline
deriving DecidableEq, Repr

/-- An item of a document. -/
inductive Item where
  | string (text : String)
  /-- a number, a truth value, a date or a time -/
  | scalar
  | array (items : List Item)
  | table (origin : Origin) (entries : List (String × Item))
  /-- tables under headers of one name, the last one apart -/
  | tables (earlier : List (List (String × Item))) (last : List (String × Item))
deriving Inhabited

/-- The entries of a table. -/
abbrev Table := List (String × Item)

/-- A step of a route: a name in a header, or a part of a key. -/
inductive Step where
  | header (name : String)
  | key (name : String)
deriving DecidableEq, Repr

namespace Step

/-- The name of a step. -/
def name : Step → String
  | header name | key name => name

/-- How a table comes about that is missing where the step leads. -/
def origin : Step → Origin
  | header _ => .passed
  | key _ => .dotted

/-- The step may lead into a table; `isLast` says that the route ends with the
    next step. -/
def mayEnter (isLast : Bool) : Step → Origin → Bool
  | _, .inline => false
  | header _, _ => true
  | key _, .dotted => true
  | key _, .passed => !isLast
  | key _, .header => false

/-- The step may lead into a list of tables. -/
def mayEnterTables (isLast : Bool) : Step → Bool
  | header _ => true
  | key _ => !isLast

end Step

/-- Replaces the item at the end of a route. -/
def alter (replace : Option Item → Option Item) : List Step → Table → Option Table
  | [], table => some table
  | [step], table => do
    return Entries.put step.name (← replace (Entries.get? step.name table)) table
  | step :: next :: route, table =>
    match Entries.get? step.name table with
    | none => do
      let inner ← alter replace (next :: route) []
      return Entries.put step.name (.table step.origin inner) table
    | some (.table origin inner) =>
      if step.mayEnter route.isEmpty origin then do
        let inner ← alter replace (next :: route) inner
        return Entries.put step.name (.table origin inner) table
      else none
    | some (.tables earlier last) =>
      if step.mayEnterTables route.isEmpty then do
        let last ← alter replace (next :: route) last
        return Entries.put step.name (.tables earlier last) table
      else none
    | some _ => none

/-- A new item; there must be none yet. -/
def insert (item : Item) : Option Item → Option Item
  | none => some item
  | some _ => none

/-- The table that a header names: a new one, or one that headers only passed
    through so far. -/
def openTable : Option Item → Option Item
  | none => some (.table .header [])
  | some (.table .passed entries) => some (.table .header entries)
  | some _ => none

/-- One more table in the list that a header names. -/
def openTables : Option Item → Option Item
  | none => some (.tables [] [])
  | some (.tables earlier last) => some (.tables (earlier ++ [last]) [])
  | some _ => none

end QuerySql.Toml
