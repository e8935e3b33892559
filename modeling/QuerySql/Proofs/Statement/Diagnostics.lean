/-
  What statements report.

  Each statement has a draft (`Criteria.selectDraft`, `Criteria.deleteDraft`,
  `Row.updateDraft`, `Row.insertDraft`), and compiling it writes the draft: what is
  recorded are the values that cannot be encoded, one after the other in the order
  of the text, up to the point where compiling fails
  (`Criteria.diagnostics_exact`).

  In the draft of an UPDATE the assigned values come before the restriction.  Its
  text is the only one that is changed afterwards: ` IS NULL` is replaced in the
  assignments.
-/
import QuerySql.Proofs.Condition.Draft
import QuerySql.Proofs.Statement.Assignment
import QuerySql.Proofs.Statement.Change

namespace QuerySql

namespace Compile

variable {x y : Compile String} {d e : Draft}

theorem Writes.append (hx : x.Writes d) (hy : y.Writes e) :
    Writes (do return (← x) ++ (← y)) (d ++ e) := by
  rw [Writes, Draft.text_append]
  exact Follows.bind hx (Follows.map hy (d.text ++ ·))

theorem Writes.words_cons (hx : x.Writes d) (before : String) :
    Writes (do return before ++ (← x)) (.words before :: d) := by
  rw [Writes, Draft.text_cons]
  exact (Follows.map hx (before ++ ·)).words_cons before

end Compile

/-! ## Restrictions -/

namespace Criteria

/-- The draft of the filter, behind WHERE. -/
def filterDraft (c : Criteria) : Draft :=
  match c.filter with
  | none | some [] => []
  | some f => .words " WHERE " :: f.render .draft

/-- The draft of the alternatives, behind AND. -/
def alternativesDraft (c : Criteria) : Draft :=
  match c.alternatives with
  | [] => []
  | gs => .words " AND " :: (Predicate.any gs).render .draft

/-- The draft of what restricts a statement. -/
def restrictionDraft (c : Criteria) : Draft := c.filterDraft ++ c.alternativesDraft

theorem filterText_writes (c : Criteria) : c.filterText.Writes c.filterDraft := by
  unfold filterText filterDraft
  match c.filter with
  | none | some [] => exact Compile.follows_pure ""
  | some (p :: f) => exact (Filter.condition_writes (p :: f)).words_cons " WHERE "

theorem alternativesText_writes (c : Criteria) : c.alternativesText.Writes c.alternativesDraft := by
  unfold alternativesText alternativesDraft
  match c.alternatives with
  | [] => exact Compile.follows_pure ""
  | g :: gs => exact (Predicate.any (g :: gs)).condition_writes.words_cons " AND "

theorem restriction_writes (c : Criteria) : c.restriction.Writes c.restrictionDraft :=
  c.filterText_writes.append c.alternativesText_writes

/-! ## SELECT and DELETE -/

/-- The draft of a DELETE. -/
def deleteDraft (table : String) (c : Criteria) : Draft :=
  .words ("DELETE FROM " ++ Text.bracketed table) :: c.restrictionDraft

/-- The draft of what follows the restriction of a SELECT. -/
def tailDraft (settings : Settings) (c : Criteria) : Draft :=
  match c.orderText settings with
  | .ok order => [.words (c.groupText ++ order ++ c.pageText)]
  | .error e => [.failure e]

/-- The draft of a SELECT. -/
def selectDraft (settings : Settings) (table : String) (c : Criteria) : Draft :=
  .words ("SELECT " ++ c.topText ++ c.columnList ++ " FROM " ++ Text.bracketed table) ::
    (c.restrictionDraft ++ c.tailDraft settings)

theorem deleteText_writes (table : String) (c : Criteria) :
    (c.deleteText table).Writes (c.deleteDraft table) :=
  c.restriction_writes.words_cons ("DELETE FROM " ++ Text.bracketed table)

theorem selectText_writes (settings : Settings) (table : String) (c : Criteria) :
    (c.selectText settings table).Writes (c.selectDraft settings table) := by
  have horder := Compile.ends_ofExcept (c.orderText settings)
  have htail : Compile.Follows
      (do
        let order ← (c.orderText settings : Except Error _)
        return "SELECT " ++ c.topText ++ c.columnList ++ " FROM " ++ Text.bracketed table
          ++ c.restrictionDraft.text ++ c.groupText ++ order ++ c.pageText)
      (c.tailDraft settings) (c.selectDraft settings table).text := by
    unfold selectDraft tailDraft
    rw [Draft.text_cons, Draft.text_append]
    cases h : c.orderText settings with
    | error e =>
      rw [h] at horder
      exact horder.bind_error _
    | ok order =>
      rw [h] at horder
      have htext := (Draft.completes_words (c.groupText ++ order ++ c.pageText)).text_eq
      rw [htext]
      simp only [Piece.text, ← String.append_assoc]
      exact horder.map _
  exact (c.restriction_writes.bind htail).words_cons _

end Criteria

/-! ## INSERT and UPDATE -/

namespace Row

/-- The draft of the list of literals of an INSERT. -/
def literalsDraft (row : Row) : Draft := .joined ", " (row.map fun e => [.value e.2 id])

/-- What stands before the columns of an INSERT. -/
def insertStart (settings : Settings) (table schema : String) : String :=
  "DECLARE " ++ settings.captureTable ++ " AS TABLE (" ++ settings.primaryKey ++ " "
    ++ settings.captureType ++ "); INSERT INTO " ++ Text.bracketed schema ++ "."
    ++ Text.bracketed table

/-- Where an INSERT puts the primary key. -/
def insertOutput (settings : Settings) : String :=
  "OUTPUT INSERTED." ++ Text.bracketed settings.primaryKey ++ " INTO " ++ settings.captureTable

/-- What stands behind the values of an INSERT. -/
def insertStop (settings : Settings) : String :=
  "; SELECT " ++ settings.primaryKey ++ " FROM " ++ settings.captureTable

/-- The draft of an INSERT; one without values has no lists. -/
def insertDraft (settings : Settings) (table schema : String) (row : Row) : Draft :=
  if row.isEmpty then
    [.words (insertStart settings table schema ++ " " ++ insertOutput settings ++ " DEFAULT VALUES"
      ++ insertStop settings)]
  else
    .words (insertStart settings table schema ++ " (" ++ columnList row ++ ") "
      ++ insertOutput settings ++ " VALUES (") ::
      (literalsDraft row ++ [.words (")" ++ insertStop settings)])

theorem insertText_nil (settings : Settings) (table schema : String) :
    insertText settings table schema [] = pure (insertStart settings table schema ++ " "
      ++ insertOutput settings ++ " DEFAULT VALUES" ++ insertStop settings) := by
  unfold insertText insertStart insertOutput insertStop
  rw [if_pos List.isEmpty_nil, pure_bind]
  refine congrArg pure ?_
  simp only [String.append_assoc]

/-- An INSERT of values is the list of its literals between words. -/
theorem insertText_of_ne_nil (settings : Settings) (table schema : String) {row : Row}
    (h : row ≠ []) : insertText settings table schema row = do
      return insertStart settings table schema ++ " (" ++ columnList row ++ ") "
        ++ insertOutput settings ++ " VALUES (" ++ (← literalList row) ++ (")" ++ insertStop settings) := by
  cases row with
  | nil => exact absurd rfl h
  | cons e row =>
    unfold insertText insertStart insertOutput insertStop
    rw [if_neg (by simp)]
    refine congrArg (literalList (e :: row) >>= ·) (funext fun literals => ?_)
    rw [pure_bind]
    refine congrArg pure ?_
    simp only [String.append_assoc]

theorem literalsDraft_completes (row : Row) : (literalsDraft row).Completes
    (", ".intercalate (row.map fun e => e.2.sqlLiteral.text)) (row.flatMap fun e => e.2.reports) :=
  Draft.completes_joined ", " fun e _ => Draft.completes_value e.2 id

/-- An INSERT writes its draft, and never fails. -/
theorem insertText_ends (settings : Settings) (table schema : String) (row : Row) :
    (insertDraft settings table schema row).error? = none ∧
    Report.Ends (insertText settings table schema row) (insertDraft settings table schema row).text
      (insertDraft settings table schema row).diagnostics := by
  by_cases hrow : row = []
  · subst hrow
    have hdraft := Draft.completes_words (insertStart settings table schema ++ " "
      ++ insertOutput settings ++ " DEFAULT VALUES" ++ insertStop settings)
    refine ⟨hdraft.error?_eq, ?_⟩
    rw [insertText_nil, insertDraft, if_pos List.isEmpty_nil, hdraft.text_eq, hdraft.diagnostics_eq]
    exact Report.ends_pure _
  · have hdraft := (literalsDraft_completes row).between (insertStart settings table schema ++ " ("
      ++ columnList row ++ ") " ++ insertOutput settings ++ " VALUES (")
      (")" ++ insertStop settings)
    have hnonempty : ¬ row.isEmpty := by simpa using hrow
    rw [insertText_of_ne_nil settings table schema hrow, insertDraft, if_neg hnonempty,
      hdraft.text_eq, hdraft.diagnostics_eq]
    exact ⟨hdraft.error?_eq, (literalList_ends row).map fun ls =>
      insertStart settings table schema ++ " (" ++ columnList row ++ ") " ++ insertOutput settings
        ++ " VALUES (" ++ ls ++ (")" ++ insertStop settings)⟩

/-- The draft of an assignment: the tests of a comparator object, or else an equality. -/
def entryDraft (e : String × Value) : Draft :=
  match Comparator.tests? e.2 with
  | .error err => [.failure err]
  | .ok (some tests) => (Predicate.compares e.1 tests).render .draft
  | .ok none => (Leaf.equals e.1 e.2).draft

/-- The draft of the assignments of an UPDATE, before ` IS NULL` is replaced in them. -/
def assignmentsDraft (row : Row) : Draft := .joined ", " (row.map entryDraft)

/-- The draft of the values and the restriction of an UPDATE. -/
def updateDraft (row : Row) (c : Criteria) : Draft :=
  if row.isEmpty then [.failure .updateWithoutValues]
  else assignmentsDraft row ++ c.restrictionDraft

/-- The text of an UPDATE: what its draft writes, with ` IS NULL` replaced in the assignments. -/
def updatedText (table : String) (row : Row) (c : Criteria) : String :=
  "UPDATE " ++ Text.bracketed table ++ " SET "
    ++ Text.replaceAll nullTest nullAssignment (assignmentsDraft row).text ++ c.restrictionDraft.text

theorem assignment_writes (e : String × Value) : (assignment e.1 e.2).Writes (entryDraft e) := by
  have hread := Compile.ends_ofExcept (Comparator.tests? e.2)
  unfold assignment entryDraft
  cases htests : Comparator.tests? e.2 with
  | error err =>
    rw [htests] at hread
    exact hread.bind_error _
  | ok tests? =>
    rw [htests] at hread
    cases tests? with
    | none =>
      have h : Compile.Follows _ [] _ := hread
      exact h.bind (Leaf.equals e.1 e.2).condition_writes
    | some tests =>
      have h : Compile.Follows _ [] _ := hread
      exact h.bind (Predicate.compares e.1 tests).condition_writes

theorem assignments_follow (row : Row) : (assignments row).Follows (assignmentsDraft row)
    (Text.replaceAll nullTest nullAssignment (assignmentsDraft row).text) :=
  (Compile.writes_joined ", " fun e _ => assignment_writes e).map
    (Text.replaceAll nullTest nullAssignment)

theorem updateText_follows (table : String) (row : Row) (c : Criteria) :
    (updateText table row c).Follows (updateDraft row c) (updatedText table row c) := by
  cases row with
  | nil => exact Compile.follows_throw .updateWithoutValues _
  | cons e row =>
    rw [updateText_of_ne_nil table (List.cons_ne_nil e row)]
    exact (assignments_follow (e :: row)).bind (c.restriction_writes.map _)

end Row

/-! ## All statements -/

/-- What compiling a draft comes to: `text`, or the first failure, and what had been
    recorded with the diagnostics of the draft behind it. -/
def Draft.outcome (d : Draft) (text : String) (r : Recorder) : Except Error String × Recorder :=
  (d.error?.elim (.ok text) .error, ⟨r.diagnostics ++ d.diagnostics⟩)

/-- **Diagnostics are exact.**  Whatever was recorded before stays, and behind it
    comes a report for each array or object that is written although it cannot be
    encoded, in the order of the text, up to the point of failure and no further. -/
theorem Criteria.diagnostics_exact (settings : Settings) (table schema : String) (row : Row)
    (c : Criteria) (r : Recorder) :
    (c.selectText settings table).outcome r =
      (c.selectDraft settings table).outcome (c.selectDraft settings table).text r ∧
    (c.deleteText table).outcome r = (c.deleteDraft table).outcome (c.deleteDraft table).text r ∧
    (Row.updateText table row c).outcome r =
      (Row.updateDraft row c).outcome (Row.updatedText table row c) r ∧
    ((row.insertDraft settings table schema).error? = none ∧
      Report.outcome (row.insertText settings table schema) r =
        ((row.insertDraft settings table schema).text,
          ⟨r.diagnostics ++ (row.insertDraft settings table schema).diagnostics⟩)) := by
  obtain ⟨herror, hinsert⟩ := Row.insertText_ends settings table schema row
  exact ⟨(c.selectText_writes settings table).outcome_eq r, (c.deleteText_writes table).outcome_eq r,
    (Row.updateText_follows table row c).outcome_eq r, herror, hinsert r⟩

/-- An entry of a like group before the one that is refused counts, and one behind it does not. -/
example : (Criteria.deleteText "t" { filter := some [.like [("a", .array [.float .nan]),
    ("b", .regex "p"), ("c", .object [("d", .float .infinity)])]] }).outcome {} =
    (.error (.regexPattern "b" "p"), ⟨[.unencodable .array]⟩) := by rfl

end QuerySql
