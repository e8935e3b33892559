/-
  Columns and values of an INSERT.

  `Sql.Insertion.read?` reads an INSERT from its tokens: the table, the items of the
  list of columns and those of the list of values.  Read like this, the second of
  the three statements of `Row.insertText` has one column and one value for each
  entry of the row, in order (`Row.insertText_aligned`).  The column is the name of
  the entry, and the value a literal of its own (`Value.StandsAs`), whatever its
  texts hold.
-/
import QuerySql.Proofs.Number.Numeral
import QuerySql.Proofs.Sql.Items
import QuerySql.Proofs.Statement.Diagnostics

namespace QuerySql

open Sql (Token tokens? scan listed isItem Continues)
open Sql.Test (columnToken)

/-! ## Reading -/

/-- An INSERT, as it is read. -/
structure Sql.Insertion where
  schema : List Char
  table : List Char
  columns : List (List Token)
  /-- what stands between the columns and VALUES -/
  output : List Token
  values : List (List Token)

namespace Sql.Insertion

/-- What is read behind the name of the table. -/
def readLists? (schema table : List Char) (ts : List Token) : Option Insertion := do
  let (columns, behind) ← list? ts
  let output := behind.takeWhile (· ≠ .keyword "VALUES")
  let (values, rest) ← list? (behind.drop (output.length + 1))
  if rest.isEmpty then some { schema, table, columns, output, values } else none

/-- The INSERT that tokens are read as. -/
def read? : List Token → Option Insertion
  | insert :: into :: .name schema :: point :: .name table :: ts =>
    if insert = .keyword "INSERT" ∧ into = .keyword "INTO" ∧ point = .keyword "." then
      readLists? schema table ts
    else none
  | _ => none

/-- The tokens of an INSERT of values. -/
def tokens (i : Insertion) : List Token :=
  .keyword "INSERT" :: .keyword "INTO" :: .name i.schema :: .keyword "." :: .name i.table ::
    (listed i.columns ++ (i.output ++ .keyword "VALUES" :: listed i.values))

/-- The lists of an INSERT have items, and its output is without the word VALUES. -/
structure IsReadable (i : Insertion) : Prop where
  columns_ne : i.columns ≠ []
  columns : ∀ item ∈ i.columns, isItem 0 item = true
  output : .keyword "VALUES" ∉ i.output
  values_ne : i.values ≠ []
  values : ∀ item ∈ i.values, isItem 0 item = true

theorem read?_tokens {i : Insertion} (h : i.IsReadable) : read? i.tokens = some i := by
  have hcolumns := list?_listed h.columns_ne h.columns (i.output ++ .keyword "VALUES" :: listed i.values)
  have hvalues := list?_listed h.values_ne h.values []
  have houtput : (i.output ++ .keyword "VALUES" :: listed i.values).takeWhile
      (· ≠ .keyword "VALUES") = i.output := by
    rw [List.takeWhile_append_of_pos fun t ht => by
      simpa using ne_of_mem_of_not_mem ht h.output]
    simp
  have hdrop : (i.output ++ .keyword "VALUES" :: listed i.values).drop (i.output.length + 1) =
      listed i.values := by simp
  rw [List.append_nil] at hvalues
  simp only [read?, tokens, readLists?, true_and, if_pos, hcolumns, Option.bind_eq_bind,
    Option.bind_some, houtput, hdrop, hvalues, List.isEmpty_nil]

end Sql.Insertion

/-! ## Values -/

/-- What a value may stand as in a list of values: NULL, a numeral, a word for a
    float that is not finite, or a string whose text is that of the stored value. -/
def Value.StandsAs (v : Value) (t : Token) : Prop :=
  match v with
  | .null => t = .keyword "NULL"
  | .bool b => t = .keyword (if b then "1" else "0")
  | .int n => t = .keyword (Number.intText n.toInt) ∧ IsNumeral (Number.intText n.toInt)
  | .float x => t = .keyword (numberText x) ∧
    if x.isFinite then IsNumeral (numberText x) else numberText x ∈ specialTexts
  | v => ∀ r, t = .string (Report.outcome v.stored r).1.text.toList

theorem Value.standsAs_sqlLiteral (v : Value) : v.StandsAs v.sqlLiteral.token := by
  have hstored (w : Value) (r : Recorder) : Token.string w.storedForm.text.toList =
      .string (Report.outcome w.stored r).1.text.toList := by
    rw [w.stored_ends r]
  cases v with
  | null | bool => rfl
  | int n => exact ⟨rfl, isNumeral_intText n.toInt⟩
  | float x =>
    refine ⟨rfl, ?_⟩
    split
    · next hfinite => exact isNumeral_numberText hfinite
    · next hfinite => exact numberText_mem_specialTexts (by simpa using hfinite)
  | _ => exact hstored _

theorem Sql.Literal.isItem_token (l : Literal) : isItem 0 [l.token] = true := by
  cases l <;> rfl

/-! ## Alignment -/

namespace Row

open Sql (Insertion)

variable {row : Row} {table schema : String}

/-- What stands between the lists. -/
def outputTokens : List Token := [.keyword "OUTPUT", .keyword "INSERTED.", columnToken "id",
  .keyword "INTO", .keyword "@Inserted"]

/-- The INSERT of a row, as it is read. -/
def insertion (table schema : String) (row : Row) : Insertion where
  schema := Text.doubleQuotes schema.toList
  table := Text.doubleQuotes table.toList
  columns := row.map fun e => [columnToken e.1]
  output := outputTokens
  values := row.map fun e => [e.2.sqlLiteral.token]

theorem insertion_isReadable (h : row ≠ []) : (insertion table schema row).IsReadable where
  columns_ne := by simpa [insertion] using h
  columns := List.forall_mem_map.2 fun _ _ => rfl
  output := by
    have houtput : .keyword "VALUES" ∉ outputTokens := by decide
    exact houtput
  values_ne := by simpa [insertion] using h
  values := List.forall_mem_map.2 fun e _ => e.2.sqlLiteral.isItem_token

/-- What stands in front of the INSERT. -/
def captureTokens : List Token := [.keyword "DECLARE", .keyword "@Inserted", .keyword "AS",
  .keyword "TABLE", .mark '(', .keyword "id", .keyword "NVARCHAR", .mark '(', .keyword "255",
  .mark ')', .mark ')']

/-- What stands behind the INSERT. -/
def captureQueryTokens : List Token :=
  [.keyword "SELECT", .keyword "id", .keyword "FROM", .keyword "@Inserted"]

/-- A point in front of a name is a word. -/
theorem scan_point (htable : ']' ∉ table.toList) :
    scan .between ("." ++ Text.bracketed table).toList =
      ([.keyword ".", columnToken table], .between) := by
  have hpoint : ∀ cs, scan .between ('.' :: '[' :: cs) =
      (.keyword "." :: (scan .between ('[' :: cs)).1, (scan .between ('[' :: cs)).2) := fun _ => rfl
  have hname := Sql.Test.scan_bracketed htable
  rw [Text.toList_bracketed] at hname
  rw [String.toList_append, Text.toList_bracketed]
  exact (hpoint _).trans (by rw [hname])

theorem scan_insertStart (htable : ']' ∉ table.toList) (hschema : ']' ∉ schema.toList) :
    scan .between (insertStart {} table schema).toList = (captureTokens ++ [.mark ';',
      .keyword "INSERT", .keyword "INTO", columnToken schema, .keyword ".", columnToken table],
      .between) := by
  have hwords : scan .between ("DECLARE @Inserted AS TABLE (id NVARCHAR(255)); INSERT INTO ".toList) =
      (captureTokens ++ [.mark ';', .keyword "INSERT", .keyword "INTO"], .between) := by
    decide +kernel
  have htext : insertStart {} table schema =
      "DECLARE @Inserted AS TABLE (id NVARCHAR(255)); INSERT INTO " ++ (Text.bracketed schema ++
        ("." ++ Text.bracketed table)) := by
    unfold insertStart
    simp only [String.append_assoc]
    rfl
  rw [htext, String.toList_append, Sql.scan_append, hwords, String.toList_append, Sql.scan_append,
    Sql.Test.scan_bracketed hschema, scan_point htable]
  simp

theorem continues_output : Continues " OUTPUT INSERTED.[id] INTO @Inserted VALUES"
    (outputTokens ++ [.keyword "VALUES"]) :=
  ⟨by decide +kernel, by rintro c ⟨⟩; rfl⟩

theorem continues_captureQuery : Continues "; SELECT id FROM @Inserted"
    (.mark ';' :: captureQueryTokens) :=
  ⟨by decide +kernel, by rintro c ⟨⟩; rfl⟩

/-- An INSERT as texts that start with separators. -/
theorem insertText_layout (start columns literals : String) :
    start ++ " (" ++ columns ++ ") " ++ insertOutput {} ++ " VALUES (" ++ literals ++
        (")" ++ insertStop {}) =
      start ++ (" " ++ ("(" ++ columns ++ ")") ++ (" OUTPUT INSERTED.[id] INTO @Inserted VALUES" ++
        (" " ++ ("(" ++ literals ++ ")") ++ "; SELECT id FROM @Inserted"))) := by
  have hopen : " (" = " " ++ "(" := rfl
  have houtput : ") " ++ (insertOutput {} ++ " VALUES (") =
      ")" ++ (" OUTPUT INSERTED.[id] INTO @Inserted VALUES" ++ (" " ++ "(")) := by decide
  have hstop : insertStop {} = "; SELECT id FROM @Inserted" := by decide
  have hinside : ") " ++ (insertOutput {} ++ (" VALUES (" ++ (literals ++ (")" ++ insertStop {})))) =
      ")" ++ (" OUTPUT INSERTED.[id] INTO @Inserted VALUES" ++ (" " ++ ("(" ++ (literals ++ (")" ++
        "; SELECT id FROM @Inserted"))))) := by
    rw [hstop]
    simpa only [String.append_assoc] using congrArg (· ++ (literals ++ (")" ++
      "; SELECT id FROM @Inserted"))) houtput
  simp only [String.append_assoc, hinside, hopen]

theorem continues_columnList (h : ∀ e ∈ row, ']' ∉ e.1.toList) :
    Continues (" " ++ ("(" ++ columnList row ++ ")"))
      (listed (row.map fun e => [columnToken e.1])) :=
  Sql.continues_listed fun e he => Sql.Test.tokens?_bracketed (h e he)

theorem continues_literals (row : Row) :
    Continues (" " ++ ("(" ++ ", ".intercalate (row.map fun e => e.2.sqlLiteral.text) ++ ")"))
      (listed (row.map fun e => [e.2.sqlLiteral.token])) :=
  Sql.continues_listed fun e _ => e.2.sqlLiteral.tokens?_text

theorem outcome_insertText (hrow : row ≠ []) (r : Recorder) :
    (Report.outcome (row.insertText {} table schema) r).1 =
      insertStart {} table schema ++ (" " ++ ("(" ++ columnList row ++ ")") ++
        (" OUTPUT INSERTED.[id] INTO @Inserted VALUES" ++ (" " ++ ("(" ++
          ", ".intercalate (row.map fun e => e.2.sqlLiteral.text) ++ ")") ++
          "; SELECT id FROM @Inserted"))) := by
  have hends := (literalList_ends row).map fun literals =>
    insertStart {} table schema ++ " (" ++ columnList row ++ ") " ++ insertOutput {}
      ++ " VALUES (" ++ literals ++ (")" ++ insertStop {})
  rw [insertText_of_ne_nil {} table schema hrow, hends r]
  exact insertText_layout _ _ _

/-- **The tokens of the three statements.** -/
theorem tokens?_insertText (hrow : row ≠ []) (htable : ']' ∉ table.toList)
    (hschema : ']' ∉ schema.toList) (hcolumns : ∀ e ∈ row, ']' ∉ e.1.toList) (r : Recorder) :
    tokens? (Report.outcome (row.insertText {} table schema) r).1.toList =
      some (captureTokens ++ .mark ';' :: ((insertion table schema row).tokens ++
        .mark ';' :: captureQueryTokens)) := by
  have hlists := (continues_columnList hcolumns).append
    (continues_output.append ((continues_literals row).append continues_captureQuery))
  rw [outcome_insertText hrow, String.toList_append,
    Sql.tokens?_append_of_between (scan_insertStart htable hschema), hlists.tokens?_eq]
  simp [Sql.Insertion.tokens, insertion, columnToken]

theorem isInert_of_mem_tokens : ∀ t ∈ (insertion table schema row).tokens, t.IsInert := by
  have hcolumns : ∀ item ∈ (insertion table schema row).columns, ∀ t ∈ item, t.IsInert :=
    List.forall_mem_map.2 fun _ _ => List.forall_mem_singleton.2 trivial
  have hvalues : ∀ item ∈ (insertion table schema row).values, ∀ t ∈ item, t.IsInert :=
    List.forall_mem_map.2 fun e _ => List.forall_mem_singleton.2 e.2.sqlLiteral.isInert_token
  have houtput : ∀ t ∈ outputTokens, t.IsInert := by decide +kernel
  simp only [Sql.Insertion.tokens, List.forall_mem_cons, List.forall_mem_append]
  exact ⟨by decide +kernel, by decide +kernel, trivial, by decide +kernel, trivial,
    Sql.isInert_of_mem_listed hcolumns, houtput, by decide +kernel,
    Sql.isInert_of_mem_listed hvalues⟩

/-- **An INSERT keeps columns and values aligned.**  The text of an INSERT of a row
    with entries is three statements.  The second one is read as an INSERT whose
    lists have an item for each entry, in order: the name of its column, and a
    single token that its value may stand as. -/
theorem insertText_aligned (hrow : row ≠ []) (htable : ']' ∉ table.toList)
    (hschema : ']' ∉ schema.toList) (hcolumns : ∀ e ∈ row, ']' ∉ e.1.toList) (r : Recorder) :
    ∃ ts insert i, tokens? (Report.outcome (row.insertText {} table schema) r).1.toList = some ts ∧
      ts.splitOn (.mark ';') = [captureTokens, insert, captureQueryTokens] ∧
      Insertion.read? insert = some i ∧
      i.schema = Text.doubleQuotes schema.toList ∧ i.table = Text.doubleQuotes table.toList ∧
      i.columns = row.map (fun e => [columnToken e.1]) ∧
      List.Forall₂ (fun e item => ∃ t, item = [t] ∧ e.2.StandsAs t) row i.values := by
  refine ⟨_, (insertion table schema row).tokens, insertion table schema row,
    tokens?_insertText hrow htable hschema hcolumns r, ?_,
    Insertion.read?_tokens (insertion_isReadable hrow), rfl, rfl, rfl, ?_⟩
  · have hinsert : .mark ';' ∉ (insertion table schema row).tokens := by
      intro h
      exact isInert_of_mem_tokens _ h rfl
    have hcapture : .mark ';' ∉ captureTokens := by decide
    have hquery : .mark ';' ∉ captureQueryTokens := by decide
    have hsplit : List.splitOn (.mark ';') ([.mark ';'].intercalate [captureTokens,
        (insertion table schema row).tokens, captureQueryTokens]) = _ :=
      List.splitOn_intercalate _ (by simp [hinsert, hcapture, hquery]) (by simp)
    simpa using hsplit
  · refine List.forall₂_map_right_iff.2 (List.forall₂_same.2 ?_)
    intro e _
    exact ⟨_, rfl, e.2.standsAs_sqlLiteral⟩

/-- Texts, a list, a function and a name that hold marks and quotes. -/
def markedRow : Row := [("name", .string "it's (a), b); --"), ("o'k", .array [.string "','", .null]),
  ("f", .function "(x, y) => ');'"), ("n", .float .negativeInfinity), ("m", .int (-5)), ("x", .null)]

/-- The INSERT of `markedRow` has six columns and six values. -/
theorem insertText_aligned_marked :
    ∃ ts insert i,
      tokens? (Report.outcome (markedRow.insertText {} "it's" "dbo") {}).1.toList = some ts ∧
      ts.splitOn (.mark ';') = [captureTokens, insert, captureQueryTokens] ∧
      Insertion.read? insert = some i ∧
      i.schema = Text.doubleQuotes "dbo".toList ∧ i.table = Text.doubleQuotes "it's".toList ∧
      i.columns = markedRow.map (fun e => [columnToken e.1]) ∧
      List.Forall₂ (fun e item => ∃ t, item = [t] ∧ e.2.StandsAs t) markedRow i.values :=
  insertText_aligned (List.cons_ne_nil _ _) (by decide) (by decide) (by decide) {}

end Row

end QuerySql
