/-
  Constraints of created tables.

  `Attribute.definition` is the definition of a column as it is written.  It
  `Enforces` what is declared for the column, with one exception: if the values of
  a column are unique and the column is no primary key, that is all that its
  definition says, so nulls are not rejected.  The statement that creates a table
  holds a definition for each column, in order (`Table.createText_enforces`).
-/
import QuerySql.Proofs.Outcome
import QuerySql.Proofs.Number.Bare
import QuerySql.Proofs.Sql.Definition
import QuerySql.Column.Basic

namespace QuerySql

/-! ## Types -/

namespace ColumnType

/-- The type of a column in a table. -/
def dataType (size : Option UInt32) : ColumnType → Sql.DataType
  | binary | string => ⟨"NVARCHAR", some (sqlText.sizeText size)⟩
  | array | json | text => ⟨"VARCHAR", some (sqlText.sizeText size)⟩
  | boolean => ⟨"BIT", none⟩
  | integer => ⟨"INT", none⟩
  | float => ⟨"FLOAT", none⟩
  | date => ⟨"DATE", none⟩
  | time => ⟨"TIME", none⟩
  | dateTime => ⟨"DATETIME2", none⟩

theorem text_dataType (size : Option UInt32) (t : ColumnType) :
    (t.dataType size).text = t.sqlText size := by
  have hsize : ∀ word s : String,
      (⟨word, some s⟩ : Sql.DataType).text = word ++ "(" ++ s ++ ")" := by
    intro word s
    simp [Sql.DataType.text, Sql.DataType.sizeText, String.append_assoc]
  cases t with
  | binary | string => exact hsize "NVARCHAR" _
  | array | json | text => exact hsize "VARCHAR" _
  | _ => exact String.append_empty

theorem isReadable_dataType (size : Option UInt32) (t : ColumnType) :
    (t.dataType size).IsReadable := by
  have hword : Sql.IsWord (t.dataType size).word := by
    have hall : ∀ w ∈ ["NVARCHAR", "VARCHAR", "BIT", "INT", "FLOAT", "DATE", "TIME", "DATETIME2"],
        Sql.IsWord w := by decide
    cases t <;> exact hall _ (by simp [dataType])
  have hsize : Sql.IsWord (sqlText.sizeText size) := by
    cases size with
    | none => decide
    | some n =>
      rw [sqlText.sizeText, Sql.IsWord, Number.toList_natText]
      exact ⟨Number.digits_ne_nil _, List.all_eq_true.2 fun c hc =>
        Sql.isWordChar_of_isNumeric (isNumeric_of_mem_digits hc)⟩
  refine ⟨hword, fun s hs => ?_⟩
  cases t <;> cases hs <;> exact hsize

/-- The type of a column in a table, by its name. -/
def dataTypeOfName (name : String) (size : Option UInt32) : Sql.DataType :=
  ((ofName? name).map (dataType size)).getD ⟨fallback, none⟩

/-- What is reported about the name of a type. -/
def reports (name : String) : List Diagnostic :=
  if (ofName? name).isSome then [] else [.unknownType name fallback]

theorem isReadable_dataTypeOfName (name : String) (size : Option UInt32) :
    (dataTypeOfName name size).IsReadable := by
  have hfallback : Sql.DataType.IsReadable ⟨fallback, none⟩ := ⟨by decide, nofun⟩
  unfold dataTypeOfName
  cases ofName? name with
  | none => exact hfallback
  | some t => exact isReadable_dataType size t

theorem sqlTextOfName_ends (name : String) (size : Option UInt32) :
    (sqlTextOfName name size).Ends (dataTypeOfName name size).text (reports name) := by
  unfold sqlTextOfName dataTypeOfName reports
  cases ofName? name with
  | some t =>
    rw [Option.map_some, Option.getD_some, text_dataType]
    exact Report.ends_pure _
  | none => exact (Report.ends_report _).bind (Report.ends_pure _)

end ColumnType

/-! ## Columns -/

namespace Attribute

variable (column : String) (a : Attribute)

/-- The type of the column by its name and size. -/
def declaredType : Sql.DataType := ColumnType.dataTypeOfName a.type a.size

/-- The type of the column as it is written. -/
def dataType : Sql.DataType :=
  if a.primaryKey = some true ∧ a.declaredType.text ≠ "INT" then ⟨"VARCHAR", some "255"⟩
  else a.declaredType

/-- The constraints of the column as they are written: of the flags only the first that
    applies counts. -/
def constraints : List Sql.Constraint :=
  if a.primaryKey = some true then
    if a.declaredType.text = "INT" then [.identity, .primaryKey] else [.notNull, .primaryKey]
  else if a.unique = some true then [.unique]
  else if a.nullable = some false then [.notNull]
  else [.null]

/-- The definition of a column as it is written. -/
def definition : Sql.ColumnDefinition :=
  { name := Text.doubleQuotes column.toList, type := a.dataType, constraints := a.constraints }

/-- What stands behind the name of a column with the given type. -/
def constraintText (type : String) : String :=
  if a.primaryKey = some true then
    if type = "INT" then "INT IDENTITY PRIMARY KEY" else "VARCHAR(255) NOT NULL PRIMARY KEY"
  else if a.unique = some true then type ++ " UNIQUE"
  else if a.nullable = some false then type ++ " NOT NULL"
  else type ++ " NULL"

theorem constraintText_declaredType : a.constraintText a.declaredType.text =
    a.dataType.text ++ Sql.Constraint.joined a.constraints := by
  have htext : (⟨"VARCHAR", some "255"⟩ : Sql.DataType).text = "VARCHAR(255)" := rfl
  unfold constraintText dataType constraints
  by_cases hkey : a.primaryKey = some true
  · by_cases hint : a.declaredType.text = "INT" <;>
      simp [hkey, hint, htext, Sql.Constraint.joined, Sql.Constraint.text]
  · simp only [hkey, false_and, if_false]
    split_ifs <;> simp [Sql.Constraint.joined, Sql.Constraint.text]

theorem text_definition : (a.definition column).text =
    Text.bracketed column ++ " " ++ a.constraintText a.declaredType.text := by
  have hname : Sql.nameText (Text.doubleQuotes column.toList) = Text.bracketed column := rfl
  rw [constraintText_declaredType, Sql.ColumnDefinition.text, definition, hname]
  simp only [String.append_assoc]

/-- **A column is written as its definition.** -/
theorem columnText_ends :
    (a.columnText column).Ends (a.definition column).text (ColumnType.reports a.type) := by
  rw [text_definition]
  exact (ColumnType.sqlTextOfName_ends a.type a.size).map fun type =>
    Text.bracketed column ++ " " ++ a.constraintText type

end Attribute

/-- The definition has what is declared for its column.  Of a column whose values
    are unique and that is no primary key it says nothing about nulls. -/
structure Sql.ColumnDefinition.Enforces (primaryKey unique nullable : Option Bool)
    (d : Sql.ColumnDefinition) : Prop where
  isPrimaryKey : primaryKey = some true → d.IsPrimaryKey
  isUnique : unique = some true → d.IsUnique
  rejectsNull : nullable = some false → (unique = some true → primaryKey = some true) →
    d.RejectsNull
  uniqueOnly : unique = some true → primaryKey ≠ some true → d.constraints = [.unique]

theorem Attribute.definition_enforces (column : String) (a : Attribute) :
    (a.definition column).Enforces a.primaryKey a.unique a.nullable := by
  by_cases hkey : a.primaryKey = some true
  · have hmem : (a.definition column).IsPrimaryKey := by
      by_cases hint : a.declaredType.text = "INT" <;>
        simp [Sql.ColumnDefinition.IsPrimaryKey, definition, constraints, hkey, hint]
    exact ⟨fun _ => hmem, fun _ => Or.inr hmem, fun _ _ => Or.inr hmem, fun _ h => absurd hkey h⟩
  by_cases hunique : a.unique = some true
  · have honly : (a.definition column).constraints = [.unique] := by
      simp [definition, constraints, hkey, hunique]
    have hmem : Sql.Constraint.unique ∈ (a.definition column).constraints := by simp [honly]
    exact ⟨fun h => absurd h hkey, fun _ => Or.inl hmem, fun _ h => absurd (h hunique) hkey,
      fun _ _ => honly⟩
  · refine ⟨fun h => absurd h hkey, fun h => absurd h hunique, fun hnull _ => Or.inl ?_,
      fun h => absurd h hunique⟩
    simp [definition, constraints, hkey, hunique, hnull]

theorem Attribute.isReadable_definition {column : String} (h : ']' ∉ column.toList)
    (a : Attribute) : (a.definition column).IsReadable := by
  have hkey : Sql.DataType.IsReadable ⟨"VARCHAR", some "255"⟩ :=
    ⟨by decide, by rintro s ⟨⟩; decide⟩
  refine ⟨fun hmem => h (Text.mem_doubleQuotes.1 hmem), ?_⟩
  rw [definition, dataType]
  split_ifs
  · exact hkey
  · exact ColumnType.isReadable_dataTypeOfName a.type a.size

/-! ## Tables -/

namespace Table

/-- A table with the definitions of its columns. -/
def creation (table : String) (columns : List (String × Attribute)) : Sql.Creation where
  table := Text.doubleQuotes table.toList
  columns := columns.map fun c => c.2.definition c.1

/-- The text for `columns` creates the table of `s`, and is read as `s` unless a name
    closes its brackets. -/
structure Creates (table : String) (columns : List (String × Attribute)) (s : Sql.Creation) :
    Prop where
  ends : (createText table columns).Ends (.ok s.text)
    (columns.flatMap fun c => ColumnType.reports c.2.type)
  table_eq : s.table = Text.doubleQuotes table.toList
  read : ']' ∉ table.toList → (∀ c ∈ columns, ']' ∉ c.1.toList) →
    (Sql.tokens? s.text.toList).bind Sql.Creation.read? = some s

variable {columns : List (String × Attribute)}

theorem columnTexts_ends (columns : List (String × Attribute)) :
    (columnTexts columns).Ends
      (", ".intercalate (columns.map fun c => (c.2.definition c.1).text))
      (columns.flatMap fun c => ColumnType.reports c.2.type) :=
  (Report.ends_mapM fun c _ => c.2.columnText_ends c.1).map _

theorem text_creation (table : String) (columns : List (String × Attribute)) :
    (creation table columns).text = "CREATE TABLE " ++ Text.bracketed table ++ " (" ++
      ", ".intercalate (columns.map fun c => (c.2.definition c.1).text) ++ ")" := by
  have hname : Sql.nameText (Text.doubleQuotes table.toList) = Text.bracketed table := rfl
  have hopen : " (" = " " ++ "(" := rfl
  rw [Sql.Creation.text, creation, hname, hopen, List.map_map]
  simp only [String.append_assoc]
  rfl

theorem creates_creation (hne : columns ≠ []) (table : String) :
    Creates table columns (creation table columns) := by
  refine ⟨?_, rfl, fun htable hcolumns => ?_⟩
  · obtain ⟨c, columns, rfl⟩ := List.exists_cons_of_ne_nil hne
    rw [text_creation]
    exact (Compile.ends_lift (columnTexts_ends (c :: columns))).map fun texts =>
      "CREATE TABLE " ++ Text.bracketed table ++ " (" ++ texts ++ ")"
  · refine Sql.Creation.read?_text (by simpa [creation] using hne)
      (fun hmem => htable (Text.mem_doubleQuotes.1 hmem)) ?_
    exact List.forall_mem_map.2 fun c hc => Attribute.isReadable_definition (hcolumns c hc) c.2

/-- **A created table enforces what is declared for its columns.** -/
theorem createText_enforces (table : String) :
    (∀ columns : List (String × Attribute), columns ≠ [] →
      ∃ s, Creates table columns s ∧ List.Forall₂ (fun c d =>
        d.name = Text.doubleQuotes c.1.toList ∧
          d.Enforces c.2.primaryKey c.2.unique c.2.nullable) columns s.columns) ∧
    ∀ rows : List ColumnRow, rows ≠ [] →
      ∃ s, Creates table (Attribute.ofRows rows) s ∧ List.Forall₂ (fun row d =>
        d.name = Text.doubleQuotes row.name.toList ∧
          d.Enforces row.primaryKey row.unique row.nullable) rows s.columns := by
  constructor
  · intro columns hne
    refine ⟨_, creates_creation hne table, ?_⟩
    refine List.forall₂_map_right_iff.2 (List.forall₂_same.2 fun c _ => ?_)
    exact ⟨rfl, c.2.definition_enforces c.1⟩
  · intro rows hne
    have hcolumns : Attribute.ofRows rows ≠ [] := by simpa [Attribute.ofRows] using hne
    refine ⟨_, creates_creation hcolumns table, ?_⟩
    rw [creation, Attribute.ofRows, List.map_map]
    refine List.forall₂_map_right_iff.2 (List.forall₂_same.2 fun row _ => ?_)
    exact ⟨rfl, (Attribute.ofRow row).definition_enforces row.name⟩

/-- Columns of all kinds of constraints, with a type that is not known. -/
def people : List ColumnRow := [{ name := "id", type := "Integer", primaryKey := some true },
  { name := "email", type := "string", unique := some true, nullable := some false },
  { name := "it's", type := "xml", nullable := some false },
  { name := "code", type := "text", primaryKey := some true, unique := some true }]

/-- A column with a size. -/
def named : List (String × Attribute) :=
  [("name", { type := "String", size := some 40, nullable := some false })]

theorem createText_enforces_people :
    (∃ s, Creates "t" named s ∧ List.Forall₂ (fun c d =>
      d.name = Text.doubleQuotes c.1.toList ∧
        d.Enforces c.2.primaryKey c.2.unique c.2.nullable) named s.columns) ∧
    ∃ s, Creates "people" (Attribute.ofRows people) s ∧ List.Forall₂ (fun row d =>
      d.name = Text.doubleQuotes row.name.toList ∧
        d.Enforces row.primaryKey row.unique row.nullable) people s.columns :=
  ⟨(createText_enforces "t").1 named (List.cons_ne_nil _ _),
    (createText_enforces "people").2 people (List.cons_ne_nil _ _)⟩

/-- It is not so that nulls are rejected wherever this is declared: in a column whose
    values are unique they are not. -/
theorem unique_column_admits_nulls :
    ¬ ∀ (table : String) (rows : List ColumnRow), rows ≠ [] →
      ∃ (s : Sql.Creation) (ds : List Diagnostic),
        (createText table (Attribute.ofRows rows)).Ends (.ok s.text) ds ∧
        List.Forall₂ (fun row d => (row.primaryKey = some true → d.IsPrimaryKey) ∧
          (row.unique = some true → d.IsUnique) ∧ (row.nullable = some false → d.RejectsNull))
          rows s.columns := by
  intro h
  let rows : List ColumnRow :=
    [{ name := "a", type := "int", unique := some true, nullable := some false }]
  obtain ⟨s, ds, hends, hall⟩ := h "t" rows (List.cons_ne_nil _ _)
  have htext : s.text = "CREATE TABLE [t] ([a] INT UNIQUE)" := by
    have hrun : ((createText "t" (Attribute.ofRows rows)).outcome {}).1 =
        .ok "CREATE TABLE [t] ([a] INT UNIQUE)" := by decide
    rw [hends.outcome_eq] at hrun
    exact Except.ok.inj hrun
  obtain ⟨d, ds', hd, -, hcolumns⟩ := List.forall₂_cons_left_iff.1 hall
  have hmem : d ∈ s.columns := by simp [hcolumns]
  have hwords : ∀ c ∈ d.constraints,
      c.text.toList <:+: "CREATE TABLE [t] ([a] INT UNIQUE)".toList :=
    fun c hc => htext ▸ Sql.Creation.infix_of_mem hmem hc
  rcases hd.2.2 rfl with hnull | hkey
  · exact absurd ((hwords _ hnull).sublist.count_le 'L') (by decide)
  · exact absurd ((hwords _ hkey).sublist.count_le 'K') (by decide)

end Table

end QuerySql
