/-
  Tables from introspected columns.

  An introspection prints the definitions of the columns that the rows of the
  metadata describe (`Introspects.outcome_eq`).  Definitions under distinct names
  are read back from what is printed, so the table that is created from it is the
  one that the rows describe (`introspection_lossless`).
-/
import QuerySql.CommandLine.Run
import QuerySql.Proofs.Column.Written
import QuerySql.Proofs.Outcome

namespace QuerySql

namespace CommandLine

/-- What an introspection of the rows prints. -/
def introspected (rows : List ColumnRow) : String :=
  (Attribute.listToJson (Attribute.ofRows rows)).prettyText ++ "\n"

variable {m : Type → Type} [Monad m]

/-- The arguments ask for an introspection, and the metadata lists the rows. -/
inductive Introspects (host : Host m) (arguments : List String) (rows : List ColumnRow) : Prop
  | intro {i : Invocation} {path : Option String} {settings : Settings} {text : String}
    (request : Request.ofArguments arguments = .run i) (command : i.command = .introspect path)
    (loaded : loadSettings host i.settingsFile = pure settings)
    (source : readSource host path = pure text) (listed : ColumnRow.listOfText? text = some rows)

theorem Introspects.outcome_eq [LawfulMonad m] {host : Host m} {arguments : List String}
    {rows : List ColumnRow} (h : Introspects host arguments rows) :
    outcome host arguments = pure { status := 0, output := introspected rows } := by
  obtain ⟨request, command, loaded, source, listed⟩ := h
  rw [outcome, request]
  simp [run, command, loaded, Command.run, source, listed, introspected, Command.isStatement]

/-- The statement that creates a table from the text of its columns. -/
def createTextOf (table text : String) : Compile String := do
  Table.createText table (← (Attribute.listOfText text : Except Error _))

theorem outcome_createTextOf {text : String} {columns : List (String × Attribute)}
    (h : Attribute.listOfText text = .ok columns) (table : String) (r : Recorder) :
    (createTextOf table text).outcome r = (Table.createText table columns).outcome r := by
  rw [createTextOf, h, Compile.outcome_bind ((Compile.ends_ofExcept _).outcome_eq r),
    Recorder.append_nil]

/-- **Introspected columns create the table that the metadata describes.** -/
theorem introspection_lossless :
    (∀ columns : List (String × Attribute), (columns.map Prod.fst).Nodup →
      ∀ text ∈ [(Attribute.toObject columns).text, (Attribute.toObject columns).prettyText],
        Attribute.listOfText text = .ok columns) ∧
    ∀ rows : List ColumnRow, (rows.map ColumnRow.name).Nodup →
      (∀ {m : Type → Type} [Monad m] [LawfulMonad m] (host : Host m) (arguments : List String),
        Introspects host arguments rows →
        outcome host arguments = pure { status := 0, output := introspected rows }) ∧
      ∀ table r, (createTextOf table (introspected rows)).outcome r =
        (Table.createText table (Attribute.ofRows rows)).outcome r := by
  constructor
  · intro columns hnames text htext
    have hreadable := Attribute.isReadable_toObject hnames
    refine Attribute.listOfText_of_ofText? ?_
    obtain rfl | htext := List.mem_cons.1 htext
    · exact Json.ofText?_text hreadable
    · rw [List.mem_singleton.1 htext]
      exact Json.ofText?_prettyText hreadable
  · intro rows hnames
    have hcolumns : ((Attribute.ofRows rows).map Prod.fst).Nodup := by
      rwa [Attribute.ofRows, List.map_map]
    have hread : Attribute.listOfText (introspected rows) = .ok (Attribute.ofRows rows) := by
      rw [introspected, Attribute.listToJson_of_nodup hcolumns]
      exact Attribute.listOfText_of_ofText?
        (Json.ofText?_prettyText_newLine (Attribute.isReadable_toObject hcolumns))
    exact ⟨fun host arguments h => h.outcome_eq, fun table r => outcome_createTextOf hread table r⟩

/-- A column with quotes in its name, described on the standard input. -/
theorem introspection_lossless_quotes :
    let rows : List ColumnRow := [{ name := "\"a\"", type := "Int", nullable := some false }]
    let columns := Attribute.ofRows rows
    let text := "[\x7b\"ColumnName\":\"\\\"a\\\"\",\"TypeName\":\"Int\",\"Nullable\":false\x7d]"
    let host : Host Id := ⟨fun _ => .error .notFound, .ok text, none, none⟩
    (columns.map Prod.fst).Nodup ∧ Introspects host ["introspect"] rows ∧
      Attribute.listOfText (Attribute.toObject columns).text = .ok columns ∧
      outcome host ["introspect"] = { status := 0, output := introspected rows } ∧
      (createTextOf "t" (introspected rows)).outcome {} =
        (Table.createText "t" columns).outcome {} := by
  intro rows columns text host
  have hnames : (rows.map ColumnRow.name).Nodup := List.pairwise_singleton _ _
  have hintrospects : Introspects host ["introspect"] rows :=
    .intro (i := ⟨none, false, .introspect none⟩) rfl rfl rfl rfl (by decide)
  obtain ⟨hcolumns, hrows⟩ := introspection_lossless
  obtain ⟨hprinted, hcreated⟩ := hrows rows hnames
  exact ⟨hnames, hintrospects, hcolumns columns hnames _ List.mem_cons_self,
    hprinted host _ hintrospects, hcreated "t" {}⟩

end CommandLine

end QuerySql
