/-
  The assignments of an UPDATE, entry by entry.

  ` IS NULL` is replaced in the list of assignments as a whole, but the comma and
  the bracket between two entries do not occur in it: each entry is replaced by
  itself (`Row.assignments_concludes`).  What an entry assigns is the literal of
  an INSERT unless the entry is a comparator object or ` IS NULL` stands in its
  column or its literal (`Row.assignedText_eq_iff`).
-/
import QuerySql.Proofs.Condition.Text
import QuerySql.Proofs.Filter.Reading
import QuerySql.Proofs.Text.Replacement
import QuerySql.Statement.Change

namespace QuerySql

/-! ## Comparator tests -/

/-- What stands behind the column in the test of a comparator. -/
def Leaf.comparatorWords : List String :=
  ["<", "<=", ">", ">=", "<>", " LIKE ", " IS NOT NULL", " NOT IN ("]

theorem Leaf.comparatorTest_text (c : String) (op : Comparator) (v : Value) :
    ∃ word ∈ comparatorWords, ∃ rest,
      (comparatorTest c op v).text = Text.bracketed c ++ (word ++ rest) := by
  have hcompares : ∀ (op : Sql.Operator) (l : Sql.Literal), op.text ∈ comparatorWords →
      ∃ word ∈ comparatorWords, ∃ rest,
        (Sql.Test.compares c op l).text = Text.bracketed c ++ (word ++ rest) :=
    fun op l hword => ⟨op.text, hword, l.text, String.append_assoc⟩
  cases op with
  | not =>
    cases v with
    | null => exact ⟨" IS NOT NULL", by decide, "", by simp [comparatorTest, inequalityTest,
        Sql.Test.text, Sql.Test.nullText]⟩
    | array items => exact ⟨" NOT IN (", by decide, _, by
        rw [comparatorTest, inequalityTest, Sql.Test.text, String.append_assoc,
          String.append_assoc]; rfl⟩
    | _ => exact hcompares .different _ (by decide)
  | lessThan => exact hcompares .less _ (by decide)
  | lessThanOrEqual => exact hcompares .lessOrEqual _ (by decide)
  | greaterThan => exact hcompares .greater _ (by decide)
  | greaterThanOrEqual => exact hcompares .greaterOrEqual _ (by decide)
  | like | contains | startsWith | endsWith => exact hcompares .like _ (by decide)

namespace Row

/-! ## Entries -/

/-- The text of an entry before the replacement. -/
def entryText (e : String × Value) : String :=
  match Comparator.tests? e.2 with
  | .ok (some tests) => (Predicate.compares e.1 tests).render .text
  | _ => (Leaf.equalityTest e.1 e.2).text

/-- What writing an entry reports. -/
def entryReports (e : String × Value) : List Diagnostic :=
  match Comparator.tests? e.2 with
  | .ok (some tests) => (Predicate.compares e.1 tests).render .reports
  | _ => e.2.reports

/-- Why an entry is refused: a comparator object has a key of another kind. -/
def entryRefusal? (e : String × Value) : Option Error :=
  match Comparator.tests? e.2 with
  | .error err => some err
  | .ok _ => none

theorem assignment_concludes (e : String × Value) :
    (assignment e.1 e.2).Concludes (entryRefusal? e) (entryText e) (entryReports e) := by
  have hread := Compile.ends_ofExcept (Comparator.tests? e.2)
  unfold assignment entryRefusal? entryText entryReports
  cases htests : Comparator.tests? e.2 with
  | error err =>
    rw [htests] at hread
    exact ⟨nofun, fun _ h => Option.some.inj h ▸ ⟨[], hread.bind_error _⟩⟩
  | ok tests? =>
    rw [htests] at hread
    refine (hread.bind ?_).concludes
    cases tests? with
    | none => exact Compile.ends_lift (Leaf.equality_ends e.1 e.2)
    | some tests => exact Compile.ends_lift (Condition.comparisons_ends e.1 tests)

/-- A list of texts that is not empty starts with the first of them. -/
theorem intercalate_cons_eq (separator a : String) (texts : List String) :
    ∃ rest, separator.intercalate (a :: texts) = a ++ rest := by
  cases texts with
  | nil => exact ⟨"", by simp⟩
  | cons b texts => exact ⟨_, by rw [String.intercalate_cons_cons, String.append_assoc]⟩

theorem entryText_of_tests {e : String × Value} {tests : List (Comparator × Value)}
    (h : Comparator.tests? e.2 = .ok (some tests)) :
    ∃ word ∈ Leaf.comparatorWords, ∃ rest, entryText e = Text.bracketed e.1 ++ (word ++ rest) := by
  have htext : entryText e = (Predicate.compares e.1 tests).render .text := by
    simp only [entryText, h]
  obtain ⟨-, -, -, hne⟩ := Comparator.tests?_eq_some.1 h
  obtain ⟨t, tests, rfl⟩ := List.exists_cons_of_ne_nil hne
  obtain ⟨word, hword, rest, hfirst⟩ := Leaf.comparatorTest_text e.1 t.1 t.2
  obtain ⟨more, hmore⟩ := intercalate_cons_eq " AND " (Leaf.comparatorTest e.1 t.1 t.2).text
    (tests.map fun t => (Leaf.comparatorTest e.1 t.1 t.2).text)
  have hjoined : entryText e = (Leaf.comparatorTest e.1 t.1 t.2).text ++ more := htext.trans hmore
  refine ⟨word, hword, rest ++ more, ?_⟩
  rw [hjoined, hfirst, String.append_assoc, String.append_assoc]

theorem entryText_of_plain {e : String × Value} (h : Comparator.tests? e.2 = .ok none) :
    (e.2 = .null ∧ entryText e = Text.bracketed e.1 ++ " IS NULL") ∨
    (e.2 ≠ .null ∧ entryText e = Text.bracketed e.1 ++ ("=" ++ e.2.sqlLiteral.text)) := by
  obtain ⟨c, v⟩ := e
  have htext : entryText (c, v) = (Leaf.equalityTest c v).text := by
    simp only [entryText, h]
  cases v with
  | null => exact Or.inl ⟨rfl, htext⟩
  | _ => exact Or.inr ⟨nofun, htext.trans String.append_assoc⟩

/-- What stands behind the column of an entry: the test of a comparator, a test
    for null or a literal. -/
theorem entryText_cases {e : String × Value} (h : entryRefusal? e = none) :
    (e.2.IsComparators ∧ ∃ word ∈ Leaf.comparatorWords, ∃ rest,
      entryText e = Text.bracketed e.1 ++ (word ++ rest)) ∨
    (e.2 = .null ∧ entryText e = Text.bracketed e.1 ++ " IS NULL") ∨
    (¬ e.2.IsComparators ∧ e.2 ≠ .null ∧
      entryText e = Text.bracketed e.1 ++ ("=" ++ e.2.sqlLiteral.text)) := by
  unfold entryRefusal? at h
  cases htests : Comparator.tests? e.2 with
  | error err => rw [htests] at h; cases h
  | ok tests? =>
    cases tests? with
    | none => exact Or.inr ((entryText_of_plain htests).imp_right
        fun htext => ⟨Comparator.tests?_eq_none.1 htests, htext⟩)
    | some tests =>
      refine Or.inl ⟨?_, entryText_of_tests htests⟩
      by_contra hplain
      rw [Comparator.tests?_eq_none.2 hplain] at htests
      cases htests

theorem entryText_head {e : String × Value} (h : entryRefusal? e = none) :
    (entryText e).toList.head? = some '[' := by
  obtain ⟨-, word, -, rest, htext⟩ | ⟨-, htext⟩ | ⟨-, -, htext⟩ := entryText_cases h <;>
    simp [htext]

/-! ## Replacement -/

/-- What is replaced. -/
def nullTest : String := " IS NULL"

/-- What is put in its place. -/
def nullAssignment : String := "=NULL"

/-- What an entry assigns. -/
def assignedText (e : String × Value) : String :=
  Text.replaceAll nullTest nullAssignment (entryText e)

/-- The characters of a text after the replacement. -/
def replaced (t : List Char) : List Char :=
  Text.replaceFrom nullTest.toList nullAssignment.toList 0 t

theorem replaced_append_ne {s : List Char} (h : nullTest.toList <:+: s) (u w : List Char) :
    replaced s ++ u ≠ s ++ w :=
  Text.replaceFrom_append_ne (by decide : '=' ≠ ' ') h u w

theorem replaced_eq_self_iff {s : List Char} : replaced s = s ↔ ¬ nullTest.toList <:+: s :=
  Text.replaceFrom_eq_self_iff (by decide : '=' ≠ ' ')

/-- The column is replaced apart from what stands behind it. -/
theorem replaced_bracketed_append (c : String) (t : List Char) :
    replaced ((Text.bracketed c).toList ++ t) =
      replaced (Text.bracketed c).toList ++ replaced t := by
  refine Text.replaceFrom_append_of_getLast ?_
  intro d hd
  rw [Text.toList_bracketed, ← List.cons_append, List.getLast?_concat] at hd
  cases hd
  decide

/-- What stands behind the column in the test of a comparator does not become an assignment. -/
theorem replaced_comparatorWord {word : String} (h : word ∈ Leaf.comparatorWords) (t : List Char) :
    ∃ d rest, replaced (word.toList ++ t) = d :: rest ∧ d ≠ '=' := by
  have hwords : ∀ word ∈ Leaf.comparatorWords, word.toList ≠ [] ∧ word.toList.head? ≠ some '=' ∧
      ¬ nullTest.toList <+: word.toList ∧ ¬ word.toList <+: nullTest.toList := by decide
  obtain ⟨hne, hequals, hshort, hlong⟩ := hwords word h
  have hfront : ¬ nullTest.toList <+: word.toList ++ t := by
    intro hp
    obtain hp | ⟨v, -, hv⟩ := Text.prefix_append_cases hp
    · exact hshort hp
    · exact hlong ⟨v, hv.symm⟩
  obtain ⟨d, ds, hword⟩ := List.exists_cons_of_ne_nil hne
  rw [hword, List.cons_append] at hfront ⊢
  refine ⟨d, _, Text.replaceFrom_cons _ _ (mt List.isPrefixOf_iff_prefix.1 hfront), ?_⟩
  rintro rfl
  exact hequals (by rw [hword]; rfl)

theorem replaced_equals_eq_iff {s : List Char} :
    replaced ('=' :: s) = '=' :: s ↔ ¬ nullTest.toList <:+: s := by
  have hequals : replaced ('=' :: s) = '=' :: replaced s :=
    Text.replaceFrom_cons _ _ (by simp [nullTest])
  rw [hequals, List.cons_inj_right, replaced_eq_self_iff]

/-- The column of an entry is assigned a literal where the rest of its text becomes one. -/
theorem assignedText_eq_append_iff {e : String × Value} {rest : String}
    (h : entryText e = Text.bracketed e.1 ++ rest) (literal : String) :
    assignedText e = Text.bracketed e.1 ++ "=" ++ literal ↔
      replaced (Text.bracketed e.1).toList ++ replaced rest.toList =
        (Text.bracketed e.1).toList ++ '=' :: literal.toList := by
  rw [← String.toList_inj, assignedText, Text.toList_replaceAll, h, String.toList_append,
    ← replaced_bracketed_append]
  simp [replaced]

/-- **An entry assigns its literal** unless it is a comparator object or ` IS NULL`
    stands in its column or its literal. -/
theorem assignedText_eq_iff {e : String × Value} (h : entryRefusal? e = none) :
    assignedText e = Text.bracketed e.1 ++ "=" ++ e.2.sqlLiteral.text ↔
      ¬ e.2.IsComparators ∧ ¬ nullTest.toList <:+: (Text.bracketed e.1).toList ∧
      ¬ nullTest.toList <:+: e.2.sqlLiteral.text.toList := by
  by_cases hcolumn : nullTest.toList <:+: (Text.bracketed e.1).toList
  · -- the first occurrence in the column is replaced, so the column is not kept
    obtain ⟨rest, htext⟩ : ∃ rest, entryText e = Text.bracketed e.1 ++ rest := by
      obtain ⟨-, word, -, rest, htext⟩ | ⟨-, htext⟩ | ⟨-, -, htext⟩ := entryText_cases h <;>
        exact ⟨_, htext⟩
    rw [assignedText_eq_append_iff htext]
    exact iff_of_false (replaced_append_ne hcolumn _ _) fun hplain => hplain.2.1 hcolumn
  · have hkept := replaced_eq_self_iff.2 hcolumn
    obtain ⟨hcomparators, word, hword, rest, htext⟩ | ⟨hnull, htext⟩ | ⟨hplain, -, htext⟩ :=
      entryText_cases h
    · obtain ⟨d, ds, hreplaced, hd⟩ := replaced_comparatorWord hword rest.toList
      rw [assignedText_eq_append_iff htext, hkept, String.toList_append, hreplaced]
      refine iff_of_false (fun heq => hd ?_) fun hplain => hplain.1 hcomparators
      exact (List.cons.inj (List.append_cancel_left heq)).1
    · rw [assignedText_eq_append_iff htext, hkept, hnull]
      exact iff_of_true rfl ⟨id, hcolumn, by decide⟩
    · have hliteral : ("=" ++ e.2.sqlLiteral.text).toList = '=' :: e.2.sqlLiteral.text.toList := by
        simp
      rw [assignedText_eq_append_iff htext, hkept, List.append_cancel_left_eq, hliteral,
        replaced_equals_eq_iff]
      exact ⟨fun h => ⟨hplain, hcolumn, h⟩, fun h => h.2.2⟩

/-! ## Rows -/

/-- The row is assigned entry by entry. -/
theorem assignments_concludes (row : Row) : (assignments row).Concludes
    (row.findSome? entryRefusal?) (Text.replaceAll nullTest nullAssignment
      (", ".intercalate (row.map entryText))) (row.flatMap entryReports) :=
  ((Compile.concludes_mapM fun e _ => assignment_concludes e).map
    (", ".intercalate ·)).map (Text.replaceAll nullTest nullAssignment)

theorem literalList_ends (row : Row) : Report.Ends (literalList row)
    (", ".intercalate (row.map fun e => e.2.sqlLiteral.text)) (row.flatMap fun e => e.2.reports) :=
  (Report.ends_mapM fun e _ => e.2.literal_ends).map (", ".intercalate ·)

/-- What an UPDATE assigns for an entry and the literal that an INSERT writes for it. -/
structure WrittenAs (e : String × Value) (assigned literal : String) : Prop where
  /-- The entry is replaced by itself. -/
  own : ∃ text, (∀ r, ((assignment e.1 e.2).outcome r).1 = .ok text) ∧
    assigned = Text.replaceAll nullTest nullAssignment text
  literal_eq : ∀ r, (Report.outcome e.2.literal r).1 = literal
  literal_null : e.2 = .null → literal = "NULL"
  agree_iff : assigned = Text.bracketed e.1 ++ "=" ++ literal ↔
    ¬ e.2.IsComparators ∧ ¬ nullTest.toList <:+: (Text.bracketed e.1).toList ∧
    ¬ nullTest.toList <:+: literal.toList

theorem writtenAs_assignedText {e : String × Value} (h : entryRefusal? e = none) :
    WrittenAs e (assignedText e) e.2.sqlLiteral.text where
  own := by
    refine ⟨entryText e, fun r => ?_, rfl⟩
    rw [(assignment_concludes e).outcome_fst, h]
    rfl
  literal_eq r := congrArg Prod.fst (e.2.literal_ends r)
  literal_null hnull := by rw [hnull]; rfl
  agree_iff := assignedText_eq_iff h

/-- **The assignments of a row are those of its entries.**  If the list of an UPDATE
    is written, it is the list of what its entries assign, each replaced by
    itself, and these are the literals of an INSERT where no comparator object and
    no ` IS NULL` stands in the way. -/
theorem assignments_entrywise {row : Row} {text : String} {r s : Recorder}
    (h : (assignments row).outcome r = (.ok text, s)) : ∃ parts : List (String × String),
      text = ", ".intercalate (parts.map Prod.fst) ∧
      (∀ r, (Report.outcome (literalList row) r).1 = ", ".intercalate (parts.map Prod.snd)) ∧
      List.Forall₂ (fun e p => WrittenAs e p.1 p.2) row parts := by
  have houtcome := (assignments_concludes row).outcome_fst r
  rw [h] at houtcome
  cases hrefusal : row.findSome? entryRefusal? with
  | some e => rw [hrefusal] at houtcome; cases houtcome
  | none =>
    rw [hrefusal] at houtcome
    obtain rfl := Except.ok.inj houtcome
    have haccepted := List.findSome?_eq_none_iff.1 hrefusal
    have hreplaced := Text.replaceAll_intercalate nullTest nullAssignment ", " (row.map entryText)
      (by rintro c ⟨⟩; decide) (by decide) ?_
    · refine ⟨row.map fun e => (assignedText e, e.2.sqlLiteral.text), ?_, fun r => ?_, ?_⟩
      · rw [hreplaced, List.map_map, List.map_map]; rfl
      · rw [List.map_map]; exact congrArg Prod.fst (literalList_ends row r)
      · rw [List.forall₂_map_right_iff, List.forall₂_same]
        exact fun e he => writtenAs_assignedText (haccepted e he)
    · refine List.forall_mem_map.2 fun e he => ⟨'[', entryText_head (haccepted e he), by decide⟩

/-- A null, a comparator object and a text that looks like the next entry. -/
theorem assignments_entrywise_mixed : ∃ parts : List (String × String),
    "[a]=NULL, [b]>1, [c]='x, [d]=NULL'" = ", ".intercalate (parts.map Prod.fst) ∧
    (∀ r, (Report.outcome (literalList [("a", .null), ("b", .object [(">", .int 1)]),
      ("c", .string "x, [d] IS NULL")]) r).1 = ", ".intercalate (parts.map Prod.snd)) ∧
    List.Forall₂ (fun e p => WrittenAs e p.1 p.2) [("a", .null), ("b", .object [(">", .int 1)]),
      ("c", .string "x, [d] IS NULL")] parts :=
  assignments_entrywise (r := {}) (s := {}) (by rfl)

end Row

end QuerySql
