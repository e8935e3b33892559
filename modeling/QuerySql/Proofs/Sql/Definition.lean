/-
  Definitions of columns, and the statement that creates a table.

  * A `ColumnDefinition` is the name of a column, the type of its values and the
    constraints on them, and a `Creation` a table with the definitions of its
    columns; `text` is what they are written as;
  * `Creation.read?` reads them from tokens again, if no name holds a closing
    bracket (`Creation.read?_text`);
  * whatever the names hold, the words of a constraint stand in the text
    (`Creation.infix_of_mem`).
-/
import QuerySql.Proofs.Sql.Items

namespace QuerySql.Sql

/-- A name between its brackets. -/
def nameText (name : List Char) : String := "[" ++ String.ofList name ++ "]"

theorem scan_nameText {name : List Char} (h : ']' ∉ name) :
    scan .between (nameText name).toList = ([.name name], .between) := by
  have htext : (nameText name).toList = '[' :: (name ++ [']']) := by simp [nameText]
  rw [htext]
  exact scan_name h

/-! ## Types -/

/-- The type of a column: a word, and the size behind it. -/
structure DataType where
  word : String
  size? : Option String := none
deriving DecidableEq, Repr

/-- A word by itself. -/
def IsWord (text : String) : Prop := text.toList ≠ [] ∧ text.toList.all isWordChar = true

instance : DecidablePred IsWord := fun text =>
  inferInstanceAs (Decidable (text.toList ≠ [] ∧ text.toList.all isWordChar = true))

theorem tokens?_isWord {text : String} (h : IsWord text) :
    tokens? text.toList = some [.keyword text] :=
  tokens?_word h.1 (List.all_eq_true.1 h.2)

namespace DataType

/-- The size in its parentheses. -/
def sizeText : Option String → String
  | some size => "(" ++ size ++ ")"
  | none => ""

/-- The written form of a type. -/
def text (t : DataType) : String := t.word ++ sizeText t.size?

/-- The tokens of the size in its parentheses. -/
def sizeTokens : Option String → List Token
  | some size => [.mark '(', .keyword size, .mark ')']
  | none => []

/-- The tokens of a type. -/
def tokens (t : DataType) : List Token := .keyword t.word :: sizeTokens t.size?

/-- The type at the front of tokens, and what stands behind it. -/
def read? : List Token → Option (DataType × List Token)
  | .word w :: .mark '(' :: .word size :: .mark ')' :: ts =>
    some (⟨String.ofList w, some (String.ofList size)⟩, ts)
  | .word w :: ts => some (⟨String.ofList w, none⟩, ts)
  | _ => none

/-- The word and the size of the type are words. -/
structure IsReadable (t : DataType) : Prop where
  word : IsWord t.word
  size : ∀ s ∈ t.size?, IsWord s

/-- A type is read again, unless a parenthesis stands behind it. -/
theorem read?_append (t : DataType) {rest : List Token} (hrest : rest.head? ≠ some (.mark '(')) :
    read? (t.tokens ++ rest) = some (t, rest) := by
  obtain ⟨word, size | size⟩ := t
  · cases rest with
    | nil => simp [tokens, sizeTokens, Token.keyword, read?]
    | cons u rest =>
      have hu : u ≠ .mark '(' := fun h => hrest (by rw [h]; rfl)
      simp [tokens, sizeTokens, Token.keyword, read?, hu]
  · simp [tokens, sizeTokens, Token.keyword, read?]

theorem tokens?_text {t : DataType} (h : t.IsReadable) : tokens? t.text.toList = some t.tokens := by
  obtain ⟨word, size?⟩ := t
  have hword := tokens?_isWord h.word
  have hsize : Continues (sizeText size?) (sizeTokens size?) := by
    cases size? with
    | none => exact continues_empty
    | some size =>
      exact continues_enclosed (tokens?_isWord (h.size size rfl))
  exact hsize.behind hword

end DataType

/-! ## Constraints -/

/-- Constraints on the values of a column. -/
inductive Constraint where
  | identity | null | notNull | unique | primaryKey
deriving DecidableEq, Repr

namespace Constraint

/-- The written form of a constraint. -/
def text : Constraint → String
  | identity => "IDENTITY"
  | null => "NULL"
  | notNull => "NOT NULL"
  | unique => "UNIQUE"
  | primaryKey => "PRIMARY KEY"

/-- The words of a constraint. -/
def words : Constraint → List String
  | identity => ["IDENTITY"]
  | null => ["NULL"]
  | notNull => ["NOT", "NULL"]
  | unique => ["UNIQUE"]
  | primaryKey => ["PRIMARY", "KEY"]

/-- The tokens of a constraint. -/
def tokens (c : Constraint) : List Token := c.words.map .keyword

/-- Constraints one behind the other, each behind a blank. -/
def joined : List Constraint → String
  | [] => ""
  | c :: cs => " " ++ c.text ++ joined cs

/-- The constraints that words name. -/
def ofWords? : List String → Option (List Constraint)
  | [] => some []
  | "IDENTITY" :: ws => (ofWords? ws).map (identity :: ·)
  | "NULL" :: ws => (ofWords? ws).map (null :: ·)
  | "NOT" :: "NULL" :: ws => (ofWords? ws).map (notNull :: ·)
  | "UNIQUE" :: ws => (ofWords? ws).map (unique :: ·)
  | "PRIMARY" :: "KEY" :: ws => (ofWords? ws).map (primaryKey :: ·)
  | _ => none

/-- The text of a word. -/
def word? : Token → Option String
  | .word w => some (String.ofList w)
  | _ => none

/-- The constraints that tokens name. -/
def read? (ts : List Token) : Option (List Constraint) := (ts.mapM word?).bind ofWords?

theorem ofWords?_flatMap (cs : List Constraint) : ofWords? (cs.flatMap words) = some cs := by
  induction cs with
  | nil => rfl
  | cons c cs ih => cases c <;> simp [words, ofWords?, ih]

theorem read?_flatMap (cs : List Constraint) : read? (cs.flatMap tokens) = some cs := by
  have hword : ∀ w : String, word? (.keyword w) = some w := fun w => by simp [word?, Token.keyword]
  have hflat : cs.flatMap tokens = (cs.flatMap words).map .keyword := by
    rw [List.map_flatMap]
    rfl
  rw [read?, hflat, mapM_read hword]
  exact ofWords?_flatMap cs

theorem tokens?_text (c : Constraint) : tokens? c.text.toList = some c.tokens := by
  cases c <;> decide +kernel

theorem continues_joined (cs : List Constraint) : Continues (joined cs) (cs.flatMap tokens) := by
  induction cs with
  | nil => exact continues_empty
  | cons c cs ih => exact (continues_blank c.tokens?_text).append ih

theorem infix_joined {c : Constraint} {cs : List Constraint} (h : c ∈ cs) :
    c.text.toList <:+: (joined cs).toList := by
  induction cs with
  | nil => cases h
  | cons d cs ih =>
    rw [joined, String.toList_append, String.toList_append]
    obtain rfl | h := List.mem_cons.1 h
    · exact List.infix_append _ _ _
    · exact (ih h).trans (List.suffix_append _ _).isInfix

end Constraint

/-! ## Columns -/

/-- The definition of a column. -/
structure ColumnDefinition where
  /-- what stands between the brackets of the name -/
  name : List Char
  type : DataType
  constraints : List Constraint
deriving DecidableEq, Repr

namespace ColumnDefinition

/-- The written form of a definition: name, type and constraints. -/
def text (d : ColumnDefinition) : String :=
  nameText d.name ++ (" " ++ d.type.text ++ Constraint.joined d.constraints)

/-- The tokens of a definition. -/
def tokens (d : ColumnDefinition) : List Token :=
  .name d.name :: (d.type.tokens ++ d.constraints.flatMap Constraint.tokens)

/-- The column identifies the rows of the table. -/
def IsPrimaryKey (d : ColumnDefinition) : Prop := .primaryKey ∈ d.constraints

/-- No value stands twice in the column. -/
def IsUnique (d : ColumnDefinition) : Prop := .unique ∈ d.constraints ∨ d.IsPrimaryKey

/-- The column has a value in each row. -/
def RejectsNull (d : ColumnDefinition) : Prop := .notNull ∈ d.constraints ∨ d.IsPrimaryKey

/-- The definition that tokens are read as. -/
def read? : List Token → Option ColumnDefinition
  | .name name :: ts => do
    let (type, rest) ← DataType.read? ts
    return { name, type, constraints := ← Constraint.read? rest }
  | _ => none

/-- The name does not close its brackets, and the type is readable. -/
structure IsReadable (d : ColumnDefinition) : Prop where
  name : ']' ∉ d.name
  type : d.type.IsReadable

theorem head?_constraints (cs : List Constraint) :
    (cs.flatMap Constraint.tokens).head? ≠ some (.mark '(') := by
  cases cs with
  | nil => simp
  | cons c cs => cases c <;> simp [Constraint.tokens, Constraint.words, Token.keyword]

theorem read?_tokens (d : ColumnDefinition) : read? d.tokens = some d := by
  rw [tokens, read?, DataType.read?_append d.type (head?_constraints d.constraints)]
  simp [Constraint.read?_flatMap]

theorem tokens?_text {d : ColumnDefinition} (h : d.IsReadable) :
    tokens? d.text.toList = some d.tokens := by
  have hrest := (continues_blank (DataType.tokens?_text h.type)).append
    (Constraint.continues_joined d.constraints)
  rw [text, String.toList_append, tokens?_append_of_between (scan_nameText h.name),
    hrest.tokens?_eq]
  rfl

/-- A definition closes its parentheses and has no comma outside of them. -/
theorem isItem_tokens (d : ColumnDefinition) : isItem 0 d.tokens = true := by
  have hwords : ∀ ws : List String, isItem 0 (ws.map Token.keyword) = true := by
    intro ws
    induction ws with
    | nil => rfl
    | cons w ws ih => simpa [isItem, Token.keyword, Token.depth] using ih
  have hconstraints : isItem 0 (d.constraints.flatMap Constraint.tokens) = true := by
    have hflat := hwords (d.constraints.flatMap Constraint.words)
    rwa [List.map_flatMap] at hflat
  cases hsize : d.type.size? <;>
    simpa [tokens, DataType.tokens, hsize, DataType.sizeTokens, isItem, Token.keyword, Token.depth]
      using hconstraints

/-- The words of a constraint stand in the text. -/
theorem infix_of_mem {d : ColumnDefinition} {c : Constraint} (h : c ∈ d.constraints) :
    c.text.toList <:+: d.text.toList := by
  rw [text, String.toList_append, String.toList_append]
  exact (Constraint.infix_joined h).trans
    ((List.suffix_append _ _).trans (List.suffix_append _ _)).isInfix

end ColumnDefinition

/-! ## Tables -/

/-- A table that is created with its columns. -/
structure Creation where
  /-- what stands between the brackets of the name -/
  table : List Char
  columns : List ColumnDefinition
deriving DecidableEq, Repr

namespace Creation

/-- The written form of a CREATE TABLE statement. -/
def text (s : Creation) : String :=
  "CREATE TABLE " ++ (nameText s.table ++
    (" " ++ ("(" ++ ", ".intercalate (s.columns.map ColumnDefinition.text) ++ ")")))

/-- The tokens of a CREATE TABLE statement. -/
def tokens (s : Creation) : List Token :=
  .keyword "CREATE" :: .keyword "TABLE" :: .name s.table ::
    listed (s.columns.map ColumnDefinition.tokens)

/-- The table that the tokens create. -/
def read? : List Token → Option Creation
  | create :: kind :: .name table :: ts => do
    let (items, rest) ← list? ts
    let columns ← items.mapM ColumnDefinition.read?
    if create = .keyword "CREATE" ∧ kind = .keyword "TABLE" ∧ rest.isEmpty then
      some { table, columns }
    else none
  | _ => none

theorem read?_tokens {s : Creation} (hne : s.columns ≠ []) : read? s.tokens = some s := by
  have hlist := list?_listed (by simpa using hne)
    (List.forall_mem_map.2 fun d (_ : d ∈ s.columns) => d.isItem_tokens) []
  have hcolumns := mapM_read ColumnDefinition.read?_tokens s.columns
  rw [List.append_nil] at hlist
  simp only [tokens, read?, hlist, Option.bind_eq_bind, Option.bind_some, hcolumns]
  rfl

/-- **A table is read from the statement that creates it.** -/
theorem read?_text {s : Creation} (hne : s.columns ≠ []) (htable : ']' ∉ s.table)
    (h : ∀ d ∈ s.columns, d.IsReadable) : (tokens? s.text.toList).bind read? = some s := by
  have hstart : scan .between "CREATE TABLE ".toList =
      ([.keyword "CREATE", .keyword "TABLE"], .between) := by decide +kernel
  have hcolumns := continues_listed fun d hd => ColumnDefinition.tokens?_text (h d hd)
  rw [text, String.toList_append, tokens?_append_of_between hstart, String.toList_append,
    tokens?_append_of_between (scan_nameText htable), hcolumns.tokens?_eq]
  exact read?_tokens hne

theorem infix_commas {texts : List String} {t : String} (h : t ∈ texts) :
    t.toList <:+: (", ".intercalate texts).toList := by
  induction texts with
  | nil => cases h
  | cons u texts ih =>
    cases texts with
    | nil =>
      obtain rfl := List.mem_singleton.1 h
      simp
    | cons v texts =>
      rw [String.intercalate_cons_cons, String.toList_append]
      obtain rfl | h := List.mem_cons.1 h
      · rw [String.toList_append, List.append_assoc]
        exact (List.prefix_append _ _).isInfix
      · exact (ih h).trans (List.suffix_append _ _).isInfix

/-- **The words of a constraint stand in the statement**, whatever the names hold. -/
theorem infix_of_mem {s : Creation} {d : ColumnDefinition} (hd : d ∈ s.columns) {c : Constraint}
    (hc : c ∈ d.constraints) : c.text.toList <:+: s.text.toList := by
  have hcolumn := (d.infix_of_mem hc).trans (infix_commas (List.mem_map_of_mem hd))
  have hlist := hcolumn.trans (List.infix_append "(".toList _ ")".toList)
  simp only [text, String.toList_append]
  exact hlist.trans ((List.suffix_append _ _).trans
    ((List.suffix_append _ _).trans (List.suffix_append _ _))).isInfix

end Creation

end QuerySql.Sql
