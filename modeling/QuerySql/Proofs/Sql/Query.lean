/-
  SELECT statements read clause by clause.

  `Query.read?` reads the clauses of a SELECT (`clauses?`): the selected columns and
  aggregates, the table, the condition, the grouping columns, the order, and the
  numbers behind TOP, OFFSET and FETCH.  `Query.part` is what a query has behind the
  word of each clause, and it is read back from there (`Query.read?_orderedClauses`).
  `Query.page` is what the three numbers keep of the rows.
-/
import QuerySql.Proofs.Number.Digits
import QuerySql.Proofs.Sql.Clause
import QuerySql.Proofs.Sql.Items
import QuerySql.Proofs.Sql.Test
import QuerySql.Proofs.Text.Quoted
import QuerySql.SortOrder

namespace QuerySql.Sql

open Test (columnToken)

/-! ## Names and numbers -/

namespace Token

/-- The name that was put in brackets: the inverse of `Text.bracketed`, which doubles the quotes
    of a name.  What stands between the brackets, and is the name as the server takes it, is the
    name of the token. -/
def name? : Token → Option String
  | .name n => some (String.ofList (Text.halveQuotes n))
  | _ => none

/-- The number that digits stand for. -/
def number? : Token → Option Nat
  | .word w => if w.all Char.isDigit then some (Number.digitsValue w) else none
  | _ => none

/-- The token of a number. -/
def number (n : Nat) : Token := .word (Number.digits n)

@[simp] theorem name?_columnToken (column : String) : (columnToken column).name? = some column := by
  simp [columnToken, name?]

@[simp] theorem number?_number (n : Nat) : (number n).number? = some n := by
  have hdigits : (Number.digits n).all Char.isDigit = true :=
    List.all_eq_true.2 fun _ => Number.isDigit_of_mem_digits
  simp [number, number?, hdigits]

end Token

/-! ## Items -/

/-- Functions of the values of a column. -/
inductive Aggregate where
  | sum
  /-- of the values as floats -/
  | average
  | max
  | min
deriving DecidableEq, Repr

/-- An item of the list behind SELECT. -/
inductive SelectItem where
  | column (name : String)
  /-- an aggregate of a column, under a name -/
  | aggregate (function : Aggregate) (column name : String)
deriving DecidableEq, Repr

namespace SelectItem

/-- A call of a function on a column, under a name. -/
def call (word : String) (operand : List Token) (name : String) : List Token :=
  .keyword word :: .mark '(' :: (operand ++ [.mark ')', .keyword "AS", columnToken name])

/-- The tokens of an item. -/
def tokens : SelectItem → List Token
  | column c => [columnToken c]
  | aggregate .sum c n => call "SUM" [columnToken c] n
  | aggregate .average c n =>
    call "AVG" [.keyword "CAST", .mark '(', columnToken c, .keyword "AS", .keyword "FLOAT",
      .mark ')'] n
  | aggregate .max c n => call "MAX" [columnToken c] n
  | aggregate .min c n => call "MIN" [columnToken c] n

/-- The function with an operand that is a column alone. -/
def function? (word : Token) : Option Aggregate :=
  if word = .keyword "SUM" then some .sum
  else if word = .keyword "MAX" then some .max
  else if word = .keyword "MIN" then some .min
  else none

/-- The item that tokens are read as.  Only the average has an operand that is not a column
    alone. -/
def read? : List Token → Option SelectItem
  | [c] => c.name?.map .column
  | [f, .mark '(', c, .mark ')', as, n] =>
    if as = .keyword "AS" then do return .aggregate (← function? f) (← c.name?) (← n.name?)
    else none
  | [f, .mark '(', cast, .mark '(', c, as, type, .mark ')', .mark ')', as', n] =>
    if [f, cast, as, type, as'] = ["AVG", "CAST", "AS", "FLOAT", "AS"].map .keyword then do
      return .aggregate .average (← c.name?) (← n.name?)
    else none
  | _ => none

theorem read?_tokens (i : SelectItem) : read? i.tokens = some i := by
  cases i with
  | column c => simp [tokens, read?]
  | aggregate f c n =>
    have hwords : function? (.keyword "SUM") = some .sum ∧ function? (.keyword "MAX") = some .max ∧
      function? (.keyword "MIN") = some .min := by decide
    cases f <;> simp [tokens, call, read?, hwords]

theorem isItem_tokens (i : SelectItem) : isItem 0 i.tokens = true := by
  cases i with
  | column c => rfl
  | aggregate f c n => cases f <;> rfl

end SelectItem

/-- An item of the list behind ORDER BY. -/
inductive OrderItem where
  | column (name : String) (direction : Direction)
  /-- the value of `@@IDENTITY` -/
  | identity
deriving DecidableEq, Repr

namespace OrderItem

/-- The tokens of an item. -/
def tokens : OrderItem → List Token
  | column c d => [columnToken c, .keyword d.sqlText]
  | identity => [.keyword "@@IDENTITY"]

/-- The direction that a word stands for. -/
def direction? (word : Token) : Option Direction :=
  if word = .keyword "ASC" then some .ascending
  else if word = .keyword "DESC" then some .descending
  else none

/-- The item that tokens are read as. -/
def read? : List Token → Option OrderItem
  | [word] => if word = .keyword "@@IDENTITY" then some identity else none
  | [c, word] => do return .column (← c.name?) (← direction? word)
  | _ => none

theorem read?_tokens (i : OrderItem) : read? i.tokens = some i := by
  cases i with
  | column c d =>
    have hdirection : direction? (.keyword d.sqlText) = some d := by cases d <;> decide
    simp [tokens, read?, hdirection]
  | identity => rfl

theorem isItem_tokens (i : OrderItem) : isItem 0 i.tokens = true := by
  cases i with
  | column c d => cases d <;> rfl
  | identity => rfl

end OrderItem

section

variable {α : Type} {read : List Token → Option α} {tokens : α → List Token}

/-- The items that tokens with commas between them are read as. -/
def readItems? (read : List Token → Option α) (ts : List Token) : Option (List α) :=
  (splitItems 0 ts).mapM read

/-- The items behind BY, of which there are none without tokens. -/
def readBy? (read : List Token → Option α) : List Token → Option (List α)
  | [] => some []
  | word :: ts => if word = .keyword "BY" then readItems? read ts else none

/-- Items behind BY. -/
def byTokens (tokens : α → List Token) (l : List α) : List Token :=
  if l.isEmpty then [] else .keyword "BY" :: itemTokens (l.map tokens)

theorem byTokens_of_ne_nil {l : List α} (hne : l ≠ []) :
    byTokens tokens l = .keyword "BY" :: itemTokens (l.map tokens) :=
  if_neg (by simpa using hne)

theorem readItems?_itemTokens (hread : ∀ a, read (tokens a) = some a)
    (hitem : ∀ a, isItem 0 (tokens a) = true) {l : List α} (hne : l ≠ []) :
    readItems? read (itemTokens (l.map tokens)) = some l := by
  rw [readItems?, splitItems_itemTokens (mt List.map_eq_nil_iff.1 hne)
    (List.forall_mem_map.2 fun a _ => hitem a)]
  exact mapM_read hread l

theorem readBy?_byTokens (hread : ∀ a, read (tokens a) = some a)
    (hitem : ∀ a, isItem 0 (tokens a) = true) (l : List α) :
    readBy? read (byTokens tokens l) = some l := by
  cases l with
  | nil => rfl
  | cons a l => exact readItems?_itemTokens hread hitem (List.cons_ne_nil a l)

end

/-! ## Queries -/

/-- A SELECT, as it is read. -/
structure Query where
  top : Option Nat
  /-- none for all columns -/
  columns : Option (List SelectItem)
  table : String
  /-- the tokens behind WHERE -/
  condition : List Token
  groups : List String
  order : List OrderItem
  offset : Option Nat
  fetch : Option Nat
deriving DecidableEq, Repr

namespace Query

/-- What is selected: everything, or items. -/
def readColumns? (ts : List Token) : Option (Option (List SelectItem)) :=
  if ts = [.keyword "*"] then some none else (readItems? SelectItem.read? ts).map some

/-- The number behind TOP, and what is selected. -/
def readSelection? : List Token → Option (Option Nat × Option (List SelectItem))
  | word :: n :: ts =>
    if word = .keyword "TOP" then do return (some (← n.number?), ← readColumns? ts)
    else (readColumns? (word :: n :: ts)).map (none, ·)
  | ts => (readColumns? ts).map (none, ·)

/-- The name that is the only token. -/
def readName? : List Token → Option String
  | [t] => t.name?
  | _ => none

/-- The number of rows that are skipped. -/
def readOffset? : List Token → Option (Option Nat)
  | [] => some none
  | [n, word] => if word = .keyword "ROWS" then n.number?.map some else none
  | _ => none

/-- The number of rows that are fetched. -/
def readFetch? : List Token → Option (Option Nat)
  | [] => some none
  | [word, n, word', word''] =>
    if [word, word', word''] = ["NEXT", "ROWS", "ONLY"].map .keyword then n.number?.map some
    else none
  | _ => none

/-- The query that the clauses of a SELECT are read as. -/
def read? (parts : List (Clause × List Token)) : Option Query := do
  let part (k : Clause) := (parts.lookup k).getD []
  let (top, columns) ← readSelection? (part .selection)
  let table ← readName? (part .source)
  let groups ← readBy? readName? (part .grouping)
  let order ← readBy? OrderItem.read? (part .order)
  let offset ← readOffset? (part .offset)
  let fetch ← readFetch? (part .fetch)
  return { top, columns, table, condition := part .restriction, groups, order, offset, fetch }

/-- The rows that a query returns, of those that it would return without TOP, OFFSET
    and FETCH. -/
def page {α : Type} (q : Query) (rows : List α) : List α :=
  let first := q.top.elim rows rows.take
  let rest := q.offset.elim first first.drop
  q.fetch.elim rest rest.take

/-! ### Writing -/

/-- What stands behind the word of a clause. -/
def part (q : Query) : Clause → List Token
  | .selection => q.top.elim [] (fun n => [.keyword "TOP", .number n]) ++
    q.columns.elim [.keyword "*"] fun items => itemTokens (items.map SelectItem.tokens)
  | .source => [columnToken q.table]
  | .restriction => q.condition
  | .grouping => byTokens (fun c => [columnToken c]) q.groups
  | .order => byTokens OrderItem.tokens q.order
  | .offset => q.offset.elim [] fun n => [.number n, .keyword "ROWS"]
  | .fetch => q.fetch.elim [] fun n =>
    [.keyword "NEXT", .number n, .keyword "ROWS", .keyword "ONLY"]

/-- The query selects items, and its condition has no word of another clause. -/
structure IsReadable (q : Query) : Prop where
  columns : q.columns ≠ some []
  condition : ∀ t ∈ q.condition, Clause.ofToken? t = none

/-- A list of selected items starts neither with TOP nor with `*`. -/
theorem head_itemTokens {items : List SelectItem} (hne : items ≠ []) :
    ∃ t ts, itemTokens (items.map SelectItem.tokens) = t :: ts ∧ t ≠ .keyword "TOP" ∧
      t ≠ .keyword "*" := by
  have hhead : ∀ i : SelectItem, ∃ t ts, i.tokens = t :: ts ∧ t ≠ .keyword "TOP" ∧
      t ≠ .keyword "*" := by
    intro i
    cases i with
    | column c => exact ⟨_, _, rfl, nofun, nofun⟩
    | aggregate f c n => cases f <;> exact ⟨_, _, rfl, by decide, by decide⟩
  obtain ⟨i, items, rfl⟩ := List.exists_cons_of_ne_nil hne
  obtain ⟨t, ts, hi, ht⟩ := hhead i
  cases items with
  | nil => exact ⟨t, ts, by simpa [itemTokens] using hi, ht⟩
  | cons j items =>
    refine ⟨t, ts ++ .mark ',' :: itemTokens ((j :: items).map SelectItem.tokens), ?_, ht⟩
    rw [List.map_cons, List.map_cons, itemTokens_cons_cons, hi]
    rfl

theorem readSelection?_part {q : Query} (h : q.columns ≠ some []) :
    readSelection? (q.part .selection) = some (q.top, q.columns) := by
  obtain ⟨t, ts, hts, htop, hcolumns⟩ : ∃ t ts, (q.columns.elim [.keyword "*"] fun items =>
      itemTokens (items.map SelectItem.tokens)) = t :: ts ∧ t ≠ .keyword "TOP" ∧
        readColumns? (t :: ts) = some q.columns := by
    cases hcols : q.columns with
    | none => exact ⟨_, _, rfl, by decide, rfl⟩
    | some items =>
      have hne : items ≠ [] := fun hnil => h (by rw [hcols, hnil])
      obtain ⟨t, ts, hts, htop, hstar⟩ := head_itemTokens hne
      refine ⟨t, ts, hts, htop, ?_⟩
      have hread := readItems?_itemTokens SelectItem.read?_tokens SelectItem.isItem_tokens hne
      rw [hts] at hread
      rw [readColumns?, if_neg fun heq => hstar (List.cons.inj heq).1, hread]
      rfl
  rw [part, hts]
  cases q.top with
  | none =>
    cases ts with
    | nil => simp [readSelection?, hcolumns]
    | cons t' ts => simp [readSelection?, htop, hcolumns]
  | some n => simp [readSelection?, hcolumns]

theorem part_selection_ne_nil {q : Query} (h : q.columns ≠ some []) : q.part .selection ≠ [] := by
  intro hnil
  have hread := readSelection?_part h
  rw [hnil] at hread
  cases hread

theorem readName?_columnToken (c : String) : readName? [columnToken c] = some c :=
  Token.name?_columnToken c

theorem readOffset?_part (q : Query) : readOffset? (q.part .offset) = some q.offset := by
  rw [part]
  cases q.offset <;> simp [readOffset?]

theorem readFetch?_part (q : Query) : readFetch? (q.part .fetch) = some q.fetch := by
  rw [part]
  cases q.fetch <;> simp [readFetch?]

/-- **A query is read back from its clauses.** -/
theorem read?_orderedClauses {q : Query} (h : q.IsReadable) :
    read? (orderedClauses q.part) = some q := by
  have hgroups : readBy? readName? (q.part .grouping) = some q.groups :=
    readBy?_byTokens readName?_columnToken (fun _ => rfl) q.groups
  have horder : readBy? OrderItem.read? (q.part .order) = some q.order :=
    readBy?_byTokens OrderItem.read?_tokens OrderItem.isItem_tokens q.order
  have htable : readName? (q.part .source) = some q.table := readName?_columnToken q.table
  simp only [read?, lookup_orderedClauses, readSelection?_part h.columns, hgroups, horder, htable,
    readOffset?_part, readFetch?_part, Option.bind_eq_bind, Option.bind_some]
  rfl

end Query

/-! ## Words of clauses -/

theorem ofToken?_columnToken (c : String) : Clause.ofToken? (columnToken c) = none :=
  Clause.ofToken?_eq_none.2 fun _ => nofun

theorem ofToken?_number (n : Nat) : Clause.ofToken? (.number n) = none := by
  rw [Clause.ofToken?_eq_none]
  intro k h
  have hword : Number.digits n = k.word.toList := by simpa [Token.number, Token.keyword] using h
  have hdigits : k.word.toList.all Char.isDigit = true :=
    hword ▸ List.all_eq_true.2 fun _ => Number.isDigit_of_mem_digits
  cases k <;> exact absurd hdigits (by decide)

theorem ofToken?_literal (l : Literal) : Clause.ofToken? l.token = none := by
  rw [Clause.ofToken?_eq_none]
  intro k h
  cases l with
  | word w bare =>
    have hword : w = k.word.toList := by simpa [Literal.token, Token.keyword] using h
    refine bare.ne_keyword ?_ ?_ hword
    · cases k <;> decide
    · intro c hc
      cases k <;> cases hc <;> rfl
  | string s => cases h

/-- No word of a clause stands in a condition, outside of names and strings. -/
theorem Token.OfCondition.ofToken?_eq_none {t : Token} (h : t.OfCondition) :
    Clause.ofToken? t = none := by
  cases h with
  | name => exact Clause.ofToken?_eq_none.2 fun _ => nofun
  | literal l => exact ofToken?_literal l
  | fixed hmem =>
    have hall : ∀ t ∈ conditionWords, Clause.ofToken? t = none := by decide +kernel
    exact hall t hmem

theorem ofToken?_of_mem_itemTokens {items : List (List Token)}
    (h : ∀ item ∈ items, ∀ t ∈ item, Clause.ofToken? t = none) :
    ∀ t ∈ itemTokens items, Clause.ofToken? t = none :=
  forall_mem_intercalate (by decide) h

theorem ofToken?_of_mem_byTokens {α : Type} {tokens : α → List Token}
    (h : ∀ a, ∀ t ∈ tokens a, Clause.ofToken? t = none) (l : List α) :
    ∀ t ∈ byTokens tokens l, Clause.ofToken? t = none := by
  unfold byTokens
  split
  · exact nofun
  · refine List.forall_mem_cons.2 ⟨by decide, ofToken?_of_mem_itemTokens ?_⟩
    exact List.forall_mem_map.2 fun a _ => h a

theorem SelectItem.ofToken?_of_mem_tokens (i : SelectItem) :
    ∀ t ∈ i.tokens, Clause.ofToken? t = none := by
  have hcall : ∀ {word : String} {operand : List Token} {name : String},
      Clause.ofToken? (.keyword word) = none → (∀ t ∈ operand, Clause.ofToken? t = none) →
      ∀ t ∈ call word operand name, Clause.ofToken? t = none := by
    intro word operand name hword hoperand
    refine List.forall_mem_cons.2 ⟨hword, List.forall_mem_cons.2 ⟨by decide, ?_⟩⟩
    refine List.forall_mem_append.2 ⟨hoperand, ?_⟩
    simp only [List.forall_mem_cons]
    exact ⟨by decide, by decide, ofToken?_columnToken name, nofun⟩
  cases i with
  | column c => exact List.forall_mem_singleton.2 (ofToken?_columnToken c)
  | aggregate f c n =>
    have hcolumn : ∀ t ∈ [columnToken c], Clause.ofToken? t = none :=
      List.forall_mem_singleton.2 (ofToken?_columnToken c)
    cases f with
    | sum | max | min => exact hcall (by decide) hcolumn
    | average =>
      refine hcall (by decide) ?_
      simp only [List.forall_mem_cons]
      exact ⟨by decide, by decide, ofToken?_columnToken c, by decide, by decide, by decide, nofun⟩

theorem OrderItem.ofToken?_of_mem_tokens (i : OrderItem) :
    ∀ t ∈ i.tokens, Clause.ofToken? t = none := by
  cases i with
  | column c d =>
    refine List.forall_mem_cons.2 ⟨ofToken?_columnToken c, ?_⟩
    cases d <;> decide
  | identity => decide

namespace Query

theorem ofToken?_of_mem_part {q : Query} (h : q.IsReadable) (k : Clause) :
    ∀ t ∈ q.part k, Clause.ofToken? t = none := by
  cases k with
  | selection =>
    refine List.forall_mem_append.2 ⟨?_, ?_⟩
    · cases q.top with
      | none => exact nofun
      | some n =>
        exact List.forall_mem_cons.2 ⟨by decide, List.forall_mem_singleton.2 (ofToken?_number n)⟩
    · cases q.columns with
      | none => decide
      | some items =>
        refine ofToken?_of_mem_itemTokens (List.forall_mem_map.2 ?_)
        exact fun i _ => i.ofToken?_of_mem_tokens
  | source => exact List.forall_mem_singleton.2 (ofToken?_columnToken q.table)
  | restriction => exact h.condition
  | grouping =>
    exact ofToken?_of_mem_byTokens (fun c => List.forall_mem_singleton.2 (ofToken?_columnToken c)) _
  | order => exact ofToken?_of_mem_byTokens OrderItem.ofToken?_of_mem_tokens _
  | offset =>
    rw [part]
    cases q.offset with
    | none => exact nofun
    | some n => exact List.forall_mem_cons.2 ⟨ofToken?_number n, by decide⟩
  | fetch =>
    rw [part]
    cases q.fetch with
    | none => exact nofun
    | some n =>
      simp only [Option.elim_some, List.forall_mem_cons]
      exact ⟨by decide, ofToken?_number n, by decide, by decide, nofun⟩

/-- The tokens of a query: its clauses in the order of a statement. -/
def tokens (q : Query) : List Token := Clause.all.flatMap (worded q.part)

/-- **A query is read back from its tokens**, clause by clause. -/
theorem read?_tokens {q : Query} (h : q.IsReadable) :
    clauses? q.tokens = some (orderedClauses q.part) ∧ read? (orderedClauses q.part) = some q := by
  refine ⟨?_, read?_orderedClauses h⟩
  rw [tokens, ← clauseTokens_orderedClauses]
  refine clauses?_clauseTokens ?_
  intro p hp
  obtain ⟨k, -, rfl⟩ := List.mem_map.1 hp
  exact ofToken?_of_mem_part h k

end Query

end QuerySql.Sql
