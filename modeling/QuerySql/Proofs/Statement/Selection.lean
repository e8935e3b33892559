/-
  SELECT statements are read back.

  `Criteria.query` is the query that criteria ask for: the selected and grouping
  columns and the aggregates, the sorted columns, and the numbers of the pages.  The
  text of a SELECT is read as this query, clause by clause
  (`Criteria.selectText_readable`), whatever words and marks its names and values
  hold, and the query returns the rows that the criteria ask for (`Criteria.page`).
-/
import QuerySql.Proofs.Condition.Grammar
import QuerySql.Proofs.Condition.Meaning
import QuerySql.Proofs.SortOrder.Words
import QuerySql.Proofs.Sql.Query

namespace QuerySql

open Sql (Token tokens? scan Continues Separates Clause Query SelectItem OrderItem worded)
open Sql.Test (columnToken)

/-! ## What criteria ask for -/

/-- The columns that a sort names, with their directions; none for a text that is not
    a sort. -/
def SortOrder.terms : SortOrder → List (String × Direction)
  | .expression text => (ofExpression text).toOption.toList
  | .columns sorted => sorted

namespace Criteria

/-- The columns that the rows are sorted by, with their directions. -/
def sortTerms (c : Criteria) : List (String × Direction) := c.sort.elim [] SortOrder.terms

/-- The selected columns, then the grouping columns that are not among them, then the
    aggregates, each under the name of its column. -/
def selectItems (c : Criteria) : List SelectItem :=
  c.select.map .column
    ++ (c.groupBy.filter (· ∉ c.select)).map .column
    ++ c.sum.map (fun n => .aggregate .sum n n)
    ++ c.average.map (fun n => .aggregate .average n n)
    ++ c.max.map (fun n => .aggregate .max n n)
    ++ c.min.map (fun n => .aggregate .min n n)

/-- The sorted columns; without any, rows are only put into an order if some of them
    are skipped. -/
def orderItems (c : Criteria) : List OrderItem :=
  if c.sortTerms.isEmpty then
    if c.skip.getD 0 = 0 then [] else [.identity]
  else c.sortTerms.map fun t => .column t.1 t.2

/-- The rows behind those that are skipped, up to the limit.  Zero is the same as no
    number. -/
def page {α : Type} (c : Criteria) (rows : List α) : List α :=
  let rest := rows.drop (c.skip.getD 0).toNat
  if c.limit.getD 0 = 0 then rest else rest.take (c.limit.getD 0).toNat

/-- The query that criteria ask for. -/
def query (table : String) (c : Criteria) : Query where
  top := if c.offset?.isSome then none else c.rowLimit?.map UInt64.toNat
  columns := if c.selectItems.isEmpty then none else some c.selectItems
  table := table
  condition := if c.requirements.isEmpty then [] else c.combined.render .tokens
  groups := c.groupBy
  order := c.orderItems
  offset := c.offset?.map UInt64.toNat
  fetch := if c.offset?.isSome then c.rowLimit?.map UInt64.toNat else none

/-- No name of a column has a closing bracket. -/
structure HasPlainNames (c : Criteria) : Prop where
  leaves : ∀ l ∈ c.leaves, ']' ∉ l.column.toList
  select : ∀ n ∈ c.select, ']' ∉ n.toList
  groupBy : ∀ n ∈ c.groupBy, ']' ∉ n.toList
  sum : ∀ n ∈ c.sum, ']' ∉ n.toList
  average : ∀ n ∈ c.average, ']' ∉ n.toList
  max : ∀ n ∈ c.max, ']' ∉ n.toList
  min : ∀ n ∈ c.min, ']' ∉ n.toList
  sort : ∀ t ∈ c.sortTerms, ']' ∉ t.1.toList

/-! ### Pages -/

theorem filter_pos_eq (n? : Option UInt64) :
    n?.filter (0 < ·) = if n?.getD 0 = 0 then none else some (n?.getD 0) := by
  cases n? with
  | none => rfl
  | some n =>
    by_cases hn : n = 0
    · simp [hn]
    · have hpos : 0 < n := UInt64.pos_iff_ne_zero.2 hn
      simp [hn, hpos]

theorem offset?_eq (c : Criteria) :
    c.offset? = if c.skip.getD 0 = 0 then none else some (c.skip.getD 0) := filter_pos_eq c.skip

theorem rowLimit?_eq (c : Criteria) :
    c.rowLimit? = if c.limit.getD 0 = 0 then none else some (c.limit.getD 0) := filter_pos_eq c.limit

/-- **The query returns the rows that the criteria ask for.** -/
theorem page_query {α : Type} (table : String) (c : Criteria) (rows : List α) :
    (c.query table).page rows = c.page rows := by
  unfold query Query.page page
  rw [offset?_eq, rowLimit?_eq]
  by_cases hskip : c.skip.getD 0 = 0 <;> by_cases hlimit : c.limit.getD 0 = 0 <;>
    simp [hskip, hlimit]

end Criteria

/-! ## Texts of items -/

namespace Sql

theorem tokens?_natText (n : Nat) : tokens? (Number.natText n).toList = some [.number n] := by
  rw [Number.toList_natText]
  refine tokens?_word (Number.digits_ne_nil n) fun c hc => ?_
  exact isWordChar_of_isNumeric (isNumeric_of_mem_digits hc)

namespace SelectItem

/-- The written form of an item; an aggregate has the name of its column. -/
def text : SelectItem → String
  | column c => Text.bracketed c
  | aggregate .sum c _ => Criteria.aggregate "SUM(" ")" c
  | aggregate .average c _ => Criteria.aggregate "AVG(CAST(" " AS FLOAT))" c
  | aggregate .max c _ => Criteria.aggregate "MAX(" ")" c
  | aggregate .min c _ => Criteria.aggregate "MIN(" ")" c

/-- No name has a closing bracket, and an aggregate has the name of its column. -/
def IsPlain : SelectItem → Prop
  | column c => ']' ∉ c.toList
  | aggregate _ c n => ']' ∉ c.toList ∧ n = c

theorem tokens?_aggregate {before after : String} {opening closing : List Token}
    (hbefore : scan .between before.toList = (opening, .between)) (hafter : Continues after closing)
    {c : String} (hc : ']' ∉ c.toList) :
    tokens? (Criteria.aggregate before after c).toList =
      some (opening ++ columnToken c :: (closing ++ [.keyword "AS", columnToken c])) := by
  have has : Separates " AS " [.keyword "AS"] := ⟨rfl, ' ', rfl, rfl⟩
  have hname := has.continues (Test.tokens?_bracketed hc)
  have hrest := (hafter.append hname).behind (Test.tokens?_bracketed hc)
  rw [Criteria.aggregate, String.append_assoc, String.append_assoc, String.append_assoc,
    String.toList_append, tokens?_append_of_between hbefore, hrest]
  simp

theorem tokens?_text {i : SelectItem} (h : i.IsPlain) : tokens? i.text.toList = some i.tokens := by
  cases i with
  | column c => exact Test.tokens?_bracketed h
  | aggregate f c n =>
    obtain ⟨hc, rfl⟩ := h
    cases f with
    | sum =>
      have hbefore : scan .between "SUM(".toList = ([.keyword "SUM", .mark '('], .between) := rfl
      exact tokens?_aggregate hbefore continues_close hc
    | average =>
      have hbefore : scan .between "AVG(CAST(".toList =
          ([.keyword "AVG", .mark '(', .keyword "CAST", .mark '('], .between) := rfl
      have hafter : Continues " AS FLOAT))"
          [.keyword "AS", .keyword "FLOAT", .mark ')', .mark ')'] := ⟨rfl, by rintro c ⟨⟩; rfl⟩
      exact tokens?_aggregate hbefore hafter hc
    | max =>
      have hbefore : scan .between "MAX(".toList = ([.keyword "MAX", .mark '('], .between) := rfl
      exact tokens?_aggregate hbefore continues_close hc
    | min =>
      have hbefore : scan .between "MIN(".toList = ([.keyword "MIN", .mark '('], .between) := rfl
      exact tokens?_aggregate hbefore continues_close hc

end SelectItem

namespace OrderItem

/-- The written form of an item. -/
def text : OrderItem → String
  | column c d => SortOrder.item (c, d)
  | identity => "@@IDENTITY"

/-- The name has no closing bracket. -/
def IsPlain : OrderItem → Prop
  | column c _ => ']' ∉ c.toList
  | identity => True

theorem tokens?_text {i : OrderItem} (h : i.IsPlain) : tokens? i.text.toList = some i.tokens := by
  cases i with
  | column c d =>
    have hdirection : tokens? d.sqlText.toList = some [.keyword d.sqlText] := by cases d <;> decide
    rw [text, SortOrder.item, String.append_assoc]
    exact (continues_blank hdirection).behind (Test.tokens?_bracketed h)
  | identity => decide

end OrderItem

/-- The text of a clause with items behind BY, if there are any. -/
theorem continues_by {part : Clause → List Token} {k : Clause} {before : String}
    (hbefore : Separates before [.keyword k.word, .keyword "BY"]) {α : Type} {l : List α}
    {text : α → String} {item : α → List Token} (hpart : part k = byTokens item l)
    (h : ∀ a ∈ l, tokens? (text a).toList = some (item a)) :
    Continues (if l.isEmpty then "" else before ++ ", ".intercalate (l.map text))
      (worded part k) := by
  cases l with
  | nil =>
    rw [worded_of_eq_nil hpart]
    exact continues_empty
  | cons a l =>
    rw [byTokens_of_ne_nil (List.cons_ne_nil a l)] at hpart
    rw [worded_of_ne_nil (by rw [hpart]; exact List.cons_ne_nil _ _), hpart]
    exact hbefore.continues (tokens?_commas h)

end Sql

/-! ## Texts of sorts -/

namespace SortOrder

theorem terms_of_isEmpty {sort : SortOrder} (h : sort.isEmpty = true) : sort.terms = [] := by
  cases sort with
  | columns sorted => exact List.isEmpty_iff.1 h
  | expression text =>
    have hall : Text.AllBlank text := by simpa [isEmpty] using h
    have hblank : ∀ c ∈ skipBlanks text.toList, Text.isBlank c = true := fun c hc =>
      hall c ((List.dropWhile_sublist _).subset hc)
    obtain ⟨hdash, hword⟩ := dash_word_of_blank fun c hc => hblank c (List.mem_of_mem_head? hc)
    simp [terms, ofExpression, hdash, hword, Except.toOption]

theorem terms_ne_nil {sort : SortOrder} {text : String} (h : sort.sqlText = .ok text)
    (hempty : sort.isEmpty = false) : sort.terms ≠ [] := by
  cases sort with
  | columns sorted =>
    rintro rfl
    cases hempty
  | expression expression =>
    obtain ⟨term, hterm, -⟩ := Except.bind_eq_ok.1 h
    simp [terms, hterm, Except.toOption]

theorem sqlText_eq_ok {sort : SortOrder} {text : String} (h : sort.sqlText = .ok text) :
    text = ", ".intercalate (sort.terms.map item) := by
  cases sort with
  | columns sorted => exact (Except.ok.inj h).symm
  | expression expression =>
    obtain ⟨term, hterm, htext⟩ := Except.bind_eq_ok.1 h
    cases htext
    simp [terms, hterm, Except.toOption]

end SortOrder

/-! ## Texts of clauses -/

namespace Criteria

variable {c : Criteria} {table : String}

theorem columnItems_eq (c : Criteria) : c.columnItems = c.selectItems.map SelectItem.text := by
  have hgroups : (c.groupBy.filter fun column => !c.select.contains column) =
      c.groupBy.filter (· ∉ c.select) := by simp
  simp only [columnItems, selectItems, List.map_append, List.map_map, hgroups]
  rfl

theorem HasPlainNames.isPlain_selectItem (h : c.HasPlainNames) : ∀ i ∈ c.selectItems, i.IsPlain := by
  simp only [selectItems, List.forall_mem_append, List.forall_mem_map]
  refine ⟨⟨⟨⟨⟨h.select, ?_⟩, ?_⟩, ?_⟩, ?_⟩, ?_⟩
  · exact fun n hn => h.groupBy n (List.mem_of_mem_filter hn)
  · exact fun n hn => ⟨h.sum n hn, rfl⟩
  · exact fun n hn => ⟨h.average n hn, rfl⟩
  · exact fun n hn => ⟨h.max n hn, rfl⟩
  · exact fun n hn => ⟨h.min n hn, rfl⟩

theorem HasPlainNames.isPlain_orderItem (h : c.HasPlainNames) : ∀ i ∈ c.orderItems, i.IsPlain := by
  unfold orderItems
  split_ifs
  · exact nofun
  · exact List.forall_mem_singleton.2 trivial
  · exact List.forall_mem_map.2 h.sort

theorem tokens?_columnList (table : String) (h : c.HasPlainNames) :
    tokens? c.columnList.toList = some ((c.query table).columns.elim [.keyword "*"] fun items =>
      Sql.itemTokens (items.map SelectItem.tokens)) := by
  have hitems := Sql.tokens?_commas fun i hi =>
    SelectItem.tokens?_text (h.isPlain_selectItem i hi)
  unfold columnList query
  rw [columnItems_eq]
  cases hselect : c.selectItems with
  | nil => rfl
  | cons i items =>
    rw [hselect] at hitems
    exact hitems

/-- What is read behind SELECT. -/
theorem continues_selection (table : String) (h : c.HasPlainNames) :
    Continues (" " ++ (c.topText ++ c.columnList)) ((c.query table).part .selection) := by
  have hcolumns := tokens?_columnList table h
  refine Sql.continues_blank ?_
  unfold topText
  split
  · next n hlimit hoffset =>
    have htop : (c.query table).top = some n.toNat := by simp [query, hlimit, hoffset]
    have hword : scan .between "TOP ".toList = ([.keyword "TOP"], .between) := rfl
    have hnumber := (Sql.continues_blank hcolumns).behind (Sql.tokens?_natText n.toNat)
    rw [String.append_assoc, String.append_assoc, String.toList_append,
      Sql.tokens?_append_of_between hword, hnumber, Query.part, htop]
    rfl
  · next hnone =>
    have htop : (c.query table).top = none := by
      cases hoffset : c.offset? with
      | some skipped => simp [query, hoffset]
      | none =>
        cases hlimit : c.rowLimit? with
        | none => simp [query, hlimit]
        | some n => exact (hnone n hlimit hoffset).elim
    rw [String.empty_append, hcolumns, Query.part, htop]
    rfl

theorem continues_source (c : Criteria) (htable : ']' ∉ table.toList) :
    Continues (" FROM " ++ Text.bracketed table) (worded (c.query table).part .source) := by
  have hword : Separates " FROM " [.keyword "FROM"] := ⟨rfl, ' ', rfl, rfl⟩
  exact hword.continues (Sql.Test.tokens?_bracketed htable)

/-- A solid filter has tokens. -/
theorem combined_tokens_ne_nil (hsolid : c.IsSolid)
    (h : ∀ l ∈ c.combined.render .leaves, ']' ∉ l.column.toList) :
    c.combined.render .tokens ≠ [] := by
  have hderives := Filter.derives_text (c.combined_solidity hsolid)
  obtain ⟨ts, hts, hcomplete⟩ := hderives.complete (List.forall_mem_map.2 h)
  rw [Filter.tokens?_text h] at hts
  cases hts
  rintro hnil
  rw [hnil] at hcomplete
  exact Sql.not_complete_nil hcomplete

theorem clauses_of_eq_nil (hrequirements : c.requirements = []) (halternatives : c.alternatives = []) :
    c.whereClause ++ c.alternativesClause = "" := by
  unfold requirements at hrequirements
  unfold whereClause alternativesClause
  rw [halternatives]
  revert hrequirements
  match c.filter with
  | none | some [] => exact fun _ => rfl
  | some (p :: f) => exact nofun

theorem continues_restriction (table : String) (h : c.HasPlainNames)
    (hsolid : c.requirements = [] ∧ c.alternatives = [] ∨ c.IsSolid) :
    Continues (c.whereClause ++ c.alternativesClause) (worded (c.query table).part .restriction) := by
  obtain ⟨hrequirements, halternatives⟩ | hsolid := hsolid
  · have hpart : (c.query table).part .restriction = [] := by
      simp [Query.part, query, hrequirements]
    rw [clauses_of_eq_nil hrequirements halternatives, Sql.worded_of_eq_nil hpart]
    exact Sql.continues_empty
  · have hne : c.requirements ≠ [] := (Filter.solidity_iff.1 hsolid.1).1
    have hcolumns : ∀ l ∈ c.combined.render .leaves, ']' ∉ l.column.toList := by
      rw [combined_leaves]
      exact h.leaves
    have hpart : (c.query table).part .restriction = c.combined.render .tokens := by
      simp [Query.part, query, hne]
    have hword : Separates " WHERE " [.keyword "WHERE"] := ⟨rfl, ' ', rfl, rfl⟩
    rw [combined_text hne, Sql.worded_of_ne_nil
      (by rw [hpart]; exact combined_tokens_ne_nil hsolid hcolumns), hpart]
    exact hword.continues (Filter.tokens?_text hcolumns)

theorem continues_group (table : String) (h : c.HasPlainNames) :
    Continues c.groupText (worded (c.query table).part .grouping) := by
  have htext : c.groupText = if c.groupBy.isEmpty then ""
      else " GROUP BY " ++ ", ".intercalate (c.groupBy.map Text.bracketed) := by
    unfold groupText
    cases c.groupBy <;> rfl
  have hwords : Separates " GROUP BY " [.keyword Clause.grouping.word, .keyword "BY"] :=
    ⟨rfl, ' ', rfl, rfl⟩
  have hpart : (c.query table).part .grouping = Sql.byTokens (fun n => [columnToken n]) c.groupBy := rfl
  rw [htext]
  exact Sql.continues_by hwords hpart fun n hn =>
    Sql.Test.tokens?_bracketed (h.groupBy n hn)

theorem sortTerms_of_filter_eq_none (h : (c.sort.filter fun s => !s.isEmpty) = none) :
    c.sortTerms = [] := by
  unfold sortTerms
  cases hsort : c.sort with
  | none => rfl
  | some sort =>
    have hempty : sort.isEmpty = true := by simpa [hsort] using h
    exact SortOrder.terms_of_isEmpty hempty

/-- The text of the order, if it is written. -/
theorem orderText_eq_ok {order : String} (h : c.orderText {} = .ok order) :
    order = if c.orderItems.isEmpty then ""
      else " ORDER BY " ++ ", ".intercalate (c.orderItems.map OrderItem.text) := by
  unfold orderText at h
  split at h
  · next sort hsort =>
    obtain ⟨hsome, hempty⟩ := Option.filter_eq_some_iff.1 hsort
    obtain ⟨text, htext, horder⟩ := Except.bind_eq_ok.1 h
    cases horder
    have hterms : c.sortTerms = sort.terms := by simp [sortTerms, hsome]
    have hne := SortOrder.terms_ne_nil htext (by simpa using hempty)
    simp [orderItems, hterms, hne, SortOrder.sqlText_eq_ok htext, OrderItem.text, Function.comp_def]
  · next hnone =>
    have hterms := sortTerms_of_filter_eq_none hnone
    rw [offset?_eq] at h
    by_cases hskip : c.skip.getD 0 = 0
    · simp only [hskip, if_true] at h
      cases h
      simp [orderItems, hterms, hskip]
    · simp only [hskip, if_false] at h
      cases h
      simp [orderItems, hterms, hskip, OrderItem.text]

theorem continues_order (table : String) (h : c.HasPlainNames) {order : String}
    (horder : c.orderText {} = .ok order) :
    Continues order (worded (c.query table).part .order) := by
  have hwords : Separates " ORDER BY " [.keyword Clause.order.word, .keyword "BY"] :=
    ⟨rfl, ' ', rfl, rfl⟩
  have hpart : (c.query table).part .order = Sql.byTokens OrderItem.tokens c.orderItems := rfl
  rw [orderText_eq_ok horder]
  exact Sql.continues_by hwords hpart fun i hi =>
    OrderItem.tokens?_text (h.isPlain_orderItem i hi)

theorem continues_page (table : String) (c : Criteria) :
    Continues c.pageText
      (worded (c.query table).part .offset ++ worded (c.query table).part .fetch) := by
  have hoffset : Separates " OFFSET " [.keyword "OFFSET"] := ⟨rfl, ' ', rfl, rfl⟩
  unfold pageText
  split
  · next hnone =>
    rw [Sql.worded_of_eq_nil (by simp [Query.part, query, hnone]),
      Sql.worded_of_eq_nil (by simp [Query.part, query, hnone])]
    exact Sql.continues_empty
  · next skipped hskipped hnone =>
    have hrows : Continues " ROWS" [.keyword "ROWS"] := ⟨rfl, by rintro c ⟨⟩; rfl⟩
    have htext := hrows.behind (Sql.tokens?_natText skipped.toNat)
    have hpart : (c.query table).part .offset = [.number skipped.toNat, .keyword "ROWS"] := by
      simp [Query.part, query, hskipped]
    rw [Sql.worded_of_ne_nil (by simp [hpart]), hpart,
      Sql.worded_of_eq_nil (by simp [Query.part, query, hnone]), String.append_assoc]
    exact hoffset.continues htext
  · next skipped n hskipped hlimit =>
    have hfetch : Separates " ROWS FETCH NEXT "
      [.keyword "ROWS", .keyword "FETCH", .keyword "NEXT"] := ⟨rfl, ' ', rfl, rfl⟩
    have hrows : Continues " ROWS ONLY" [.keyword "ROWS", .keyword "ONLY"] :=
      ⟨rfl, by rintro c ⟨⟩; rfl⟩
    have hnext := hfetch.continues (hrows.behind (Sql.tokens?_natText n.toNat))
    have htext := hnext.behind (Sql.tokens?_natText skipped.toNat)
    have hpart : (c.query table).part .offset = [.number skipped.toNat, .keyword "ROWS"] ∧
        (c.query table).part .fetch =
          [.keyword "NEXT", .number n.toNat, .keyword "ROWS", .keyword "ONLY"] := by
      simp [Query.part, query, hskipped, hlimit]
    rw [Sql.worded_of_ne_nil (by simp [hpart.1]), hpart.1,
      Sql.worded_of_ne_nil (by simp [hpart.2]), hpart.2, String.append_assoc, String.append_assoc,
      String.append_assoc]
    exact hoffset.continues htext

end Criteria

/-! ## Statements -/

namespace Criteria

variable {c : Criteria} {table : String}

/-- The text of a SELECT, if it is written. -/
theorem selectText_of_outcome_eq {settings : Settings} {r s : Recorder} {text : String}
    (h : (c.selectText settings table).outcome r = (.ok text, s)) :
    ∃ order, c.orderText settings = .ok order ∧
      text = "SELECT " ++ c.topText ++ c.columnList ++ " FROM " ++ Text.bracketed table ++
        (c.whereClause ++ c.alternativesClause) ++ c.groupText ++ order ++ c.pageText := by
  have hrest := c.restriction_concludes.outcome_of_bind h
  have hread := Compile.ends_ofExcept (c.orderText settings)
  cases horder : c.orderText settings with
  | error e =>
    rw [horder] at hread hrest
    rw [(hread.bind_error _).outcome_eq] at hrest
    cases hrest
  | ok order =>
    rw [horder] at hread hrest
    rw [(hread.map _).outcome_eq] at hrest
    cases hrest
    exact ⟨order, rfl, rfl⟩

theorem query_isReadable (c : Criteria) (table : String) : (c.query table).IsReadable where
  columns := by
    simp only [query]
    split
    · exact nofun
    · next hne =>
      intro heq
      rw [Option.some.inj heq] at hne
      exact hne rfl
  condition := by
    simp only [query]
    split
    · exact nofun
    · exact fun t ht => (c.combined.ofCondition_of_mem_tokens t ht).ofToken?_eq_none

/-- **The tokens of a SELECT** are those of the query that the criteria ask for. -/
theorem tokens?_selectText (htable : ']' ∉ table.toList) (hnames : c.HasPlainNames)
    (hsolid : c.requirements = [] ∧ c.alternatives = [] ∨ c.IsSolid) {r s : Recorder} {text : String}
    (h : (c.selectText {} table).outcome r = (.ok text, s)) :
    tokens? text.toList = some (c.query table).tokens := by
  obtain ⟨order, horder, rfl⟩ := selectText_of_outcome_eq h
  have hselect : tokens? "SELECT".toList = some [.keyword "SELECT"] := rfl
  have hpage := (continues_order table hnames horder).append (continues_page table c)
  have hrest := (continues_restriction table hnames hsolid).append
    ((continues_group table hnames).append hpage)
  have hclauses := ((continues_selection table hnames).append
    ((continues_source c htable).append hrest)).behind hselect
  have hblank : "SELECT " = "SELECT" ++ " " := rfl
  have htokens : (c.query table).tokens = .keyword "SELECT" :: ((c.query table).part .selection ++
      (worded (c.query table).part .source ++ (worded (c.query table).part .restriction ++
        (worded (c.query table).part .grouping ++ (worded (c.query table).part .order ++
          (worded (c.query table).part .offset ++ worded (c.query table).part .fetch)))))) := by
    have hselection := Query.part_selection_ne_nil (c.query_isReadable table).columns
    simp only [Query.tokens, Clause.all, List.flatMap_cons, List.flatMap_nil, List.append_nil,
      Sql.worded_of_ne_nil hselection]
    rfl
  rw [htokens, hblank]
  simpa only [String.append_assoc, List.singleton_append] using hclauses

/-- The clauses behind FROM. -/
def laterClauses (table : String) (c : Criteria) : List Clause :=
  [.restriction, .grouping, .order, .offset, .fetch].filter fun k => !((c.query table).part k).isEmpty

theorem map_fst_clauses (table : String) (c : Criteria) :
    (Sql.orderedClauses (c.query table).part).map Prod.fst =
      .selection :: .source :: c.laterClauses table := by
  have hselection := Query.part_selection_ne_nil (c.query_isReadable table).columns
  have hsource : (c.query table).part .source ≠ [] := List.cons_ne_nil _ _
  rw [Sql.map_fst_orderedClauses, Clause.all, List.filter_cons_of_pos (by simpa using hselection),
    List.filter_cons_of_pos (by simpa using hsource)]
  rfl

theorem mem_laterClauses_offset : .offset ∈ c.laterClauses table ↔ c.skip.getD 0 ≠ 0 := by
  simp only [laterClauses, List.mem_filter, Query.part, query, offset?_eq]
  by_cases hskip : c.skip.getD 0 = 0 <;> simp [hskip]

theorem orderItems_ne_nil (h : c.skip.getD 0 ≠ 0) : c.orderItems ≠ [] := by
  unfold orderItems
  split_ifs with hterms
  · exact List.cons_ne_nil _ _
  · simpa using hterms

/-- OFFSET stands directly behind ORDER BY. -/
theorem order_offset_infix (h : .offset ∈ c.laterClauses table) :
    [.order, .offset] <:+: c.laterClauses table := by
  have hoffset : (!((query table c).part .offset).isEmpty) = true := (List.mem_filter.1 h).2
  have horder : (!((query table c).part .order).isEmpty) = true := by
    have hne := orderItems_ne_nil (mem_laterClauses_offset.1 h)
    rw [Query.part, query, Sql.byTokens_of_ne_nil hne]
    rfl
  have hpair : [Clause.order, .offset].filter (fun k => !((query table c).part k).isEmpty) =
      [.order, .offset] :=
    List.filter_eq_self.2 (List.forall_mem_cons.2 ⟨horder, List.forall_mem_singleton.2 hoffset⟩)
  refine ⟨[Clause.restriction, .grouping].filter fun k => !((query table c).part k).isEmpty,
    [Clause.fetch].filter fun k => !((query table c).part k).isEmpty, ?_⟩
  rw [← hpair, ← List.filter_append, ← List.filter_append]
  rfl

theorem selectItems_eq_nil : c.selectItems = [] ↔ c.select = [] ∧ c.groupBy = [] ∧ c.sum = [] ∧
    c.average = [] ∧ c.max = [] ∧ c.min = [] := by
  simp only [selectItems, List.append_eq_nil_iff, List.map_eq_nil_iff, and_assoc]
  refine and_congr_right fun hselect => ?_
  simp [hselect]

/-- **A SELECT is read back clause by clause.**  Behind SELECT and FROM come WHERE,
    GROUP BY, ORDER BY, OFFSET and FETCH, each of them at most once and in this order.
    The query that is read has the selected columns and aggregates, the grouping
    columns and the sorted columns of the criteria, and of any rows it returns those
    that the criteria ask for. -/
theorem selectText_readable (htable : ']' ∉ table.toList) (hnames : c.HasPlainNames)
    (hsolid : c.requirements = [] ∧ c.alternatives = [] ∨ c.IsSolid) {r s : Recorder} {text : String}
    (h : (c.selectText {} table).outcome r = (.ok text, s)) :
    ∃ ts parts rest q, tokens? text.toList = some ts ∧ Sql.clauses? ts = some parts ∧
      parts.map Prod.fst = .selection :: .source :: rest ∧
      rest.Sublist [.restriction, .grouping, .order, .offset, .fetch] ∧
      (.offset ∈ rest → [.order, .offset] <:+: rest) ∧
      Query.read? parts = some q ∧ q.table = table ∧
      q.columns.getD [] = c.selectItems ∧
      (q.columns = none ↔ c.select = [] ∧ c.groupBy = [] ∧ c.sum = [] ∧ c.average = [] ∧
        c.max = [] ∧ c.min = []) ∧
      q.condition = (if c.requirements.isEmpty then [] else c.combined.render .tokens) ∧
      q.groups = c.groupBy ∧ q.order = c.orderItems ∧
      (q.top = none ∨ .offset ∉ rest) ∧
      ∀ (α : Type) (rows : List α), q.page rows = c.page rows := by
  obtain ⟨hclauses, hread⟩ := Query.read?_tokens (c.query_isReadable table)
  refine ⟨_, _, c.laterClauses table, c.query table, tokens?_selectText htable hnames hsolid h,
    hclauses, map_fst_clauses table c, List.filter_sublist, order_offset_infix, hread, rfl, ?_, ?_,
    rfl, rfl, rfl, ?_, fun α rows => page_query table c rows⟩
  · simp only [query]
    split
    · next hempty => simpa using hempty.symm
    · rfl
  · rw [← selectItems_eq_nil]
    simp [query]
  · rw [mem_laterClauses_offset]
    by_cases hskip : c.skip.getD 0 = 0
    · exact Or.inr (not_not.2 hskip)
    · exact Or.inl (by simp [query, offset?_eq, hskip])

/-- Criteria with words, marks and quotes in names and values. -/
def markedCriteria : Criteria where
  filter := some [.equals "FROM" (.string "') GROUP BY [x]")]
  alternatives := [[.isIn "id" [.int 1, .int 2]]]
  sort := some (.expression "-WHERE,x")
  skip := some 10
  limit := some 5
  select := ["it's", "a, b"]
  groupBy := ["a, b", "ORDER"]
  sum := ["n)"]

/-- The SELECT of `markedCriteria`. -/
def markedText : String :=
  "SELECT [it''s], [a, b], [ORDER], SUM([n)]) AS [n)] FROM [t] WHERE [FROM]=''') GROUP BY [x]'" ++
    " AND ([id] IN (1, 2)) GROUP BY [a, b], [ORDER] ORDER BY [WHERE,x] DESC" ++
    " OFFSET 10 ROWS FETCH NEXT 5 ROWS ONLY"

/-- `markedText` is read as what `markedCriteria` ask for. -/
theorem selectText_readable_marked :
    ∃ ts parts q, (markedCriteria.selectText {} "t").outcome {} = (.ok markedText, {}) ∧
      tokens? markedText.toList = some ts ∧ Sql.clauses? ts = some parts ∧
      Query.read? parts = some q ∧
      q.columns.getD [] =
        [.column "it's", .column "a, b", .column "ORDER", .aggregate .sum "n)" "n)"] ∧
      q.groups = ["a, b", "ORDER"] ∧ q.order = [.column "WHERE,x" .descending] ∧
      q.page (List.range 20) = [10, 11, 12, 13, 14] := by
  have htext : (markedCriteria.selectText {} "t").outcome {} = (.ok markedText, {}) := by
    decide +kernel
  have hnames : markedCriteria.HasPlainNames := by constructor <;> decide
  have hsolid : markedCriteria.IsSolid := by
    simp [markedCriteria, IsSolid, requirements, Filter.render, Predicate.render, Layout.solidity]
  obtain ⟨ts, parts, -, q, hts, hparts, -, -, -, hread, -, hcolumns, -, -, hgroups, horder, -,
    hpage⟩ := selectText_readable (by decide) hnames (Or.inr hsolid) htext
  exact ⟨ts, parts, q, htext, hts, hparts, hread, hcolumns.trans (by decide), hgroups,
    horder.trans (by decide), (hpage Nat _).trans (by decide)⟩

end Criteria

end QuerySql
