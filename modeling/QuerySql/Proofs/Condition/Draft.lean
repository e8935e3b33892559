/-
  Drafts: texts while they are being written.

  A `Draft` is a text in pieces: words, literals of values, and failures, at the
  first of which the writing stops.

  * `Draft.values` are the values whose literals are written before the first
    failure, in the order of the text, and `Draft.diagnostics` is what they make
    known: the arrays and objects among them that hold a float that is not finite;
  * `x.Follows d a` says that a computation writes a draft: it returns `a`, or fails
    for the first failure of the draft, and reports the diagnostics of the draft;
  * `Layout.draft` is the draft of a filter (`Filter.condition_writes`).
-/
import QuerySql.Proofs.Condition.Text
import QuerySql.Proofs.Value.Json

namespace QuerySql

open Sql (Connective)

variable {α β : Type}

/-! ## Values that cannot be encoded -/

/-- An array or object with a float in it that is not finite. -/
def Value.IsUnencodable (v : Value) : Prop :=
  (v.kind = .array ∨ v.kind = .object) ∧ ¬ v.HasFiniteFloats

instance : DecidablePred Value.IsUnencodable := fun v =>
  inferInstanceAs (Decidable ((v.kind = .array ∨ v.kind = .object) ∧ ¬ v.HasFiniteFloats))

/-- **What is reported of a value** is that it cannot be encoded. -/
theorem Value.reports_eq (v : Value) :
    v.reports = if v.IsUnencodable then [.unencodable v.kind] else [] := by
  have hnone : v.jsonText?.isNone ↔ ¬ v.HasFiniteFloats := by
    rw [← v.isSome_toJson?_iff, jsonText?, Option.isNone_map]
    simp
  cases v with
  | array | object => simp [reports, IsUnencodable, kind, hnone]
  | _ => simp [reports, IsUnencodable, kind]

/-! ## Drafts -/

/-- A piece of a text that is being written. -/
inductive Piece where
  | words (text : String)
  /-- what `form` makes of the literal of a value -/
  | value (v : Value) (form : String → String)
  /-- nothing is written from here on -/
  | failure (e : Error)

/-- A text in pieces. -/
abbrev Draft := List Piece

/-- What is written of a piece: nothing of a failure. -/
def Piece.text : Piece → String
  | words text => text
  | value v form => form v.sqlLiteral.text
  | failure _ => ""

/-- Why writing stops at a piece. -/
def Piece.error? : Piece → Option Error
  | failure e => some e
  | words _ | value _ _ => none

namespace Draft

/-- The text of the pieces, one behind the other. -/
def text (d : Draft) : String := "".intercalate (d.map Piece.text)

/-- Why writing stops. -/
def error? (d : Draft) : Option Error := d.findSome? Piece.error?

/-- The values whose literals are written before writing stops. -/
def values : Draft → List Value
  | [] => []
  | .words _ :: rest => values rest
  | .value v _ :: rest => v :: values rest
  | .failure _ :: _ => []

/-- What is reported: the values that cannot be encoded, in order. -/
def diagnostics (d : Draft) : List Diagnostic :=
  (d.values.filter fun v => v.IsUnencodable).map fun v => .unencodable v.kind

/-- Drafts with words between them. -/
def joined (separator : String) (parts : List Draft) : Draft := [.words separator].intercalate parts

theorem joined_cons_cons (separator : String) (d e : Draft) (parts : List Draft) :
    joined separator (d :: e :: parts) = d ++ .words separator :: joined separator (e :: parts) := by
  simp [joined]

theorem text_cons (p : Piece) (d : Draft) : text (p :: d) = p.text ++ d.text := by
  cases d <;> simp [text, String.intercalate_cons_cons]

theorem text_append (d e : Draft) : text (d ++ e) = d.text ++ e.text := by
  induction d with
  | nil => simp [text]
  | cons p d ih => rw [List.cons_append, text_cons, text_cons, ih, String.append_assoc]

/-- Words between drafts stand between their texts. -/
theorem text_joined (separator : String) (parts : List Draft) :
    (joined separator parts).text = separator.intercalate (parts.map text) := by
  induction parts with
  | nil => rfl
  | cons d parts ih =>
    cases parts with
    | nil => simp [joined]
    | cons e parts =>
      rw [joined_cons_cons, text_append, text_cons, ih]
      simp only [List.map_cons, String.intercalate_cons_cons, String.append_assoc]
      rfl

theorem error?_append (d e : Draft) : error? (d ++ e) = d.error?.or e.error? :=
  List.findSome?_append

/-- A second draft counts if the first one is written to its end. -/
theorem values_append (d e : Draft) :
    values (d ++ e) = if d.error?.isNone then d.values ++ e.values else d.values := by
  induction d with
  | nil => rfl
  | cons p d ih =>
    cases p with
    | words text => exact ih
    | value v form =>
      have htail : values (.value v form :: (d ++ e)) = v :: values (d ++ e) := rfl
      rw [List.cons_append, htail, ih]
      exact apply_ite (v :: ·) _ _ _
    | failure err => rfl

/-- The diagnostics of a draft are those of its values, one after the other. -/
theorem diagnostics_eq (d : Draft) : d.diagnostics = d.values.flatMap Value.reports := by
  unfold diagnostics
  induction d.values with
  | nil => rfl
  | cons v vs ih =>
    rw [List.flatMap_cons, ← ih, Value.reports_eq]
    by_cases hv : v.IsUnencodable <;> simp [hv]

theorem diagnostics_append (d e : Draft) : diagnostics (d ++ e) =
    if d.error?.isNone then d.diagnostics ++ e.diagnostics else d.diagnostics := by
  rw [diagnostics_eq, diagnostics_eq, diagnostics_eq, values_append]
  split
  · rw [List.flatMap_append]
  · rfl

end Draft

/-! ## Computations that write a draft -/

namespace Compile

/-- The computation returns `a`, or fails for the first failure of the draft, and
    reports the diagnostics of the draft. -/
def Follows (x : Compile α) (d : Draft) (a : α) : Prop :=
  x.Ends (d.error?.elim (.ok a) .error) d.diagnostics

variable {x : Compile α} {d e : Draft} {a : α}

theorem Follows.outcome_eq (hx : x.Follows d a) (r : Recorder) :
    x.outcome r = (d.error?.elim (.ok a) .error, r.append d.diagnostics) :=
  hx r

theorem follows_pure (a : α) : Follows (pure a) [] a := ends_pure a

theorem follows_throw (e : Error) (a : α) : Follows (throw e) [.failure e] a := ends_throw e

theorem Follows.bind {f : α → Compile β} {b : β} (hx : x.Follows d a) (hf : (f a).Follows e b) :
    Follows (x >>= f) (d ++ e) b := by
  unfold Follows at hx hf ⊢
  rw [Draft.error?_append, Draft.diagnostics_append]
  cases herror : d.error? with
  | none =>
    rw [herror] at hx
    exact hx.bind hf
  | some err =>
    rw [herror] at hx
    exact hx.bind_error f

theorem Follows.map (hx : x.Follows d a) (f : α → β) :
    Follows (do return f (← x)) d (f a) := by
  simpa using hx.bind (f := fun a => pure (f a)) (follows_pure (f a))

/-- Words may be put before a draft. -/
theorem Follows.words_cons (hx : x.Follows d a) (text : String) :
    x.Follows (.words text :: d) a := hx

theorem Follows.append_words (hx : x.Follows d a) (text : String) :
    x.Follows (d ++ [.words text]) a := by
  have herror : Draft.error? (d ++ [.words text]) = d.error? := by
    rw [Draft.error?_append]
    exact Option.or_none
  have hdiagnostics : Draft.diagnostics (d ++ [.words text]) = d.diagnostics := by
    rw [Draft.diagnostics_append, Draft.diagnostics_eq [.words text]]
    simp [Draft.values]
  rwa [Follows, herror, hdiagnostics]

theorem follows_mapM (separator : String) {l : List α} {f : α → Compile β} {draft : α → Draft}
    {b : α → β} (h : ∀ a ∈ l, (f a).Follows (draft a) (b a)) :
    (l.mapM f).Follows (Draft.joined separator (l.map draft)) (l.map b) := by
  induction l with
  | nil => exact follows_pure []
  | cons a l ih =>
    obtain ⟨ha, hl⟩ := List.forall_mem_cons.1 h
    rw [List.mapM_cons]
    cases l with
    | nil => simpa [Draft.joined] using ha.map fun b => [b]
    | cons a' l =>
      rw [List.map_cons, List.map_cons, Draft.joined_cons_cons]
      exact ha.bind (((ih hl).map _).words_cons separator)

/-- The computation writes the text of a draft. -/
def Writes (x : Compile String) (d : Draft) : Prop := x.Follows d d.text

/-- Texts with words between them are written one by one. -/
theorem writes_joined (separator : String) {l : List α} {f : α → Compile String}
    {draft : α → Draft} (h : ∀ a ∈ l, (f a).Writes (draft a)) :
    Writes (do return separator.intercalate (← l.mapM f)) (Draft.joined separator (l.map draft)) := by
  have hall := (follows_mapM separator h).map (separator.intercalate ·)
  have htext : (Draft.joined separator (l.map draft)).text =
      separator.intercalate (l.map fun a => (draft a).text) := by
    rw [Draft.text_joined, List.map_map]
    rfl
  rwa [Writes, htext]

theorem Follows.between {x : Compile String} {before after : String}
    (hx : x.Follows d (before ++ d.text ++ after)) :
    x.Writes (.words before :: (d ++ [.words after])) := by
  have htext : Draft.text (.words before :: (d ++ [.words after])) = before ++ d.text ++ after := by
    rw [Draft.text_cons, Draft.text_append, Draft.text_cons, String.append_assoc]
    simp [Draft.text, Piece.text]
  rw [Writes, htext]
  exact (hx.append_words after).words_cons before

end Compile

/-! ## Leaves -/

/-- The literals of a list of values; null for the empty list. -/
def Draft.list (values : List Value) : Draft :=
  if values.isEmpty then [.words "NULL"]
  else joined ", " (values.map fun v => [.value v id])

namespace Leaf

/-- A column and the literal of a value. -/
def operationDraft (operator column : String) (v : Value) : Draft :=
  [.words (Text.bracketed column ++ operator), .value v id]

/-- A column and the literals of a list. -/
def listDraft (words column : String) (values : List Value) : Draft :=
  .words (Text.bracketed column ++ words) :: (Draft.list values ++ [.words ")"])

/-- A column and a search for the text of a value. -/
def searchDraft (before after column : String) (v : Value) : Draft :=
  [.words (Text.bracketed column ++ " LIKE '" ++ before), .value v Text.trimQuotes,
    .words (after ++ "'")]

/-- The draft of a test against a value, or for null. -/
def equalityDraft (column : String) : Value → Draft
  | .null => [.words (Text.bracketed column ++ " IS NULL")]
  | v => operationDraft "=" column v

/-- The draft of the comparator `not`: null and lists have tests of their own. -/
def inequalityDraft (column : String) : Value → Draft
  | .null => [.words (Text.bracketed column ++ " IS NOT NULL")]
  | .array items => listDraft " NOT IN (" column items
  | v => operationDraft "<>" column v

/-- The draft of the test of a comparator. -/
def comparatorDraft (column : String) (op : Comparator) (v : Value) : Draft :=
  match op with
  | .lessThan => operationDraft "<" column v
  | .lessThanOrEqual => operationDraft "<=" column v
  | .greaterThan => operationDraft ">" column v
  | .greaterThanOrEqual => operationDraft ">=" column v
  | .not => inequalityDraft column v
  | .like => searchDraft "" "" column v
  | .contains => searchDraft "%" "%" column v
  | .startsWith => searchDraft "" "%" column v
  | .endsWith => searchDraft "%" "" column v

/-- The draft of a leaf; for a regular expression in a like group nothing is written. -/
def draft : Leaf → Draft
  | equals c v => equalityDraft c v
  | compares c op v => comparatorDraft c op v
  | isIn c values => listDraft " IN (" c values
  | like c (.regex pattern) => [.failure (.regexPattern c pattern)]
  | like c v => [.words (Text.bracketed c ++ " LIKE "),
      .value v (Text.replaceAll Condition.percentMark Condition.escapedPercent)]

end Leaf

/-- The draft is written to its end: to this text, with these reports. -/
structure Draft.Completes (d : Draft) (text : String) (reports : List Diagnostic) : Prop where
  error?_eq : d.error? = none
  text_eq : d.text = text
  diagnostics_eq : d.diagnostics = reports

theorem Compile.Ends.writes {x : Compile String} {d : Draft} {text : String}
    {reports : List Diagnostic} (hx : x.Ends (.ok text) reports) (hd : d.Completes text reports) :
    x.Writes d := by
  rw [Writes, Follows, hd.error?_eq, hd.text_eq, hd.diagnostics_eq]
  exact hx

namespace Draft

theorem completes_words (text : String) : Completes [.words text] text [] :=
  ⟨rfl, by simp [Draft.text, Piece.text], rfl⟩

theorem completes_value (v : Value) (form : String → String) :
    Completes [.value v form] (form v.sqlLiteral.text) v.reports :=
  ⟨rfl, by simp [Draft.text, Piece.text], by simp [Draft.diagnostics_eq, values]⟩

section

variable {d e : Draft} {s t : String} {ds es : List Diagnostic}

theorem Completes.append (hd : d.Completes s ds) (he : e.Completes t es) :
    (d ++ e).Completes (s ++ t) (ds ++ es) := by
  refine ⟨?_, ?_, ?_⟩
  · rw [error?_append, hd.error?_eq, he.error?_eq]
    rfl
  · rw [text_append, hd.text_eq, he.text_eq]
  · rw [diagnostics_append, hd.error?_eq, hd.diagnostics_eq, he.diagnostics_eq]
    rfl

theorem Completes.words_cons (hd : d.Completes s ds) (before : String) :
    Completes (.words before :: d) (before ++ s) ds :=
  (completes_words before).append hd

theorem Completes.between (hd : d.Completes s ds) (before after : String) :
    Completes (.words before :: (d ++ [.words after])) (before ++ s ++ after) ds := by
  have h := (hd.append (completes_words after)).words_cons before
  rwa [List.append_nil, ← String.append_assoc] at h

end

theorem completes_joined (separator : String) {l : List α} {draft : α → Draft} {text : α → String}
    {reports : α → List Diagnostic} (h : ∀ a ∈ l, (draft a).Completes (text a) (reports a)) :
    (joined separator (l.map draft)).Completes (separator.intercalate (l.map text))
      (l.flatMap reports) := by
  induction l with
  | nil => exact ⟨rfl, rfl, rfl⟩
  | cons a l ih =>
    obtain ⟨ha, hl⟩ := List.forall_mem_cons.1 h
    cases l with
    | nil => simpa [joined] using ha
    | cons a' l =>
      have hall := ha.append ((ih hl).words_cons separator)
      simp only [List.map_cons, joined_cons_cons, String.intercalate_cons_cons] at hall ⊢
      rwa [String.append_assoc]

theorem completes_list (vs : List Value) :
    (list vs).Completes
      (", ".intercalate (((Value.sqlLiterals vs).1 :: (Value.sqlLiterals vs).2).map Sql.Literal.text))
      (vs.flatMap Value.reports) := by
  cases vs with
  | nil => exact completes_words "NULL"
  | cons v vs =>
    have h := completes_joined ", " (l := v :: vs) fun w _ => completes_value w id
    simpa [list, Value.sqlLiterals, Function.comp_def] using h

end Draft

namespace Leaf

theorem operationDraft_completes (op : Sql.Operator) (c : String) (v : Value) :
    (operationDraft op.text c v).Completes (Sql.Test.compares c op v.sqlLiteral).text v.reports :=
  (Draft.completes_value v id).words_cons _

theorem listDraft_completes (negated : Bool) (c : String) (vs : List Value) :
    (listDraft (Sql.Test.listText negated) c vs).Completes
      (Sql.Test.isIn c negated (Value.sqlLiterals vs).1 (Value.sqlLiterals vs).2).text
      (vs.flatMap Value.reports) :=
  (Draft.completes_list vs).between _ ")"

theorem searchDraft_completes {before after : String} (hb : '\'' ∉ before.toList)
    (ha : '\'' ∉ after.toList) (c : String) (v : Value) :
    (searchDraft before after c v).Completes (searchTest before after c v).text v.reports := by
  have h := (Draft.completes_value v Text.trimQuotes).between
    (Text.bracketed c ++ " LIKE '" ++ before) (after ++ "'")
  rw [searchTest_text hb ha]
  rwa [← String.append_assoc] at h

theorem comparatorDraft_completes (c : String) (op : Comparator) (v : Value) :
    (comparatorDraft c op v).Completes (comparatorTest c op v).text (compares c op v).reports := by
  cases op with
  | lessThan => exact operationDraft_completes .less c v
  | lessThanOrEqual => exact operationDraft_completes .lessOrEqual c v
  | greaterThan => exact operationDraft_completes .greater c v
  | greaterThanOrEqual => exact operationDraft_completes .greaterOrEqual c v
  | not =>
    cases v with
    | null => exact Draft.completes_words _
    | array items => exact listDraft_completes true c items
    | _ => exact operationDraft_completes .different c _
  | like => exact searchDraft_completes (by decide) (by decide) c v
  | contains => exact searchDraft_completes (by decide) (by decide) c v
  | startsWith => exact searchDraft_completes (by decide) (by decide) c v
  | endsWith => exact searchDraft_completes (by decide) (by decide) c v

/-- The draft of a leaf is the text of its test, unless the leaf is refused. -/
theorem draft_completes {l : Leaf} (h : ¬ l.IsRegex) : l.draft.Completes l.test.text l.reports := by
  cases l with
  | equals c v =>
    cases v with
    | null => exact Draft.completes_words _
    | _ => exact operationDraft_completes .equal c _
  | compares c op v => exact comparatorDraft_completes c op v
  | isIn c vs => exact listDraft_completes false c vs
  | like c v =>
    have hlike := (Draft.completes_value v (Text.replaceAll Condition.percentMark
      Condition.escapedPercent)).words_cons (Text.bracketed c ++ " LIKE ")
    rw [Sql.Literal.escaped_text] at hlike
    cases v with
    | regex pattern => exact absurd trivial h
    | _ => exact hlike

theorem condition_writes (l : Leaf) : l.condition.Writes l.draft := by
  by_cases hregex : l.IsRegex
  · obtain ⟨c, pattern, rfl⟩ := isRegex_iff.1 hregex
    exact Compile.follows_throw (.regexPattern c pattern) _
  · exact (l.condition_settles.ends hregex).writes (draft_completes hregex)

end Leaf

/-! ## Filters -/

/-- The draft of a filter. -/
def Layout.draft : Layout Draft where
  leaf := Leaf.draft
  joined := Draft.joined " AND "
  group k parts :=
    if parts.isEmpty then [.failure .emptyGroup]
    else .words "(" :: (Draft.joined k.joiner parts ++ [.words ")"])

theorem Filter.condition_writes_of_predicates {f : Filter}
    (h : ∀ p ∈ f, p.condition.Writes (p.render .draft)) : f.condition.Writes (f.render .draft) := by
  have hall := Compile.writes_joined " AND " h
  rwa [← conditions_eq] at hall

theorem Filter.group_writes_of_members (k : Connective) {members : List Filter}
    (h : ∀ f ∈ members, f.condition.Writes (f.render .draft)) :
    Compile.Writes (do Condition.group k.joiner (← memberConditions members))
      (Layout.draft.group k (members.map (render .draft))) := by
  rw [memberConditions_eq]
  cases members with
  | nil => exact Compile.follows_throw .emptyGroup _
  | cons f members =>
    have htexts : Compile.Follows (Condition.group k.joiner
        ((f :: members).map fun g => (g.render .draft).text)) []
        ("(" ++ (Draft.joined k.joiner ((f :: members).map (render .draft))).text ++ ")") := by
      rw [Draft.text_joined, List.map_map]
      exact Compile.follows_pure _
    have hall := (Compile.follows_mapM k.joiner h).bind htexts
    rw [List.append_nil] at hall
    exact hall.between

theorem Predicate.condition_writes (p : Predicate) : p.condition.Writes (p.render .draft) := by
  induction p with
  | equals c v => exact (Leaf.equals c v).condition_writes
  | isIn c vs => exact (Leaf.isIn c vs).condition_writes
  | compares c tests =>
    have hdraft := Draft.completes_joined " AND " (l := tests) fun t _ =>
      Leaf.comparatorDraft_completes c t.1 t.2
    refine (Compile.ends_lift (Condition.comparisons_ends c tests)).writes ?_
    rwa [List.flatMap_def] at hdraft
  | like patterns =>
    exact Compile.writes_joined " AND " fun t _ => (Leaf.like t.1 t.2).condition_writes
  | all members ih =>
    have h := Filter.group_writes_of_members .and fun f hf =>
      Filter.condition_writes_of_predicates (ih f hf)
    simpa only [condition, render, Connective.joiner, Filter.memberRenders_eq] using h
  | any members ih =>
    have h := Filter.group_writes_of_members .or fun f hf =>
      Filter.condition_writes_of_predicates (ih f hf)
    simpa only [condition, render, Connective.joiner, Filter.memberRenders_eq] using h

/-- **The condition of a filter writes its draft.** -/
theorem Filter.condition_writes (f : Filter) : f.condition.Writes (f.render .draft) :=
  condition_writes_of_predicates fun p _ => p.condition_writes

end QuerySql
