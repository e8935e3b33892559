/-
  The text of a filter and its tokens.

  * `Filter.text` is the text of a filter, whether or not all its parts have
    members.  The condition of a filter is its text unless there is a cause to
    refuse it (`Layout.refusal`, `Filter.condition_concludes`), which there is iff
    the filter is not writable (`Layout.writability`, `Filter.condition_settles`);
  * `Filter.tokens` is what the text consists of (`Filter.tokens?_text`), if no
    column has a closing bracket.
-/
import QuerySql.Proofs.Condition.Layout

namespace QuerySql

open Sql (Connective)

/-! ## Layouts -/

/-- The text of a filter. -/
def Layout.text : Layout String where
  leaf l := l.test.text
  joined := Connective.and.joiner.intercalate
  group k texts := "(" ++ k.joiner.intercalate texts ++ ")"

/-- The tokens of a filter. -/
def Layout.tokens : Layout (List Sql.Token) where
  leaf l := l.test.tokens
  joined := Connective.and.joinTokens
  group k parts := .mark '(' :: (k.joinTokens parts ++ [.mark ')'])

/-- Every group has members, and no pattern of a like group is a regular expression. -/
def Layout.writability : Layout Prop where
  leaf l := ¬ l.IsRegex
  joined ps := ∀ p ∈ ps, p
  group _ ps := (∀ p ∈ ps, p) ∧ ps ≠ []

/-- Why a filter is refused: the first cause in the order of the text, or that a
    group has no members. -/
def Layout.refusal : Layout (Option Error) where
  leaf := Leaf.refusal?
  joined causes := causes.findSome? id
  group _ causes := if causes.isEmpty then some .emptyGroup else causes.findSome? id

theorem Layout.findSome?_eq_joined {α : Type} (cause? : α → Option Error) (l : List α) :
    l.findSome? cause? = Layout.refusal.joined (l.map cause?) := by
  simp only [Layout.refusal, List.findSome?_map, Function.id_comp]

/-- What writing a filter reports. -/
def Layout.reports : Layout (List Diagnostic) where
  leaf := Leaf.reports
  joined := List.flatten
  group _ := List.flatten

/-! ## Conditions -/

namespace Condition

theorem comparisons_ends (c : String) (tests : List (Comparator × Value)) :
    Report.Ends (comparisons c tests) ((Predicate.compares c tests).render .text)
      ((Predicate.compares c tests).render .reports) := by
  have h := (Report.ends_mapM (l := tests) fun t _ => Leaf.comparison_ends c t.1 t.2).map
    (" AND ".intercalate ·)
  rwa [List.flatMap_def] at h

theorem likeEntries_concludes (patterns : List (String × Value)) :
    Compile.Concludes
      (do return " AND ".intercalate (← patterns.mapM fun (column, v) => likeEntry column v))
      ((Predicate.like patterns).render .refusal) ((Predicate.like patterns).render .text)
      ((Predicate.like patterns).render .reports) := by
  have h := (Compile.concludes_mapM (l := patterns) fun t _ =>
    (Leaf.like t.1 t.2).condition_concludes).map (" AND ".intercalate ·)
  rwa [List.flatMap_def, Layout.findSome?_eq_joined] at h

theorem group_concludes (k : Connective) (texts : List String) :
    (group k.joiner texts).Concludes (if texts.isEmpty then some .emptyGroup else none)
      (Layout.text.group k texts) [] := by
  cases texts with
  | nil => exact Compile.concludes_throw .emptyGroup _ _
  | cons text texts => exact (Compile.ends_pure _).concludes

end Condition

namespace Filter

theorem conditions_eq (f : Filter) : conditions f = f.mapM Predicate.condition := by
  induction f with
  | nil => rfl
  | cons p f ih => rw [conditions, ih, List.mapM_cons]

theorem memberConditions_eq (members : List Filter) :
    memberConditions members = members.mapM condition := by
  induction members with
  | nil => rfl
  | cons f members ih =>
    rw [memberConditions, ih, List.mapM_cons]
    simp [condition]

theorem condition_concludes_of_predicates {f : Filter}
    (h : ∀ p ∈ f, p.condition.Concludes (p.render .refusal) (p.render .text)
      (p.render .reports)) :
    f.condition.Concludes (f.render .refusal) (f.render .text) (f.render .reports) := by
  have hall := (Compile.concludes_mapM h).map (" AND ".intercalate ·)
  rwa [← conditions_eq, List.flatMap_def, Layout.findSome?_eq_joined] at hall

theorem group_concludes_of_members (k : Connective) {members : List Filter}
    (h : ∀ f ∈ members,
      f.condition.Concludes (f.render .refusal) (f.render .text) (f.render .reports)) :
    Compile.Concludes (do Condition.group k.joiner (← memberConditions members))
      (Layout.refusal.group k (members.map (render .refusal)))
      (Layout.text.group k (members.map (render .text)))
      (Layout.reports.group k (members.map (render .reports))) := by
  have hgroup := Condition.group_concludes k (members.map (render .text))
  have hall := (Compile.concludes_mapM h).bind hgroup
  rw [← memberConditions_eq, List.flatMap_def, List.append_nil, Layout.findSome?_eq_joined] at hall
  cases members with
  | nil => exact hall
  | cons f members =>
    -- the members are written before it is tested that there are any
    have hcause : ∀ cause? : Option Error,
        cause?.or (if ((f :: members).map (render .text)).isEmpty then some .emptyGroup else none) =
          cause? := fun _ => Option.or_none
    rwa [hcause] at hall

end Filter

theorem Predicate.condition_concludes (p : Predicate) :
    p.condition.Concludes (p.render .refusal) (p.render .text) (p.render .reports) := by
  induction p with
  | equals c v => exact (Leaf.equals c v).condition_concludes
  | isIn c vs => exact (Leaf.isIn c vs).condition_concludes
  | compares c tests =>
    have hcause : (compares c tests).render .refusal = none := by
      simp [render, Layout.refusal, Leaf.refusal?]
    rw [hcause]
    exact (Compile.ends_lift (Condition.comparisons_ends c tests)).concludes
  | like patterns => exact Condition.likeEntries_concludes patterns
  | all members ih =>
    have h := Filter.group_concludes_of_members .and fun f hf =>
      Filter.condition_concludes_of_predicates (ih f hf)
    simpa only [condition, render, Connective.joiner, Filter.memberRenders_eq] using h
  | any members ih =>
    have h := Filter.group_concludes_of_members .or fun f hf =>
      Filter.condition_concludes_of_predicates (ih f hf)
    simpa only [condition, render, Connective.joiner, Filter.memberRenders_eq] using h

/-- **The condition of a filter is its text** unless there is a cause to refuse it,
    and fails for that cause otherwise. -/
theorem Filter.condition_concludes (f : Filter) :
    f.condition.Concludes (f.render .refusal) (f.render .text) (f.render .reports) :=
  condition_concludes_of_predicates fun p _ => p.condition_concludes

/-- There is no cause among parts that have none. -/
theorem findSome?_id_eq_none {causes : List (Option Error)} {ps : List Prop}
    (h : List.Forall₂ (fun cause? p => cause? = none ↔ p) causes ps) :
    causes.findSome? id = none ↔ ∀ p ∈ ps, p := by
  induction h with
  | nil => simp
  | cons hcause _ ih =>
    rw [List.findSome?_eq_none_iff] at ih ⊢
    rw [List.forall_mem_cons, List.forall_mem_cons]
    exact and_congr hcause ih

theorem Layout.refusal_related_writability :
    Layout.refusal.Related True Layout.writability fun cause? p => cause? = none ↔ p where
  joined _ h := findSome?_id_eq_none h
  group k _ _ _ h := by
    cases h with
    | nil => simp [Layout.refusal, Layout.writability]
    | cons hcause h =>
      have hall := findSome?_id_eq_none (.cons hcause h)
      simpa [Layout.refusal, Layout.writability] using hall

/-- A filter is refused iff it is not writable. -/
theorem Filter.refusal_eq_none {f : Filter} : f.render .refusal = none ↔ f.render .writability :=
  f.related Layout.refusal_related_writability (Or.inl trivial) fun _ _ => Leaf.refusal?_eq_none

/-- The condition of a filter is its text if the filter is writable, and fails
    otherwise. -/
theorem Filter.condition_settles (f : Filter) :
    f.condition.Settles (f.render .writability) (f.render .text) (f.render .reports) :=
  f.condition_concludes.settles Filter.refusal_eq_none

theorem Filter.text_singleton (p : Predicate) : Filter.render .text [p] = p.render .text := by
  simp [Filter.render, Layout.text]

theorem Filter.text_append {f g : Filter} (hf : f ≠ []) (hg : g ≠ []) :
    Filter.render .text (f ++ g) = f.render .text ++ " AND " ++ g.render .text := by
  rw [Filter.render, List.map_append]
  exact String.intercalate_append_of_ne_nil (mt List.map_eq_nil_iff.1 hf)
    (mt List.map_eq_nil_iff.1 hg)

/-! ## Tokens -/

theorem Layout.text_related_tokens :
    Layout.text.Related True Layout.tokens fun text ts => Sql.tokens? text.toList = some ts where
  joined _ h := Connective.and.tokens?_join h
  group k _ _ _ h := Sql.tokens?_enclosed (k.tokens?_join h)

/-- **The text of a filter is read as its tokens**, if no column has a closing bracket. -/
theorem Filter.tokens?_text {f : Filter}
    (h : ∀ l ∈ f.render .leaves, ']' ∉ l.column.toList) :
    Sql.tokens? (f.render .text).toList = some (f.render .tokens) := by
  refine f.related Layout.text_related_tokens (Or.inl trivial) ?_
  intro l hl
  have hcolumn : ']' ∉ l.test.column.toList := by
    rw [Leaf.column_test]
    exact h l hl
  exact l.test.tokens?_text hcolumn

/-- The tokens of a filter are what conditions consist of. -/
theorem Filter.ofCondition_of_mem_tokens (f : Filter) : ∀ t ∈ f.render .tokens, t.OfCondition := by
  have hword (k : Connective) : Sql.Token.OfCondition (.keyword k.word) :=
    .fixed (by cases k <;> decide +kernel)
  refine f.render_of_parts (L := .tokens) (P := fun ts => ∀ t ∈ ts, t.OfCondition) (Or.inl trivial)
    ?joined ?group ?leaf
  case joined =>
    intro parts _ h
    exact Connective.and.forall_mem_joinTokens (hword _) h
  case group =>
    intro k parts _ h
    have hinside := k.forall_mem_joinTokens (hword k) h
    exact List.forall_mem_cons.2 ⟨.fixed (by decide +kernel), List.forall_mem_append.2
      ⟨hinside, List.forall_mem_singleton.2 (.fixed (by decide +kernel))⟩⟩
  case leaf =>
    intro l _
    exact l.test.ofCondition_of_mem_tokens

/-- No token of a filter ends a statement or starts a comment. -/
theorem Filter.isInert_of_mem_tokens (f : Filter) : ∀ t ∈ f.render .tokens, t.IsInert :=
  fun t ht => (f.ofCondition_of_mem_tokens t ht).isInert

end QuerySql
