/-
  The meaning of a restriction.

  * `Layout.meaning` is what a filter says about the values of its leaves:
    predicates, tests of a comparator object and entries of a like group all
    hold, and so do all or one of the members of a group;
  * `Criteria.meaning` adds that one of the alternatives holds, if there are any;
  * `Criteria.restriction_meaning`: the text behind WHERE is a single boolean
    expression with the leaves as its tests, in order, and with this meaning.
-/
import QuerySql.Proofs.Sql.Expression
import QuerySql.Proofs.Statement.Restriction

namespace QuerySql

open Sql (Connective Expression Meaning Term Token)

/-! ## Terms -/

/-- The terms that a filter is read as. -/
def Layout.terms : Layout (List Term) where
  leaf l := [.test l.test.tokens]
  joined := List.flatten
  group k parts := [.group (Expression.ofGroup k parts)]

theorem Layout.tokens_related_terms :
    Layout.tokens.Related False Layout.terms Expression.ReadAs where
  joined hne h := Expression.readAs_join_and h hne
  group k _ _ hne h := Expression.readAs_group k h hne

/-- **The tokens of a solid filter are read as its terms.** -/
theorem Filter.parse?_tokens {f : Filter} (h : f.render .solidity) :
    Expression.parse? (f.render .tokens) = some [f.render .terms] :=
  Expression.parse?_of_readAs
    (f.related Layout.tokens_related_terms (Or.inr h) fun l _ => Expression.reads_test l.test)

section

variable {β : Type} (leaf : List Token → β) (join : Connective → List β → β)

/-- What a fold over expressions makes of a filter. -/
def Layout.ofFold : Layout β where
  leaf l := leaf l.test.tokens
  joined := join .and
  group := join

variable {leaf join} (hsingle : ∀ k x, join k [x] = x)
  (hflatten : ∀ xss : List (List β), join .and xss.flatten = join .and (xss.map (join .and)))
include hsingle hflatten

theorem Expression.fold_ofGroup (k : Connective) (parts : List (List Term)) :
    Expression.fold leaf join (Expression.ofGroup k parts) =
      join k (parts.map fun terms => join .and (terms.map (Term.fold leaf join))) := by
  rw [Expression.fold, Term.foldAlternatives_eq]
  cases k with
  | or => rfl
  | and =>
    have h := hflatten (parts.map (List.map (Term.fold leaf join)))
    rw [← List.map_flatten, List.map_map] at h
    simpa [Expression.ofGroup, hsingle, Function.comp_def] using h

/-- **A fold over the terms of a filter follows the filter.** -/
theorem Filter.fold_terms (f : Filter) :
    Expression.fold leaf join [f.render .terms] = f.render (.ofFold leaf join) := by
  have h : Layout.terms.Related True (Layout.ofFold leaf join)
      fun terms y => join .and (terms.map (Term.fold leaf join)) = id y := by
    constructor
    · intro xs ys _ h
      rw [Layout.terms, List.map_flatten, hflatten, List.map_map]
      exact congrArg (join .and) ((map_eq_map_of_forall₂ h).trans (List.map_id _))
    · intro k xs ys _ h
      calc join .and ((Layout.terms.group k xs).map (Term.fold leaf join))
          = Expression.fold leaf join (Expression.ofGroup k xs) := hsingle _ _
        _ = join k (xs.map fun terms => join .and (terms.map (Term.fold leaf join))) :=
          Expression.fold_ofGroup hsingle hflatten k xs
        _ = join k ys := congrArg (join k) ((map_eq_map_of_forall₂ h).trans (List.map_id _))
  have hterms := f.related h (Or.inl trivial) fun l _ => hsingle .and _
  rw [Expression.fold, Term.foldAlternatives_eq, List.map_singleton, hsingle]
  exact hterms

end

/-! ## Meanings -/

/-- What a filter says about the values of its leaves. -/
def Layout.meaning : Layout Meaning where
  leaf _ := .leaf
  joined := Meaning.join .and
  group := Meaning.join

theorem Filter.meaning_terms (f : Filter) :
    Expression.meaning [f.render .terms] = f.render .meaning :=
  f.fold_terms Meaning.join_singleton (Meaning.join_flatten .and)

theorem Filter.tests_terms (f : Filter) :
    Expression.tests [f.render .terms] = (f.render .leaves).map fun l => l.test.tokens := by
  rw [← f.render_collect fun l => l.test.tokens]
  exact f.fold_terms (fun _ _ => by simp) fun _ => List.flatten_flatten

/-- A solid filter without regular expressions in its like groups is writable. -/
theorem Filter.writability_of_solidity {f : Filter} (hsolid : f.render .solidity)
    (hregex : ∀ l ∈ f.render .leaves, ¬ l.IsRegex) : f.render .writability := by
  have hsolid : False ∨ f.render .solidity := Or.inr hsolid
  refine f.render_of_parts (L := .writability) (P := id) hsolid ?joined ?group hregex
  case joined =>
    intro ps _ h
    exact h
  case group =>
    intro k ps hne h
    exact ⟨h, hne⟩

/-! ## Criteria -/

/-- The test that a leaf is written as. -/
def Leaf.IsWrittenAs (l : Leaf) (test : List Token) : Prop :=
  ∃ text, (∀ r, (l.condition.outcome r).1 = .ok text) ∧ Sql.tokens? text.toList = some test

theorem Leaf.isWrittenAs_tokens {l : Leaf} (hregex : ¬ l.IsRegex)
    (hcolumn : ']' ∉ l.column.toList) : l.IsWrittenAs l.test.tokens :=
  ⟨l.test.text, fun r => congrArg Prod.fst ((l.condition_settles.ends hregex).outcome_eq r),
    l.test.tokens?_text (by rwa [column_test])⟩

namespace Criteria

/-- The leaves of the filter, then those of the alternatives. -/
def leaves (c : Criteria) : List Leaf :=
  c.requirements.render .leaves ++ c.alternatives.flatMap (Filter.render .leaves)

/-- No filter, comparator object or group of any kind is without members, the
    filter itself included. -/
def IsSolid (c : Criteria) : Prop :=
  c.requirements.render .solidity ∧ ∀ g ∈ c.alternatives, g.render .solidity

/-- What the criteria say about the values of their leaves: the filter holds, and
    one of the alternatives if there are any. -/
def meaning (c : Criteria) : Meaning :=
  match c.alternatives with
  | [] => c.requirements.render .meaning
  | gs => .both .and (c.requirements.render .meaning) (.join .or (gs.map (Filter.render .meaning)))

/-- The filter together with the alternatives, as a group that is one more predicate. -/
def combined (c : Criteria) : Filter :=
  match c.alternatives with
  | [] => c.requirements
  | gs => c.requirements ++ [.any gs]

theorem combined_leaves (c : Criteria) : c.combined.render .leaves = c.leaves := by
  unfold combined leaves
  match c.alternatives with
  | [] => simp
  | g :: gs => simp [Filter.render, Predicate.render, Layout.leaves, List.flatMap_def]

theorem combined_meaning (c : Criteria) : c.combined.render .meaning = c.meaning := by
  unfold combined meaning
  match c.alternatives with
  | [] => rfl
  | g :: gs =>
    have h := Meaning.join_append .and (c.requirements.map (Predicate.render .meaning))
      [(Predicate.any (g :: gs)).render .meaning]
    rw [Meaning.join_singleton] at h
    simpa [Filter.render, Predicate.render, Layout.meaning] using h

theorem combined_solidity (c : Criteria) (h : c.IsSolid) : c.combined.render .solidity := by
  unfold combined
  obtain ⟨hf, hg⟩ := h
  match hgs : c.alternatives with
  | [] => exact hf
  | g :: gs =>
    rw [hgs] at hg
    have hany : (Predicate.any (g :: gs)).render .solidity :=
      Predicate.solidity_group.2 ⟨List.cons_ne_nil g gs, hg⟩
    obtain ⟨hne, hf⟩ := Filter.solidity_iff.1 hf
    refine Filter.solidity_iff.2 ⟨by simp, ?_⟩
    exact List.forall_mem_append.2 ⟨hf, List.forall_mem_singleton.2 hany⟩

/-- The restriction is the text of the filter together with the alternatives. -/
theorem combined_text {c : Criteria} (h : c.requirements ≠ []) :
    c.whereClause ++ c.alternativesClause = " WHERE " ++ c.combined.render .text := by
  rw [whereClause_of_ne_nil h, String.append_assoc]
  unfold alternativesClause combined
  match c.alternatives with
  | [] => simp
  | g :: gs =>
    rw [Filter.text_append h (List.cons_ne_nil _ _), Filter.text_singleton, String.append_assoc]

theorem isWritable_of_isSolid {c : Criteria} (hsolid : c.IsSolid)
    (hregex : ∀ l ∈ c.leaves, ¬ l.IsRegex) : c.IsWritable := by
  obtain ⟨hfilter, halternatives⟩ := List.forall_mem_append.1 hregex
  refine ⟨fun f hf => ?_, fun g hg => ?_⟩
  · have hrequirements : c.requirements = f := by rw [requirements, Option.mem_def.1 hf]; rfl
    rw [← hrequirements]
    exact Filter.writability_of_solidity hsolid.1 hfilter
  · exact Filter.writability_of_solidity (hsolid.2 g hg) fun l hl =>
      halternatives l (List.mem_flatMap_of_mem hg hl)

/-- **Compilation preserves the meaning of a filter.**  If no list of parts in
    the criteria is without members, no column has a closing bracket and no like
    group has a regular expression, then the text behind WHERE is read as one
    expression.  Its tests are those of the leaves of the criteria, in order, each
    of them what the leaf by itself is written as, and it has the value that the
    criteria say, whatever the values of the leaves. -/
theorem restriction_meaning (c : Criteria) (hsolid : c.IsSolid)
    (hcolumn : ∀ l ∈ c.leaves, ']' ∉ l.column.toList) (hregex : ∀ l ∈ c.leaves, ¬ l.IsRegex)
    (r : Recorder) :
    ∃ text s ts e, c.restriction.outcome r = (.ok (" WHERE " ++ text), s) ∧
      Sql.tokens? text.toList = some ts ∧ Expression.parse? ts = some e ∧
      e.tests = c.leaves.map (fun l => l.test.tokens) ∧
      List.Forall₂ Leaf.IsWrittenAs c.leaves e.tests ∧
      ∀ σ, e.meaning.value σ = c.meaning.value σ := by
  have hcombined := c.combined_solidity hsolid
  have hrun := (c.restriction_settles.ends (isWritable_of_isSolid hsolid hregex)).outcome_eq r
  rw [combined_text (Filter.solidity_iff.1 hsolid.1).1] at hrun
  rw [← c.combined_leaves] at hcolumn hregex ⊢
  refine ⟨_, _, _, _, hrun, Filter.tokens?_text hcolumn, Filter.parse?_tokens hcombined,
    c.combined.tests_terms, ?_, fun σ => ?_⟩
  · rw [Filter.tests_terms]
    refine List.forall₂_map_right_iff.2 (List.forall₂_same.2 fun l hl => ?_)
    exact Leaf.isWrittenAs_tokens (hregex l hl) (hcolumn l hl)
  · rw [Filter.meaning_terms, combined_meaning]

/-- A comparator object with two tests in a group, and one alternative besides the filter. -/
def nestedCriteria : Criteria where
  filter := some [.any [[.compares "age" [(.greaterThan, .int 5), (.lessThan, .int 9)]],
    [.equals "name" .null, .like [("code", .string "a%%%")]]]]
  alternatives := [[.isIn "id" [.int 1, .int 2]]]

/-- The expression of `nestedCriteria` has the five leaves as its tests. -/
theorem restriction_meaning_nested : ∃ text s ts e,
    nestedCriteria.restriction.outcome {} = (.ok (" WHERE " ++ text), s) ∧
      Sql.tokens? text.toList = some ts ∧ Expression.parse? ts = some e ∧
      e.tests = nestedCriteria.leaves.map (fun l => l.test.tokens) ∧
      List.Forall₂ Leaf.IsWrittenAs nestedCriteria.leaves e.tests ∧
      ∀ σ, e.meaning.value σ = nestedCriteria.meaning.value σ :=
  restriction_meaning nestedCriteria
    (by
      simp [nestedCriteria, IsSolid, requirements, Filter.render, Predicate.render,
        Layout.solidity])
    (by decide)
    (by simp [nestedCriteria, leaves, requirements, Filter.render, Predicate.render,
      Layout.leaves, Leaf.IsRegex]) {}

end Criteria

end QuerySql
