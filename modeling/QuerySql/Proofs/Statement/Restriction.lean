/-
  The text that restricts a statement.

  `Criteria.whereClause` and `Criteria.alternativesClause` are its two parts, and
  `Criteria.refusal?` is why there is no such text (`Criteria.restriction_concludes`).
-/
import QuerySql.Proofs.Condition.Text
import QuerySql.Statement.Select

namespace QuerySql

/-- A group with members is refused for the first cause to refuse a member. -/
theorem Predicate.refusal_any {members : List Filter} (h : members ≠ []) :
    (Predicate.any members).render .refusal = members.findSome? (Filter.render .refusal) := by
  rw [render, Filter.memberRenders_eq, Layout.findSome?_eq_joined]
  exact if_neg (by simpa using h)

namespace Criteria

/-- The filter of the criteria; without predicates if they have none. -/
def requirements (c : Criteria) : Filter := c.filter.getD []

/-- The text of the filter, behind WHERE. -/
def whereClause (c : Criteria) : String :=
  match c.filter with
  | none | some [] => ""
  | some f => " WHERE " ++ f.render .text

/-- The text of the alternatives, behind AND. -/
def alternativesClause (c : Criteria) : String :=
  match c.alternatives with
  | [] => ""
  | gs => " AND " ++ (Predicate.any gs).render .text

/-- The filter and the alternatives are writable. -/
def IsWritable (c : Criteria) : Prop :=
  (∀ f ∈ c.filter, f.render .writability) ∧ ∀ g ∈ c.alternatives, g.render .writability

/-- Why the restriction is not written: a cause in the filter, or else the first
    one in the alternatives. -/
def refusal? (c : Criteria) : Option Error :=
  (c.requirements.render .refusal).or (c.alternatives.findSome? (Filter.render .refusal))

theorem refusal?_eq_none {c : Criteria} : c.refusal? = none ↔ c.IsWritable := by
  unfold refusal? IsWritable requirements
  rw [Option.or_eq_none_iff, List.findSome?_eq_none_iff]
  refine and_congr ?_ (forall₂_congr fun _ _ => Filter.refusal_eq_none)
  rw [Filter.refusal_eq_none]
  cases c.filter with
  | none => simp [Filter.render, Layout.writability]
  | some f => simp

theorem whereClause_of_ne_nil {c : Criteria} (h : c.requirements ≠ []) :
    c.whereClause = " WHERE " ++ c.requirements.render .text := by
  unfold requirements at h ⊢
  unfold whereClause
  revert h
  match c.filter with
  | none | some [] => exact fun h => absurd rfl h
  | some (p :: f) => exact fun _ => rfl

theorem filterText_concludes (c : Criteria) :
    c.filterText.Concludes (c.requirements.render .refusal) c.whereClause
      (c.requirements.render .reports) := by
  unfold filterText whereClause requirements
  match c.filter with
  | none | some [] => exact (Compile.ends_pure _).concludes
  | some (p :: f) => exact (Filter.condition_concludes (p :: f)).map (" WHERE " ++ ·)

theorem alternativesText_concludes (c : Criteria) :
    c.alternativesText.Concludes (c.alternatives.findSome? (Filter.render .refusal))
      c.alternativesClause ((Predicate.any c.alternatives).render .reports) := by
  unfold alternativesText alternativesClause
  match c.alternatives with
  | [] => exact (Compile.ends_pure _).concludes
  | g :: gs =>
    rw [← Predicate.refusal_any (List.cons_ne_nil g gs)]
    exact (Predicate.any (g :: gs)).condition_concludes.map (" AND " ++ ·)

/-- **The restriction is written** unless there is a cause to refuse it, and fails
    for that cause otherwise. -/
theorem restriction_concludes (c : Criteria) :
    c.restriction.Concludes c.refusal? (c.whereClause ++ c.alternativesClause)
      (c.requirements.render .reports ++ (Predicate.any c.alternatives).render .reports) :=
  c.filterText_concludes.bind (c.alternativesText_concludes.map (c.whereClause ++ ·))

/-- The restriction is written if the filter and the alternatives are writable,
    and fails otherwise. -/
theorem restriction_settles (c : Criteria) :
    c.restriction.Settles c.IsWritable (c.whereClause ++ c.alternativesClause)
      (c.requirements.render .reports ++ (Predicate.any c.alternatives).render .reports) :=
  c.restriction_concludes.settles refusal?_eq_none

/-- Without a filter and alternatives, and only then, there is no restriction. -/
theorem clauses_eq_empty {c : Criteria} (h : c.whereClause ++ c.alternativesClause = "") :
    c.requirements = [] ∧ c.alternatives = [] := by
  have hempty : c.whereClause = "" ∧ c.alternativesClause = "" := by simpa using h
  refine ⟨by_contra fun hne => ?_, ?_⟩
  · rw [whereClause_of_ne_nil hne] at hempty
    simp at hempty
  · unfold alternativesClause at hempty
    match hgs : c.alternatives with
    | [] => rfl
    | g :: gs => rw [hgs] at hempty; simp at hempty

end Criteria

end QuerySql
