/-
  Predicates inside predicates.

  * `Predicate.induction` is induction on what a predicate is made of;
  * `Predicate.Everywhere`: something holds of a predicate and of all the
    predicates inside it.
-/
import QuerySql.Filter.Basic

namespace QuerySql.Predicate

theorem sizeOf_lt_of_mem {members : List (List Predicate)} {f : List Predicate} {p : Predicate}
    (hf : f ∈ members) (hp : p ∈ f) : sizeOf p < sizeOf members :=
  Nat.lt_trans (List.sizeOf_lt_of_mem hp) (List.sizeOf_lt_of_mem hf)

/-- Induction on a predicate: a group inherits what holds of the predicates of its members. -/
@[elab_as_elim, induction_eliminator]
theorem induction {motive : Predicate → Prop}
    (equals : ∀ c v, motive (.equals c v))
    (compares : ∀ c tests, motive (.compares c tests))
    (isIn : ∀ c vs, motive (.isIn c vs))
    (all : ∀ members, (∀ f ∈ members, ∀ p ∈ f, motive p) → motive (.all members))
    (any : ∀ members, (∀ f ∈ members, ∀ p ∈ f, motive p) → motive (.any members))
    (like : ∀ patterns, motive (.like patterns)) (p : Predicate) : motive p :=
  match p with
  | .equals c v => equals c v
  | .compares c tests => compares c tests
  | .isIn c vs => isIn c vs
  | .all members => all members fun _ hf q hq =>
    have := sizeOf_lt_of_mem hf hq
    induction equals compares isIn all any like q
  | .any members => any members fun _ hf q hq =>
    have := sizeOf_lt_of_mem hf hq
    induction equals compares isIn all any like q
  | .like patterns => like patterns
termination_by sizeOf p
decreasing_by
  all_goals
    simp only [Predicate.all.sizeOf_spec, Predicate.any.sizeOf_spec]
    omega

/-- The filters that are the members of a group. -/
def members : Predicate → List Filter
  | all members | any members => members
  | _ => []

/-- `P` holds of the predicate and of all predicates inside it. -/
inductive Everywhere (P : Predicate → Prop) : Predicate → Prop
  | intro {p} (here : P p) (inside : ∀ f ∈ p.members, ∀ q ∈ f, Everywhere P q) : Everywhere P p

theorem everywhere_iff {P : Predicate → Prop} {p : Predicate} :
    p.Everywhere P ↔ P p ∧ ∀ f ∈ p.members, ∀ q ∈ f, q.Everywhere P :=
  ⟨fun ⟨here, inside⟩ => ⟨here, inside⟩, fun ⟨here, inside⟩ => ⟨here, inside⟩⟩

theorem Everywhere.mono {P Q : Predicate → Prop} (hPQ : ∀ p, P p → Q p) {p : Predicate}
    (h : p.Everywhere P) : p.Everywhere Q := by
  induction h with
  | intro here _ ih => exact .intro (hPQ _ here) ih

end QuerySql.Predicate
