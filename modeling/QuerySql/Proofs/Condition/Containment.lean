/-
  Data in a condition stays data.

  `Filter.skeleton` is a filter without the characters of its texts: it keeps
  the columns, the comparators, the number of values and their kinds.

  * `Filter.redacted_skeleton`: a filter and its skeleton have the same tokens,
    up to the contents of strings;
  * `Filter.condition_contains_data`: a condition is read to its end outside of
    names and strings and neither ends the statement nor starts a comment, and
    filters with the same skeleton have conditions that only differ inside of
    strings.
-/
import QuerySql.Proofs.Condition.Text

namespace QuerySql

variable {β : Type}

/-! ## Skeletons -/

mutual

/-- The predicate without the characters of its texts. -/
def Predicate.skeleton : Predicate → Predicate
  | .equals c v => .equals c v.skeleton
  | .compares c tests => .compares c (tests.map fun t => (t.1, t.2.skeleton))
  | .isIn c vs => .isIn c (vs.map Value.skeleton)
  | .all members => .all (Filter.skeletons members)
  | .any members => .any (Filter.skeletons members)
  | .like patterns => .like (patterns.map fun p => (p.1, p.2.skeleton))

/-- The filter without the characters of its texts. -/
def Filter.skeleton : Filter → Filter
  | [] => []
  | p :: rest => p.skeleton :: Filter.skeleton rest

/-- The members of a group without the characters of their texts. -/
def Filter.skeletons : List Filter → List Filter
  | [] => []
  | f :: rest => Filter.skeleton f :: Filter.skeletons rest

end

theorem Filter.skeleton_eq (f : Filter) : f.skeleton = f.map Predicate.skeleton := by
  induction f with
  | nil => rfl
  | cons p f ih => simp [Filter.skeleton, ih]

theorem Filter.skeletons_eq (members : List Filter) :
    Filter.skeletons members = members.map Filter.skeleton := by
  induction members with
  | nil => rfl
  | cons f members ih => simp [Filter.skeletons, ih]

/-- The layout that makes of a leaf what `L` makes of its skeleton. -/
def Layout.onSkeletons (L : Layout β) : Layout β := { L with leaf := fun l => L.leaf l.skeleton }

theorem Filter.render_skeleton_of_predicates (L : Layout β) {f : Filter}
    (h : ∀ p ∈ f, p.skeleton.render L = p.render L.onSkeletons) :
    f.skeleton.render L = f.render L.onSkeletons := by
  rw [Filter.skeleton_eq, Filter.render, Filter.render, List.map_map]
  exact congrArg L.joined (List.map_congr_left h)

theorem Predicate.render_skeleton (L : Layout β) (p : Predicate) :
    p.skeleton.render L = p.render L.onSkeletons := by
  induction p with
  | equals | isIn => rfl
  | compares | like => simp [skeleton, render, Layout.onSkeletons, Leaf.skeleton, Function.comp_def]
  | all members ih =>
    simp only [skeleton, render, Filter.memberRenders_eq, Filter.skeletons_eq, List.map_map]
    exact congrArg (L.group .and) (List.map_congr_left fun f hf =>
      Filter.render_skeleton_of_predicates L (ih f hf))
  | any members ih =>
    simp only [skeleton, render, Filter.memberRenders_eq, Filter.skeletons_eq, List.map_map]
    exact congrArg (L.group .or) (List.map_congr_left fun f hf =>
      Filter.render_skeleton_of_predicates L (ih f hf))

theorem Filter.render_skeleton (L : Layout β) (f : Filter) :
    f.skeleton.render L = f.render L.onSkeletons :=
  render_skeleton_of_predicates L fun p _ => p.render_skeleton L

/-! ## What the skeleton decides -/

/-- The skeleton decides whether a filter is writable. -/
theorem Filter.writability_skeleton (f : Filter) :
    f.skeleton.render .writability = f.render .writability := by
  have h : Layout.writability.onSkeletons = Layout.writability := by
    simp [Layout.onSkeletons, Layout.writability, Leaf.isRegex_skeleton]
  rw [render_skeleton, h]

/-- The leaves of the skeleton are the skeletons of the leaves. -/
theorem Filter.leaves_skeleton (f : Filter) :
    f.skeleton.render .leaves = (f.render .leaves).map Leaf.skeleton := by
  rw [render_skeleton]
  exact f.render_collect Leaf.skeleton

/-- The skeleton decides the tokens of a filter, up to the contents of strings. -/
theorem Filter.redacted_skeleton (f : Filter) :
    (f.skeleton.render .tokens).map Sql.Token.redacted =
      (f.render .tokens).map Sql.Token.redacted := by
  rw [render_skeleton]
  have h : Layout.tokens.onSkeletons.Related True Layout.tokens
      fun ts us => ts.map Sql.Token.redacted = us.map Sql.Token.redacted := by
    constructor
    · intro xs ys _ h
      exact Sql.Connective.and.redacted_joinTokens (map_eq_map_of_forall₂ h)
    · intro k xs ys _ h
      have hinside := k.redacted_joinTokens (map_eq_map_of_forall₂ h)
      simp [Layout.onSkeletons, Layout.tokens, hinside]
  exact f.related h (Or.inl trivial) fun l _ => l.redacted_skeleton

/-! ## Conditions -/

/-- Two results that are both failures, or both values that `R` relates. -/
def Compile.Alike {α : Type} (R : α → α → Prop) : Except Error α → Except Error α → Prop
  | .ok a, .ok b => R a b
  | .error _, .error _ => True
  | _, _ => False

/-- Two texts that are read as the same tokens, up to the contents of strings. -/
def Sql.SameStructure (text text' : String) : Prop :=
  ∃ ts us, Sql.tokens? text.toList = some ts ∧ Sql.tokens? text'.toList = some us ∧
    ts.map Sql.Token.redacted = us.map Sql.Token.redacted

/-- **Data cannot change the structure of a condition.**  The condition of a
    filter whose columns have no closing bracket is read to its end, and neither
    ends the statement nor starts a comment.  Filters that only differ in the
    characters of their texts have conditions with the same tokens, up to the
    contents of strings, or both have none. -/
theorem Filter.condition_contains_data (f : Filter)
    (h : ∀ l ∈ f.render .leaves, ']' ∉ l.column.toList) :
    (∀ r s text, f.condition.outcome r = (.ok text, s) →
      ∃ ts, Sql.tokens? text.toList = some ts ∧ ∀ t ∈ ts, t.IsInert) ∧
    ∀ g : Filter, g.skeleton = f.skeleton → ∀ r s,
      Compile.Alike Sql.SameStructure (f.condition.outcome r).1 (g.condition.outcome s).1 := by
  constructor
  · intro r s text hf
    obtain ⟨-, rfl⟩ := f.condition_settles.of_outcome_eq hf
    exact ⟨_, tokens?_text h, f.isInert_of_mem_tokens⟩
  · intro g hg r s
    have hcolumn : ∀ l ∈ g.render .leaves, ']' ∉ l.column.toList := by
      intro l hl
      have hmem : l.skeleton ∈ (f.render .leaves).map Leaf.skeleton := by
        rw [← leaves_skeleton, ← hg, leaves_skeleton]
        exact List.mem_map_of_mem hl
      obtain ⟨l', hl', hskeleton⟩ := List.mem_map.1 hmem
      rw [← Leaf.column_skeleton, ← hskeleton, Leaf.column_skeleton]
      exact h l' hl'
    have hwritable : g.render .writability = f.render .writability := by
      rw [← g.writability_skeleton, hg, f.writability_skeleton]
    by_cases hf : f.render .writability
    · rw [(f.condition_settles.ends hf).outcome_eq,
        (g.condition_settles.ends (hwritable ▸ hf)).outcome_eq]
      refine ⟨_, _, tokens?_text h, tokens?_text hcolumn, ?_⟩
      rw [← f.redacted_skeleton, ← hg, g.redacted_skeleton]
    · obtain ⟨e, ds, he⟩ := f.condition_settles.fails hf
      obtain ⟨e', ds', he'⟩ := g.condition_settles.fails (hwritable ▸ hf)
      rw [he.outcome_eq, he'.outcome_eq]
      trivial

/-- A value that closes its string and starts a comment is read like an empty one. -/
theorem Filter.condition_contains_data_of_comment :
    (∀ l ∈ Filter.render .leaves [.equals "name" (.string "' OR 1=1 --")],
      ']' ∉ l.column.toList) ∧
    Compile.Alike Sql.SameStructure
      ((Filter.condition [.equals "name" (.string "' OR 1=1 --")]).outcome {}).1
      ((Filter.condition [.equals "name" (.string "")]).outcome {}).1 :=
  have h : ∀ l ∈ Filter.render .leaves [.equals "name" (.string "' OR 1=1 --")],
      ']' ∉ l.column.toList := by decide
  ⟨h, (condition_contains_data _ h).2 [.equals "name" (.string "")] rfl {} {}⟩

end QuerySql
