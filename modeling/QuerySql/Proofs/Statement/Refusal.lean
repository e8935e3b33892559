/-
  What criteria are refused for.

  A filter that is read has no group without members, so all that is left to
  refuse are regular expressions in its like groups, and the first one counts
  (`Criteria.refusal?_of_reading`).  JSON has no regular expressions: criteria
  from a JSON text are never refused.
-/
import QuerySql.Proofs.Condition.Meaning
import QuerySql.Proofs.Criteria.Reading
import QuerySql.Proofs.Value.Json
import QuerySql.Statement.Change

namespace QuerySql

/-! ## Filters -/

theorem Layout.findSome?_flatten {ls : List (List Leaf)} :
    ls.flatten.findSome? Leaf.refusal? =
      Layout.refusal.joined (ls.map (List.findSome? Leaf.refusal?)) := by
  rw [← Layout.findSome?_eq_joined]
  induction ls with
  | nil => rfl
  | cons l ls ih =>
    rw [List.flatten_cons, List.findSome?_append, ih, List.findSome?_cons]
    cases l.findSome? Leaf.refusal? <;> rfl

namespace Filter

theorem refusal_of_predicates {f : Filter}
    (h : ∀ p ∈ f, p.render .refusal = (p.render .leaves).findSome? Leaf.refusal?) :
    f.render .refusal = (f.render .leaves).findSome? Leaf.refusal? := by
  have hleaves : f.render .leaves = (f.map (Predicate.render .leaves)).flatten := rfl
  rw [hleaves, Layout.findSome?_flatten, List.map_map]
  exact congrArg Layout.refusal.joined (List.map_congr_left h)

theorem refusal_of_members (k : Sql.Connective) {members : List Filter} (hne : members ≠ [])
    (h : ∀ f ∈ members, f.render .refusal = (f.render .leaves).findSome? Leaf.refusal?) :
    Layout.refusal.group k (members.map (render .refusal)) =
      (members.map (render .leaves)).flatten.findSome? Leaf.refusal? := by
  have hgroup : Layout.refusal.group k (members.map (render .refusal)) =
      Layout.refusal.joined (members.map (render .refusal)) := if_neg (by simpa using hne)
  rw [hgroup, Layout.findSome?_flatten, List.map_map]
  exact congrArg Layout.refusal.joined (List.map_congr_left h)

end Filter

/-- A predicate whose groups have members is refused for the first of its leaves that is. -/
theorem Predicate.refusal_of_isChecked {p : Predicate} (h : p.Everywhere IsChecked) :
    p.render .refusal = (p.render .leaves).findSome? Leaf.refusal? := by
  induction p with
  | equals | isIn => simp [render, Layout.leaves, Layout.refusal]
  | compares | like =>
    simp only [render, Layout.leaves]
    rw [Layout.findSome?_flatten, List.map_map]
    simp [Layout.refusal, Function.comp_def]
  | all members ih | any members ih =>
    obtain ⟨hne, hinside⟩ := everywhere_iff.1 h
    rw [render, render, Filter.memberRenders_eq, Filter.memberRenders_eq]
    refine Filter.refusal_of_members _ hne fun f hf => Filter.refusal_of_predicates ?_
    intro p hp
    exact ih f hf p hp (hinside f hf p hp)

theorem Filter.refusal_of_isChecked {f : Filter} (h : ∀ p ∈ f, p.Everywhere Predicate.IsChecked) :
    f.render .refusal = (f.render .leaves).findSome? Leaf.refusal? :=
  refusal_of_predicates fun p hp => Predicate.refusal_of_isChecked (h p hp)

/-! ## Regular expressions -/

/-- The patterns of a like group are not regular expressions. -/
def Predicate.IsPlain : Predicate → Prop
  | .like patterns => ∀ p ∈ patterns, ∀ text, p.2 ≠ .regex text
  | _ => True

theorem Predicate.not_isRegex_of_isPlain {p : Predicate} (h : p.Everywhere IsPlain) :
    ∀ l ∈ p.render .leaves, ¬ l.IsRegex := by
  induction p with
  | equals | isIn => simp [render, Layout.leaves, Leaf.isRegex_iff]
  | compares => simp +contextual [render, Layout.leaves, Leaf.isRegex_iff]
  | like patterns =>
    have hplain : IsPlain (.like patterns) := (everywhere_iff.1 h).1
    simp only [render, Layout.leaves, List.mem_flatten, List.mem_map, Leaf.isRegex_iff]
    rintro l ⟨ls, ⟨p, hp, rfl⟩, hl⟩ ⟨c, text, rfl⟩
    obtain ⟨-, hv⟩ := Leaf.like.inj (List.mem_singleton.1 hl)
    exact hplain p hp text hv.symm
  | all members ih | any members ih =>
    obtain ⟨-, hinside⟩ := everywhere_iff.1 h
    simp only [render, Filter.memberRenders_eq, Layout.leaves, List.mem_flatten, List.mem_map]
    rintro l ⟨ls, ⟨f, hf, rfl⟩, hl⟩
    obtain ⟨p, hp, hl⟩ := Filter.mem_leaves.1 hl
    exact ih f hf p hp (hinside f hf p hp) l hl

/-- The values in a value are not regular expressions. -/
def Value.HasPlainParts (v : Value) : Prop := ∀ w ∈ v.parts, ∀ text, w ≠ .regex text

/-- What is read from an entry without regular expressions has none under `like`. -/
theorem Predicate.isPlain_of_ofEntry (key : String) (v : Value) (p : Predicate)
    (hv : v.HasPlainParts) (h : ofEntry key v = .ok p) : p.IsPlain := by
  obtain ⟨hspelled, -⟩ := ofEntry_eq_ok.1 h
  cases hspelled with
  | like _ patterns => exact fun p hp => hv p.2 (List.mem_map_of_mem hp)
  | list hkey | named hkey => rcases eq_of_group? hkey with rfl | rfl <;> trivial
  | equals | compares | isIn => trivial

/-- There are no regular expressions in the value of a JSON text. -/
theorem Value.hasPlainParts_ofJson (j : Json) : (ofJson j).Everywhere HasPlainParts := by
  induction j with
  | array items ih =>
    rw [ofJson_array]
    refine .intro (List.forall_mem_map.2 fun i _ => ofJson_ne_regex i) (List.forall_mem_map.2 ih)
  | object entries ih =>
    have hparts : (ofJson (.object entries)).parts = entries.map fun e => ofJson e.2 := by
      rw [ofJson_object, parts, List.map_map]; rfl
    refine .intro ?_ ?_
    · rw [HasPlainParts, hparts]
      exact List.forall_mem_map.2 fun e _ => ofJson_ne_regex e.2
    · rw [hparts]
      exact List.forall_mem_map.2 ih
  | integer n =>
    have hparts : (ofJson (.integer n)).parts = [] := by
      rw [ofJson]; split <;> rfl
    rw [everywhere_of_parts_eq_nil hparts, HasPlainParts, hparts]
    exact List.forall_mem_nil _
  | null | bool | float | string =>
    exact (everywhere_of_parts_eq_nil rfl).2 (List.forall_mem_nil _)

/-! ## Criteria -/

namespace Criteria

theorem Everywhere.requirements {P : Predicate → Prop} {c : Criteria} (h : c.Everywhere P) :
    ∀ p ∈ c.requirements, p.Everywhere P := by
  unfold Criteria.requirements
  cases hf : c.filter with
  | none => exact nofun
  | some f => exact h.1 f hf

theorem refusal?_of_isChecked {c : Criteria} (h : c.Everywhere Predicate.IsChecked) :
    c.refusal? = c.leaves.findSome? Leaf.refusal? := by
  have halternatives : c.alternatives.findSome? (Filter.render .refusal) =
      (c.alternatives.flatMap (Filter.render .leaves)).findSome? Leaf.refusal? := by
    rw [List.flatMap_def, Layout.findSome?_flatten, Layout.findSome?_eq_joined, List.map_map]
    exact congrArg Layout.refusal.joined
      (List.map_congr_left fun g hg => Filter.refusal_of_isChecked (h.2 g hg))
  rw [refusal?, leaves, List.findSome?_append, Filter.refusal_of_isChecked h.requirements,
    halternatives]

/-- **Criteria that are read are refused for the first leaf that is.** -/
theorem refusal?_of_reading {v : Value} {c : Criteria} (hread : ofValue v = .ok c) :
    c.refusal? = c.leaves.findSome? Leaf.refusal? := by
  have hchecked : ∀ key w p, True → Predicate.ofEntry key w = .ok p → p.IsChecked :=
    fun key w p _ h => (Predicate.ofEntry_eq_ok.1 h).2.isChecked
  have hall := Value.everywhere_of_forall (P := fun _ => True) (fun _ => trivial) v
  exact refusal?_of_isChecked (Everywhere.of_reading hchecked hall hread)

theorem not_isRegex_of_ofJson {j : Json} {c : Criteria} (hread : ofValue (.ofJson j) = .ok c) :
    ∀ l ∈ c.leaves, ¬ l.IsRegex := by
  have hplain := Everywhere.of_reading Predicate.isPlain_of_ofEntry
    (Value.hasPlainParts_ofJson j) hread
  have hleaves : ∀ f : Filter, (∀ p ∈ f, p.Everywhere Predicate.IsPlain) →
      ∀ l ∈ f.render .leaves, ¬ l.IsRegex := by
    intro f hf l hl
    obtain ⟨p, hp, hl⟩ := Filter.mem_leaves.1 hl
    exact Predicate.not_isRegex_of_isPlain (hf p hp) l hl
  refine List.forall_mem_append.2 ⟨hleaves _ hplain.requirements, fun l hl => ?_⟩
  obtain ⟨g, hg, hl⟩ := List.mem_flatMap.1 hl
  exact hleaves g (hplain.2 g hg) l hl

/-- The first leaf that is refused is the first regular expression in a like group. -/
theorem findSome?_refusal?_eq_some {ls : List Leaf} {e : Error}
    (h : ls.findSome? Leaf.refusal? = some e) :
    ∃ before column pattern after, ls = before ++ .like column (.regex pattern) :: after ∧
      (∀ l ∈ before, ¬ l.IsRegex) ∧ e = .regexPattern column pattern := by
  obtain ⟨before, l, after, rfl, hl, hbefore⟩ := List.findSome?_eq_some_iff.1 h
  obtain ⟨column, pattern, rfl, rfl⟩ := Leaf.refusal?_eq_some.1 hl
  exact ⟨before, column, pattern, after, rfl, fun l hl => Leaf.refusal?_eq_none.1 (hbefore l hl), rfl⟩

/-- **Reading leaves one way to be refused.**  A DELETE with criteria that are read
    fails iff there is a regular expression in a like group of the filter or of
    the alternatives.  The error names the first one, so it is never that a group
    has no members, and criteria from a JSON text do not fail at all. -/
theorem deleteText_fails_iff {v : Value} {c : Criteria} (hread : ofValue v = .ok c)
    (table : String) (r : Recorder) :
    ((∃ e, ((c.deleteText table).outcome r).1 = .error e) ↔ ∃ l ∈ c.leaves, l.IsRegex) ∧
    (∀ e, ((c.deleteText table).outcome r).1 = .error e →
      ∃ before column pattern after,
        c.leaves = before ++ .like column (.regex pattern) :: after ∧
        (∀ l ∈ before, ¬ l.IsRegex) ∧ e = .regexPattern column pattern ∧
        e.category = .unsupportedValueType) ∧
    (c.restriction.outcome r).1 ≠ .error .emptyGroup ∧
    ((∃ text, Value.ofJsonText? text = some v) →
      ∃ sql, ((c.deleteText table).outcome r).1 = .ok sql) := by
  have hcause := refusal?_of_reading hread
  have hrestriction := c.restriction_concludes.outcome_fst r
  have hdelete : ((c.deleteText table).outcome r).1 =
      c.refusal?.elim (.ok _) .error :=
    (c.restriction_concludes.map ("DELETE FROM " ++ Text.bracketed table ++ ·)).outcome_fst r
  rw [hdelete, hrestriction, hcause]
  cases hrefusal : c.leaves.findSome? Leaf.refusal? with
  | none =>
    have hplain : ∀ l ∈ c.leaves, ¬ l.IsRegex := fun l hl =>
      Leaf.refusal?_eq_none.1 (List.findSome?_eq_none_iff.1 hrefusal l hl)
    refine ⟨iff_of_false nofun ?_, nofun, nofun, fun _ => ⟨_, rfl⟩⟩
    rintro ⟨l, hl, hregex⟩
    exact hplain l hl hregex
  | some e =>
    obtain ⟨before, column, pattern, after, hleaves, hbefore, rfl⟩ :=
      findSome?_refusal?_eq_some hrefusal
    have hmem : Leaf.like column (.regex pattern) ∈ c.leaves := by simp [hleaves]
    refine ⟨iff_of_true ⟨_, rfl⟩ ⟨_, hmem, trivial⟩, ?_, nofun, ?_⟩
    · rintro e ⟨⟩
      exact ⟨before, column, pattern, after, hleaves, hbefore, rfl, rfl⟩
    · rintro ⟨text, htext⟩
      obtain ⟨j, -, rfl⟩ := Option.map_eq_some_iff.1 htext
      exact absurd trivial (not_isRegex_of_ofJson hread _ hmem)

/-- A regular expression in a like group that stands in a group. -/
theorem deleteText_fails_iff_nested :
    let c : Criteria := { filter := some [.any [[.like [("a", .string "x"), ("b", .regex "p")]]]] }
    ofValue (.object [("where", .object [("or", .array [.object
      [("like", .object [("a", .string "x"), ("b", .regex "p")])]])])]) = .ok c ∧
    ∃ e, ((deleteText "t" c).outcome {}).1 = .error e := by
  intro c
  have hread : ofValue (.object [("where", .object [("or", .array [.object
      [("like", .object [("a", .string "x"), ("b", .regex "p")])]])])]) = .ok c := rfl
  have hleaf : Leaf.like "b" (.regex "p") ∈ c.leaves := by
    simp [c, leaves, requirements, Filter.render, Predicate.render, Layout.leaves]
  exact ⟨hread, (deleteText_fails_iff hread "t" {}).1.2 ⟨_, hleaf, trivial⟩⟩

end Criteria

end QuerySql
