/-
  Statements that change all rows.

  A DELETE or an UPDATE whose text ends behind the table or the assigned values
  changes all rows of the table.  The criteria of such a statement ask for no
  condition under `where`, and under `or` they have no list with members
  (`Criteria.no_condition_of_unrestricted`).  A value under `or` that is not a
  list, an object of filters included, means nothing at the top level
  (`Criteria.alternativesOfValue`), so it does not restrict the statement.
-/
import QuerySql.Proofs.Criteria.Reading
import QuerySql.Proofs.Statement.Restriction
import QuerySql.Statement.Change

namespace QuerySql

/-- An UPDATE with values is its assigned values and the restriction. -/
theorem Row.updateText_of_ne_nil (table : String) {row : Row} (h : row ≠ []) (c : Criteria) :
    updateText table row c = do
      let assigned ← assignments row
      return "UPDATE " ++ Text.bracketed table ++ " SET " ++ assigned ++ (← c.restriction) := by
  cases row with
  | nil => exact absurd rfl h
  | cons e row => rfl

namespace Criteria

variable {entries : List (String × Value)} {c : Criteria}

theorem eq_empty_of_eq_append {s t : String} (h : s = s ++ t) : t = "" := by
  have happend : s ++ "" = s ++ t := by rwa [String.append_empty]
  exact ((String.append_right_inj s).1 happend).symm

/-- Criteria without predicates have nothing but null or an empty object under `where`. -/
theorem where_of_requirements_eq_nil (hkeys : (entries.map Prod.fst).Nodup)
    (hread : ofValue (.object entries) = .ok c) (hc : c.requirements = []) {v : Value}
    (hv : Entries.get? "where" entries = some v) : v = .null ∨ v = .object [] := by
  have hfilter := governs_filter.foldlM hkeys hread
  rw [hv, updateWith, updateFilter] at hfilter
  by_cases hnull : v.isNull
  · cases v <;> first | exact Or.inl rfl | cases hnull
  · rw [if_neg hnull] at hfilter
    obtain ⟨f, hf, hsome⟩ := Except.bind_eq_ok.1 hfilter
    have hnil : f = [] := by
      have hsome : some f = c.filter := Except.ok.inj hsome
      rwa [requirements, ← hsome] at hc
    cases v with
    | object inner =>
      have hlength := Filter.length_ofValue hf
      rw [hnil] at hlength
      rw [List.length_eq_zero_iff.1 hlength.symm]
      exact Or.inr rfl
    | _ => cases hf

/-- Criteria without alternatives have no list with members under `or`. -/
theorem or_of_alternatives_eq_nil (hkeys : (entries.map Prod.fst).Nodup)
    (hread : ofValue (.object entries) = .ok c) (hc : c.alternatives = []) {items : List Value}
    (hitems : Entries.get? "or" entries = some (.array items)) : items = [] := by
  have halternatives := governs_alternatives.foldlM hkeys hread
  rw [hitems] at halternatives
  by_contra hne
  have hlength := length_updateAlternatives hne halternatives
  rw [hc] at hlength
  exact hne (List.length_eq_zero_iff.1 hlength.symm)

/-- **Only a request without conditions changes all rows.**  If a DELETE ends
    behind its table, or an UPDATE behind the values it assigns, then the object
    that its criteria were read from has nothing, null or an empty object under
    `where`, and under `or` it has nothing or a value that is not a list with
    members. -/
theorem no_condition_of_unrestricted (hkeys : (entries.map Prod.fst).Nodup)
    (hread : ofValue (.object entries) = .ok c) (table : String) (r : Recorder)
    (hall : (∃ s, (c.deleteText table).outcome r =
        (.ok ("DELETE FROM " ++ Text.bracketed table), s)) ∨
      ∃ row assigned s s', row ≠ [] ∧ (Row.assignments row).outcome r = (.ok assigned, s) ∧
        (Row.updateText table row c).outcome r =
          (.ok ("UPDATE " ++ Text.bracketed table ++ " SET " ++ assigned), s')) :
    (∀ v, Entries.get? "where" entries = some v → v = .null ∨ v = .object []) ∧
    ∀ items, Entries.get? "or" entries = some (.array items) → items = [] := by
  have hempty : c.whereClause ++ c.alternativesClause = "" := by
    rcases hall with ⟨s, hdelete⟩ | ⟨row, assigned, s, s', hrow, hassign, hupdate⟩
    · have hsettles := c.restriction_settles.map ("DELETE FROM " ++ Text.bracketed table ++ ·)
      exact eq_empty_of_eq_append (hsettles.of_outcome_eq hdelete).2
    · have hsettles := c.restriction_settles.map
        ("UPDATE " ++ Text.bracketed table ++ " SET " ++ assigned ++ ·)
      rw [Row.updateText_of_ne_nil table hrow, Compile.outcome_bind hassign] at hupdate
      exact eq_empty_of_eq_append (hsettles.of_outcome_eq hupdate).2
  obtain ⟨hfilter, halternatives⟩ := clauses_eq_empty hempty
  exact ⟨fun v hv => where_of_requirements_eq_nil hkeys hread hfilter hv,
    fun items hitems => or_of_alternatives_eq_nil hkeys hread halternatives hitems⟩

/-- Criteria with an empty filter delete all rows. -/
theorem no_condition_of_unrestricted_empty_where :
    (∀ v, Entries.get? "where" [("where", Value.object [])] = some v → v = .null ∨ v = .object []) ∧
    ∀ items, Entries.get? "or" [("where", Value.object [])] = some (.array items) → items = [] := by
  have hread : ofValue (.object [("where", .object [])]) = .ok { filter := some [] } := by rfl
  have htext : (deleteText "t" { filter := some [] }).outcome {} = (.ok "DELETE FROM [t]", {}) := by
    rfl
  exact no_condition_of_unrestricted (by decide) hread "t" {} (Or.inl ⟨{}, htext⟩)

/-- It is not so that everything under `or` restricts a statement: an object of
    filters does not. -/
theorem unrestricted_with_object_under_or :
    ¬ ∀ (entries : List (String × Value)) (c : Criteria) (table : String) (r s : Recorder),
      (entries.map Prod.fst).Nodup → ofValue (.object entries) = .ok c →
      (c.deleteText table).outcome r = (.ok ("DELETE FROM " ++ Text.bracketed table), s) →
      ∀ v, Entries.get? "or" entries = some v → v = .null ∨ v = .array [] ∨ v = .object [] := by
  intro h
  let entries : List (String × Value) := [("or", .object [("x", .object [("a", .int 1)])])]
  have hkeys : (entries.map Prod.fst).Nodup := by simp [entries]
  have hread : ofValue (.object entries) = .ok {} := rfl
  have htext : (deleteText "t" {}).outcome {} = (.ok "DELETE FROM [t]", {}) := rfl
  rcases h entries {} "t" {} {} hkeys hread htext _ rfl with h | h | h <;> cases h

end Criteria

end QuerySql
