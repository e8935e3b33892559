/-
  What criteria keep of the object they are read from.

  Each key is read into a part of the criteria of its own.  `Governs key update
  part` says that an entry under `key` changes `part` as `update` says, and that
  no other entry changes it.  If the keys are distinct, the part is then decided
  by the entry under its key alone (`Governs.foldlM`).

  Whether keys are distinct or not, every predicate of the criteria is read from
  an entry somewhere in the object (`Everywhere.of_reading`).
-/
import QuerySql.Criteria
import QuerySql.Proofs.Entries
import QuerySql.Proofs.Filter.Reading

namespace QuerySql.Criteria

variable {δ : Type}

/-- Entries under `key` change `part` by `update`, and other entries do not change it. -/
def Governs (key : String) (update : Value → δ → Except Error δ) (part : Criteria → δ) : Prop :=
  ∀ {c c' : Criteria} {k : String} {v : Value}, readEntry c (k, v) = .ok c' →
    if k = key then update v (part c) = .ok (part c') else part c' = part c

/-- What the entries under a key make of a part: nothing if there are none. -/
def updateWith (update : Value → δ → Except Error δ) (v? : Option Value) (d : δ) : Except Error δ :=
  match v? with
  | none => .ok d
  | some v => update v d

/-- **A part of the criteria is decided by the entry under its key**, if the keys
    are distinct. -/
theorem Governs.foldlM {key : String} {update : Value → δ → Except Error δ}
    {part : Criteria → δ} (hgoverns : Governs key update part) {entries : List (String × Value)}
    (hkeys : (entries.map Prod.fst).Nodup) {c c' : Criteria}
    (hread : entries.foldlM readEntry c = .ok c') :
    updateWith update (Entries.get? key entries) (part c) = .ok (part c') := by
  induction entries generalizing c with
  | nil => cases hread; rfl
  | cons e entries ih =>
    obtain ⟨k, v⟩ := e
    obtain ⟨hk, hkeys⟩ := List.nodup_cons.1 hkeys
    rw [List.foldlM_cons] at hread
    obtain ⟨c₁, hstep, hread⟩ := Except.bind_eq_ok.1 hread
    have hpart := hgoverns hstep
    have hrest := ih hkeys hread
    by_cases hkey : k = key
    · rw [if_pos hkey] at hpart
      rw [Entries.get?_eq_none (hkey ▸ hk)] at hrest
      have hsame : part c₁ = part c' := Except.ok.inj hrest
      rw [Entries.get?, if_pos hkey, ← hsame]
      exact hpart
    · rw [if_neg hkey] at hpart
      rw [Entries.get?, if_neg hkey, ← hpart]
      exact hrest

/-- The filter after an entry under `where`. -/
def updateFilter (v : Value) (filter : Option Filter) : Except Error (Option Filter) := do
  if v.isNull then return filter else return some (← Filter.ofValue v)

/-- The alternatives after an entry under `or`. -/
def updateAlternatives (v : Value) (alternatives : List Filter) : Except Error (List Filter) := do
  return (← alternativesOfValue v).getD alternatives

/-- Each member of a list under `or` is an alternative. -/
theorem length_updateAlternatives {items : List Value} (hne : items ≠ []) {gs gs' : List Filter}
    (h : updateAlternatives (.array items) gs = .ok gs') : gs'.length = items.length := by
  obtain ⟨v, items, rfl⟩ := List.exists_cons_of_ne_nil hne
  obtain ⟨gs?, hgs, h⟩ := Except.bind_eq_ok.1 h
  have hlist : alternativesOfValue (.array (v :: items)) =
      (Filter.ofValues (v :: items)).map some := rfl
  rw [hlist, Filter.ofValues_eq] at hgs
  cases hread : (v :: items).mapM Filter.ofValue with
  | error e => rw [hread] at hgs; cases hgs
  | ok fs =>
    rw [hread] at hgs
    cases hgs
    cases h
    exact (Except.mapM_eq_ok.1 hread).length_eq.symm

/-- What an entry can change of the filter and the alternatives. -/
theorem readEntry_cases {c c' : Criteria} {k : String} {v : Value}
    (h : readEntry c (k, v) = .ok c') :
    (k = "where" ∧ updateFilter v c.filter = .ok c'.filter ∧ c'.alternatives = c.alternatives) ∨
    (k = "or" ∧ updateAlternatives v c.alternatives = .ok c'.alternatives ∧
      c'.filter = c.filter) ∨
    (k ≠ "where" ∧ k ≠ "or" ∧ c'.filter = c.filter ∧ c'.alternatives = c.alternatives) := by
  simp only [readEntry] at h
  split at h
  case h_1 =>
    refine Or.inl ⟨rfl, ?_⟩
    by_cases hnull : v.isNull
    · rw [if_pos hnull] at h
      cases h
      exact ⟨by rw [updateFilter, if_pos hnull]; rfl, rfl⟩
    · rw [if_neg hnull] at h
      obtain ⟨f, hf, h⟩ := Except.bind_eq_ok.1 h
      cases h
      exact ⟨by rw [updateFilter, if_neg hnull, hf]; rfl, rfl⟩
  case h_2 =>
    refine Or.inr (Or.inl ⟨rfl, ?_⟩)
    obtain ⟨gs?, hgs, h⟩ := Except.bind_eq_ok.1 h
    unfold updateAlternatives
    rw [hgs]
    cases gs? <;> cases h <;> exact ⟨rfl, rfl⟩
  case h_3 =>
    obtain ⟨sort, -, h⟩ := Except.bind_eq_ok.1 h
    cases h
    exact Or.inr (Or.inr ⟨by decide, by decide, rfl, rfl⟩)
  case h_12 hwhere hor _ _ _ _ _ _ _ _ _ =>
    cases h
    exact Or.inr (Or.inr ⟨hwhere, hor, rfl, rfl⟩)
  all_goals
    cases h
    exact Or.inr (Or.inr ⟨by decide, by decide, rfl, rfl⟩)

theorem governs_filter : Governs "where" updateFilter filter := by
  intro c c' k v h
  rcases readEntry_cases h with ⟨rfl, hfilter, -⟩ | ⟨rfl, -, hfilter⟩ | ⟨hk, -, hfilter, -⟩
  · exact hfilter
  · exact hfilter
  · rw [if_neg hk]; exact hfilter

theorem governs_alternatives : Governs "or" updateAlternatives alternatives := by
  intro c c' k v h
  rcases readEntry_cases h with ⟨rfl, -, hgs⟩ | ⟨rfl, hgs, -⟩ | ⟨-, hk, -, hgs⟩
  · exact hgs
  · exact hgs
  · rw [if_neg hk]; exact hgs

/-! ## Predicates of the criteria -/

/-- `P` holds of all predicates of the criteria, and inside them. -/
def Everywhere (P : Predicate → Prop) (c : Criteria) : Prop :=
  (∀ f ∈ c.filter, ∀ p ∈ f, p.Everywhere P) ∧ ∀ g ∈ c.alternatives, ∀ p ∈ g, p.Everywhere P

section

variable {P : Predicate → Prop} {Q : Value → Prop}
  (hread : ∀ key v p, Q v → Predicate.ofEntry key v = .ok p → P p)
include hread

theorem everywhere_of_updateFilter {v : Value} (hv : v.Everywhere Q) {f? f?' : Option Filter}
    (hf : ∀ f ∈ f?, ∀ p ∈ f, p.Everywhere P) (h : updateFilter v f? = .ok f?') :
    ∀ f ∈ f?', ∀ p ∈ f, p.Everywhere P := by
  unfold updateFilter at h
  split at h
  · cases h
    exact hf
  · obtain ⟨g, hg, h⟩ := Except.bind_eq_ok.1 h
    cases h
    rintro f ⟨⟩
    exact (Predicate.everywhere_of_reading hread hv).2 g hg

theorem everywhere_of_updateAlternatives {v : Value} (hv : v.Everywhere Q) {gs gs' : List Filter}
    (hgs : ∀ g ∈ gs, ∀ p ∈ g, p.Everywhere P) (h : updateAlternatives v gs = .ok gs') :
    ∀ g ∈ gs', ∀ p ∈ g, p.Everywhere P := by
  obtain ⟨gs?, hread', h⟩ := Except.bind_eq_ok.1 h
  cases h
  unfold alternativesOfValue at hread'
  split at hread'
  · cases hread'
    exact hgs
  · next items _ =>
    rw [Filter.ofValues_eq] at hread'
    cases hmembers : items.mapM Filter.ofValue with
    | error e => rw [hmembers] at hread'; cases hread'
    | ok ms =>
      rw [hmembers] at hread'
      cases hread'
      intro g hg
      obtain ⟨w, hw, h⟩ := exists_of_mem_right (Except.mapM_eq_ok.1 hmembers) g hg
      exact (Predicate.everywhere_of_reading hread (hv.of_mem_items w hw)).2 g h
  · cases hread'
    exact hgs

/-- One more entry keeps what holds of the predicates. -/
theorem Everywhere.readEntry {c c' : Criteria} {k : String} {v : Value} (hc : c.Everywhere P)
    (hv : v.Everywhere Q) (h : readEntry c (k, v) = .ok c') : c'.Everywhere P := by
  obtain ⟨hfilter, halternatives⟩ := hc
  rcases readEntry_cases h with ⟨-, hf, hgs⟩ | ⟨-, hgs, hf⟩ | ⟨-, -, hf, hgs⟩
  · exact ⟨everywhere_of_updateFilter hread hv hfilter hf, hgs ▸ halternatives⟩
  · exact ⟨hf ▸ hfilter, everywhere_of_updateAlternatives hread hv halternatives hgs⟩
  · exact ⟨hf ▸ hfilter, hgs ▸ halternatives⟩

theorem Everywhere.foldlM {entries : List (String × Value)} {c c' : Criteria}
    (hc : c.Everywhere P) (hentries : ∀ e ∈ entries, e.2.Everywhere Q)
    (h : entries.foldlM Criteria.readEntry c = .ok c') : c'.Everywhere P := by
  induction entries generalizing c with
  | nil => cases h; exact hc
  | cons e entries ih =>
    obtain ⟨he, hentries⟩ := List.forall_mem_cons.1 hentries
    rw [List.foldlM_cons] at h
    obtain ⟨c₁, hstep, h⟩ := Except.bind_eq_ok.1 h
    exact ih (hc.readEntry hread he hstep) hentries h

/-- **What holds of all that is read from an entry holds everywhere in criteria
    that are read.** -/
theorem Everywhere.of_reading {v : Value} {c : Criteria} (hv : v.Everywhere Q)
    (h : ofValue v = .ok c) : c.Everywhere P := by
  have hempty : Everywhere P {} := ⟨nofun, nofun⟩
  cases v with
  | object entries => exact hempty.foldlM hread hv.of_mem_entries h
  | _ => cases h

end

end QuerySql.Criteria
