/-
  The filters that can be read.

  A value may be written for more than one filter: `{"or": [1]}` is a group with
  a member, but also a list of values of a column `or`.

  * `Filter.SpelledBy`: a value may be written for a filter, whatever the order
    in which the kinds of entries are tried;
  * a value is read as a filter iff it is written for the filter and this is
    readable everywhere (`Filter.ofValue_eq_ok_iff`);
  * `Filter.toValue` writes a filter, so every readable filter is read from some
    value (`Filter.exists_ofValue_iff`).
-/
import QuerySql.Proofs.Filter.Reading
import QuerySql.Criteria

namespace QuerySql

/-! ## Spelling -/

/-- A value that may be written for a filter: an object with an entry for each
    predicate. -/
inductive Filter.SpelledBy : Value → Filter → Prop
  | object {entries f} (h : List.Forall₂ (Predicate.Spelled SpelledBy) entries f) :
    SpelledBy (.object entries) f

theorem Filter.spelledBy_iff {v : Value} {f : Filter} : SpelledBy v f ↔ ∃ entries, v = .object entries ∧
    List.Forall₂ (Predicate.Spelled SpelledBy) entries f :=
  ⟨fun ⟨h⟩ => ⟨_, rfl, h⟩, fun ⟨_, hv, h⟩ => hv ▸ ⟨h⟩⟩

/-- Reading takes what is spelled and readable, from an entry and from a value as
    a filter. -/
theorem Predicate.reading_iff (v : Value) :
    (∀ key p, ofEntry key v = .ok p ↔
      Spelled Filter.SpelledBy (key, v) p ∧ p.Everywhere IsReadable) ∧
    ∀ f, Filter.ofValue v = .ok f ↔
      Filter.SpelledBy v f ∧ ∀ p ∈ f, p.Everywhere IsReadable := by
  induction v using Value.partsInduction with
  | whole v ih =>
  constructor
  · intro key p
    rw [ofEntry_eq_ok, everywhere_iff]
    constructor
    · rintro ⟨hspelled, hreadable⟩
      refine ⟨hspelled.imp fun w hw f _ h => (((ih w hw).2 f).1 h).1, hreadable, ?_⟩
      intro f hf
      obtain ⟨w, hw, h⟩ := hspelled.exists_of_mem_members f hf
      exact (((ih w hw).2 f).1 h).2
    · rintro ⟨hspelled, hreadable, hinside⟩
      exact ⟨hspelled.imp fun w hw f hf h => ((ih w hw).2 f).2 ⟨h, hinside f hf⟩, hreadable⟩
  · intro f
    rw [Filter.ofValue_eq_ok, Filter.spelledBy_iff]
    constructor
    · rintro ⟨entries, rfl, hall⟩
      have hpart : ∀ e ∈ entries, e.2 ∈ (Value.object entries).parts := fun e he =>
        List.mem_map_of_mem he
      refine ⟨⟨entries, rfl, ?_⟩, ?_⟩
      · exact forall₂_imp_of_mem hall fun e he p _ h => (((ih e.2 (hpart e he)).1 e.1 p).1 h).1
      · intro p hp
        obtain ⟨e, he, h⟩ := exists_of_mem_right hall p hp
        exact (((ih e.2 (hpart e he)).1 e.1 p).1 h).2
    · rintro ⟨⟨entries, rfl, hall⟩, hreadable⟩
      refine ⟨entries, rfl, forall₂_imp_of_mem hall fun e he p hp h => ?_⟩
      exact ((ih e.2 (List.mem_map_of_mem he)).1 e.1 p).2 ⟨h, hreadable p hp⟩

/-- **A value is read as a filter iff it is written for the filter and this is
    readable everywhere.** -/
theorem Filter.ofValue_eq_ok_iff {v : Value} {f : Filter} : ofValue v = .ok f ↔
    SpelledBy v f ∧ ∀ p ∈ f, p.Everywhere Predicate.IsReadable :=
  (Predicate.reading_iff v).2 f

/-! ## Writing -/

/-- A key of a comparator. -/
def Comparator.key : Comparator → String
  | lessThan => "<"
  | lessThanOrEqual => "<="
  | greaterThan => ">"
  | greaterThanOrEqual => ">="
  | not => "!"
  | like => "like"
  | contains => "contains"
  | startsWith => "startsWith"
  | endsWith => "endsWith"

theorem Comparator.ofKey?_key (c : Comparator) : ofKey? c.key = some c := by
  cases c <;> decide

theorem Predicate.group?_or : group? "or" = some any := rfl

theorem Predicate.group?_and : group? "and" = some all := rfl

theorem Keyword.ofKey?_like : ofKey? "like" = some like := rfl

mutual

/-- The entry that is written for a predicate. -/
def Predicate.toEntry : Predicate → String × Value
  | .equals column v => (column, v)
  | .compares column tests => (column, .object (tests.map fun (c, v) => (c.key, v)))
  | .isIn column values => (column, .array values)
  | .all members => ("and", .array (Filter.memberValues members))
  | .any members => ("or", .array (Filter.memberValues members))
  | .like patterns => ("like", .object patterns)

/-- The entries that are written for the predicates of a filter. -/
def Filter.toEntries : List Predicate → List (String × Value)
  | [] => []
  | p :: rest => p.toEntry :: Filter.toEntries rest

/-- The values that are written for the members of a group. -/
def Filter.memberValues : List (List Predicate) → List Value
  | [] => []
  | f :: rest => .object (Filter.toEntries f) :: Filter.memberValues rest

end

/-- The value that is written for a filter. -/
def Filter.toValue (f : Filter) : Value := .object (toEntries f)

theorem Filter.toEntries_eq (f : Filter) : toEntries f = f.map Predicate.toEntry := by
  induction f with
  | nil => rfl
  | cons p f ih => rw [toEntries, ih, List.map_cons]

theorem Filter.memberValues_eq (members : List Filter) :
    memberValues members = members.map toValue := by
  induction members with
  | nil => rfl
  | cons f members ih => rw [memberValues, ih, List.map_cons, toValue]

/-- A filter may be written part by part. -/
theorem Filter.spelledBy_toValue_of_predicates {f : Filter}
    (h : ∀ p ∈ f, Predicate.Spelled SpelledBy p.toEntry p) : SpelledBy f.toValue f := by
  rw [toValue, toEntries_eq]
  exact ⟨List.forall₂_map_left_iff.2 (List.forall₂_same.2 h)⟩

/-- What is written for a predicate may be written for it. -/
theorem Predicate.spelled_toEntry (p : Predicate) : Spelled Filter.SpelledBy p.toEntry p := by
  have hmembers : ∀ members : List Filter,
      (∀ f ∈ members, ∀ p ∈ f, Spelled Filter.SpelledBy p.toEntry p) →
        List.Forall₂ Filter.SpelledBy (Filter.memberValues members) members := by
    intro members h
    rw [Filter.memberValues_eq]
    exact List.forall₂_map_left_iff.2 (List.forall₂_same.2 fun f hf =>
      Filter.spelledBy_toValue_of_predicates (h f hf))
  induction p with
  | equals column v => exact .equals column v
  | compares column tests =>
    refine .compares column (List.forall₂_map_left_iff.2 (List.forall₂_same.2 fun t _ => ?_))
    exact ⟨t.1.ofKey?_key, rfl⟩
  | isIn column values => exact .isIn column values
  | all members ih => exact .list group?_and (hmembers members ih)
  | any members ih => exact .list group?_or (hmembers members ih)
  | like patterns => exact .like Keyword.ofKey?_like patterns

/-- What is written for a filter may be written for it. -/
theorem Filter.spelledBy_toValue (f : Filter) : SpelledBy f.toValue f :=
  spelledBy_toValue_of_predicates fun p _ => p.spelled_toEntry

/-- **What can be read are the filters that are readable everywhere.**  No other
    readable filter is written like a value that is read, and each one is the
    filter of the criteria that hold its written form under `where`. -/
theorem Filter.exists_ofValue_iff (f : Filter) :
    ((∃ v, ofValue v = .ok f) ↔ ∀ p ∈ f, p.Everywhere Predicate.IsReadable) ∧
    (∀ v g, ofValue v = .ok g → SpelledBy v f → (∀ p ∈ f, p.Everywhere Predicate.IsReadable) →
      f = g) ∧
    ((∀ p ∈ f, p.Everywhere Predicate.IsReadable) →
      Criteria.ofValue (.object [("where", f.toValue)]) = .ok { filter := some f }) := by
  refine ⟨⟨?_, ?_⟩, ?_, ?_⟩
  · rintro ⟨v, hread⟩
    exact (ofValue_eq_ok_iff.1 hread).2
  · intro hreadable
    exact ⟨f.toValue, ofValue_eq_ok_iff.2 ⟨f.spelledBy_toValue, hreadable⟩⟩
  · intro v g hread hspelled hreadable
    have hread' := ofValue_eq_ok_iff.2 ⟨hspelled, hreadable⟩
    exact Except.ok.inj (hread'.symm.trans hread)
  · intro hreadable
    have hread := ofValue_eq_ok_iff.2 ⟨f.spelledBy_toValue, hreadable⟩
    have hnull : f.toValue.isNull = false := rfl
    simp [Criteria.ofValue, Criteria.readEntry, hnull, hread]

/-- An object of members under `OR` is read as a group, and the group is written as a list. -/
theorem Filter.exists_ofValue_iff_group :
    ofValue (.object [("OR", .object [("x", .object [("a", .null)])])]) =
      .ok [.any [[.equals "a" .null]]] ∧
    Criteria.ofValue (.object [("where", toValue [.any [[.equals "a" .null]]])]) =
      .ok { filter := some [.any [[.equals "a" .null]]] } := by
  have hread : ofValue (.object [("OR", .object [("x", .object [("a", .null)])])]) =
      .ok [.any [[.equals "a" .null]]] := rfl
  have hreadable := (exists_ofValue_iff _).1.1 ⟨_, hread⟩
  exact ⟨hread, (exists_ofValue_iff _).2.2 hreadable⟩

end QuerySql
