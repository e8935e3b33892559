/-
  The names of the members of a group.

  A group may be written as a list of its members or as an object that gives each
  of them a name.  Both are read alike (`Predicate.ofEntry_named`), unless one of
  the names is a comparator key: the object is then looked at as a comparator
  object first, and so it is not read as a group at all
  (`Predicate.not_isComparators_of_ofEntry`).
-/
import QuerySql.Proofs.Filter.Reading

namespace QuerySql

namespace Predicate

variable {key : String} {entries : List (String × Value)}

theorem exists_group? (hkey : Text.lowerCase key ∈ ["or", "and"]) :
    ∃ group, group? key = some group :=
  Option.ne_none_iff_exists'.1 fun hnone => group?_eq_none.1 hnone hkey

/-- Members with names are read like the list of them, if no name is a comparator key. -/
theorem ofEntry_named (hkey : Text.lowerCase key ∈ ["or", "and"])
    (hnames : ¬ (Value.object entries).IsComparators) :
    ofEntry key (.object entries) = ofEntry key (.array (entries.map Prod.snd)) := by
  obtain ⟨group, hgroup⟩ := exists_group? hkey
  have hmembers : Filter.ofMembers entries = Filter.ofValues (entries.map Prod.snd) := by
    rw [Filter.ofMembers_eq, Filter.ofValues_eq, List.mapM_map]
    rfl
  rw [ofEntry, ofEntry, Comparator.tests?_eq_none.2 hnames, hgroup, ← hmembers]
  rfl

/-- What is read from an object and from a list alike has no comparator key. -/
theorem not_isComparators_of_ofEntry {items : List Value} {p : Predicate}
    (hkey : Text.lowerCase key ∈ ["or", "and"]) (hobject : ofEntry key (.object entries) = .ok p)
    (hlist : ofEntry key (.array items) = .ok p) : ¬ (Value.object entries).IsComparators := by
  intro hcomparators
  obtain ⟨hspelled, hreadable⟩ := ofEntry_eq_ok.1 hlist
  -- under `or` and `and` a list is a group, and a comparator object is not
  have hgroup : ∃ group members, group? key = some group ∧ p = group members := by
    cases hspelled with
    | list hkey => exact ⟨_, _, hkey, rfl⟩
    | isIn => exact absurd hkey hreadable
    | equals => exact absurd rfl (hreadable.2.1 items)
  obtain ⟨group, members, hkey, rfl⟩ := hgroup
  rw [ofEntry] at hobject
  obtain ⟨tests?, htests, hobject⟩ := Except.bind_eq_ok.1 hobject
  cases tests? with
  | none => exact Comparator.tests?_eq_none.1 htests hcomparators
  | some tests =>
    obtain rfl | rfl := eq_of_group? hkey <;> cases hobject

end Predicate

namespace Filter

variable {before after : List (String × Value)} {f : Filter}

/-- An entry among others is read between them. -/
theorem ofValue_entry (e : String × Value) :
    ofValue (.object (before ++ e :: after)) = do
      let first ← ofEntries before
      let p ← Predicate.ofEntry e.1 e.2
      return first ++ p :: (← ofEntries after) := by
  rw [ofValue, ofEntries_eq, ofEntries_eq, ofEntries_eq, List.mapM_append, List.mapM_cons]
  simp

/-- Two entries that make the same filter, with the same entries around them, are
    read as the same predicate. -/
theorem exists_ofEntry_of_ofValue {d e : String × Value}
    (hd : ofValue (.object (before ++ d :: after)) = .ok f)
    (he : ofValue (.object (before ++ e :: after)) = .ok f) :
    ∃ p, Predicate.ofEntry d.1 d.2 = .ok p ∧ Predicate.ofEntry e.1 e.2 = .ok p := by
  rw [ofValue_entry] at hd he
  obtain ⟨first, hfirst, hd⟩ := Except.bind_eq_ok.1 hd
  obtain ⟨p, hp, hd⟩ := Except.bind_eq_ok.1 hd
  obtain ⟨last, -, hd⟩ := Except.bind_eq_ok.1 hd
  obtain ⟨first', hfirst', he⟩ := Except.bind_eq_ok.1 he
  obtain ⟨q, hq, he⟩ := Except.bind_eq_ok.1 he
  obtain ⟨last', -, he⟩ := Except.bind_eq_ok.1 he
  obtain rfl : first = first' := Except.ok.inj (hfirst.symm.trans hfirst')
  have hf : first ++ p :: last = first ++ q :: last' := (Except.ok.inj hd).trans (Except.ok.inj he).symm
  obtain ⟨rfl, -⟩ := List.cons.inj (List.append_cancel_left hf)
  exact ⟨p, hp, hq⟩

/-- **The names of the members of a group mean nothing**, unless one of them is a
    comparator key.  Then the object with the names, if it can be read, is read as
    another filter than the list of the members. -/
theorem ofValue_named_members {key : String} (hkey : Text.lowerCase key ∈ ["or", "and"])
    (before after entries : List (String × Value)) :
    ((∀ e ∈ entries, Comparator.isKey e.1 = false) →
      ofValue (.object (before ++ (key, .object entries) :: after)) =
        ofValue (.object (before ++ (key, .array (entries.map Prod.snd)) :: after))) ∧
    ∀ f, ofValue (.object (before ++ (key, .object entries) :: after)) = .ok f →
      (ofValue (.object (before ++ (key, .array (entries.map Prod.snd)) :: after)) = .ok f ↔
        ∀ e ∈ entries, Comparator.isKey e.1 = false) := by
  have hplain : (∀ e ∈ entries, Comparator.isKey e.1 = false) ↔
      ¬ (Value.object entries).IsComparators := by
    simp [Value.IsComparators]
  have hsame : ¬ (Value.object entries).IsComparators →
      ofValue (.object (before ++ (key, .object entries) :: after)) =
        ofValue (.object (before ++ (key, .array (entries.map Prod.snd)) :: after)) := by
    intro hnames
    rw [ofValue_entry, ofValue_entry, Predicate.ofEntry_named hkey hnames]
  rw [hplain]
  refine ⟨hsame, fun f hobject => ⟨fun hlist => ?_, fun hnames => ?_⟩⟩
  · obtain ⟨p, hp, hq⟩ := exists_ofEntry_of_ofValue hobject hlist
    exact Predicate.not_isComparators_of_ofEntry hkey hp hq
  · rw [← hsame hnames, hobject]

/-- Two named members under `Or`, beside another entry. -/
theorem ofValue_named_members_pair :
    ofValue (.object [("a", .null), ("Or", .object [("x", .object [("b", .int 1)]),
      ("y", .object [("c", .int 2)])])]) =
    ofValue (.object [("a", .null), ("Or", .array [.object [("b", .int 1)],
      .object [("c", .int 2)]])]) :=
  (ofValue_named_members (by decide) [("a", .null)] [] _).1 (by decide)

/-- It is not so that all names mean nothing: a single member that is named `like`
    makes a comparator object. -/
theorem named_member_is_comparator :
    ¬ ∀ (key : String) (entries : List (String × Value)), Text.lowerCase key ∈ ["or", "and"] →
      entries ≠ [] → (entries.map Prod.fst).Nodup →
      (∃ f, ofValue (.object [(key, .object entries)]) = .ok f ∧
        ofValue (.object [(key, .array (entries.map Prod.snd))]) = .ok f) ∨
      ∃ d e, ofValue (.object [(key, .object entries)]) = .error d ∧
        ofValue (.object [(key, .array (entries.map Prod.snd))]) = .error e ∧
        d.category = e.category := by
  intro h
  have hlike : ofValue (.object [("or", .object [("like", .object [("a", .int 1)])])]) =
      .ok [.compares "or" [(.like, .object [("a", .int 1)])]] := rfl
  have hlist : ofValue (.object [("or", .array [.object [("a", .int 1)]])]) =
      .ok [.any [[.equals "a" (.int 1)]]] := rfl
  have hcase := h "or" [("like", .object [("a", .int 1)])] (by decide) (by simp) (by simp)
  rw [hlike, List.map_singleton, hlist] at hcase
  obtain ⟨f, hf, hg⟩ | ⟨d, e, hd, -⟩ := hcase
  · cases hf
    cases hg
  · cases hd

end Filter

end QuerySql
