/-
  What reading a filter checks.

  * `Predicate.Spelled` says how an entry may be written for a predicate, and
    `Predicate.IsReadable` what a predicate must be like so that no other kind of
    entry is written like this.  An entry is read as a predicate iff it spells
    the predicate and this is readable (`Predicate.ofEntry_eq_ok`);
  * what holds of whatever is read from an entry holds everywhere in a filter that
    is read (`Predicate.everywhere_of_reading`);
  * `Predicate.IsChecked` is the part of `IsReadable` that compiling relies on:
    groups and comparator objects have members;
  * `Predicate.IsFilled` is what reading does not look at: that the members of
    groups and the objects under `like` have entries.
-/
import QuerySql.Filter.Reading
import QuerySql.Proofs.Filter.Parts
import QuerySql.Proofs.Value.Parts
import Mathlib.Data.List.Forall2

namespace QuerySql

/-! ## Steps that may fail -/

section

variable {α β ε : Type}

theorem Except.bind_eq_ok {x : Except ε α} {f : α → Except ε β} {b : β} :
    (x >>= f) = .ok b ↔ ∃ a, x = .ok a ∧ f a = .ok b := by
  cases x with
  | error e => exact ⟨nofun, fun ⟨_, h, _⟩ => nomatch h⟩
  | ok a => exact ⟨fun h => ⟨a, rfl, h⟩, fun ⟨_, h, hf⟩ => by cases h; exact hf⟩

/-- A list of steps succeeds iff each of them does. -/
theorem Except.mapM_eq_ok {f : α → Except ε β} {l : List α} {bs : List β} :
    l.mapM f = .ok bs ↔ List.Forall₂ (fun a b => f a = .ok b) l bs := by
  induction l generalizing bs with
  | nil =>
    constructor
    · intro h; cases h; exact .nil
    · intro h; cases h; rfl
  | cons a l ih =>
    rw [List.mapM_cons]
    constructor
    · intro h
      obtain ⟨b, hb, h⟩ := Except.bind_eq_ok.1 h
      obtain ⟨bs, hbs, h⟩ := Except.bind_eq_ok.1 h
      cases h
      exact .cons hb (ih.1 hbs)
    · rintro (_ | ⟨hb, hbs⟩)
      rw [hb, ih.2 hbs]
      rfl

end

section

variable {α β : Type} {R S : α → β → Prop} {l : List α} {bs : List β}

theorem exists_of_mem_right (h : List.Forall₂ R l bs) : ∀ b ∈ bs, ∃ a ∈ l, R a b := by
  induction h with
  | nil => exact List.forall_mem_nil _
  | cons hb _ ih =>
    refine List.forall_mem_cons.2 ⟨⟨_, List.mem_cons_self, hb⟩, fun b hmem => ?_⟩
    obtain ⟨a, ha, hab⟩ := ih b hmem
    exact ⟨a, List.mem_cons_of_mem _ ha, hab⟩

theorem forall₂_imp_of_mem (h : List.Forall₂ R l bs) (hRS : ∀ a ∈ l, ∀ b ∈ bs, R a b → S a b) :
    List.Forall₂ S l bs := by
  induction h with
  | nil => exact .nil
  | cons hb _ ih =>
    refine .cons (hRS _ List.mem_cons_self _ List.mem_cons_self hb) (ih fun a ha b hb => ?_)
    exact hRS a (List.mem_cons_of_mem _ ha) b (List.mem_cons_of_mem _ hb)

end

/-! ## Kinds of predicates -/

namespace Predicate

/-- Groups have members and comparator objects have entries. -/
def IsChecked : Predicate → Prop
  | compares _ tests => tests ≠ []
  | all members | any members => members ≠ []
  | _ => True

/-- The members of groups have predicates, and like groups have entries. -/
def IsFilled : Predicate → Prop
  | all members | any members => ∀ f ∈ members, f ≠ []
  | like patterns => patterns ≠ []
  | _ => True

/-- A group is one of the two. -/
theorem eq_of_group? {key : String} {group : List Filter → Predicate}
    (h : group? key = some group) : group = any ∨ group = all := by
  unfold group? at h
  split at h <;> cases h
  exacts [Or.inl rfl, Or.inr rfl]

theorem members_of_group? {key : String} {group : List Filter → Predicate}
    (h : group? key = some group) (ms : List Filter) : (group ms).members = ms := by
  rcases eq_of_group? h with rfl | rfl <;> rfl

end Predicate

/-! ## Comparator objects -/

/-- The value is an object that has a comparator key. -/
def Value.IsComparators : Value → Prop
  | .object entries => ∃ e ∈ entries, Comparator.isKey e.1 = true
  | _ => False

theorem Value.not_isComparators {v : Value} (hobject : ∀ entries, v ≠ .object entries) :
    ¬ v.IsComparators := by
  cases v with
  | object entries => exact absurd rfl (hobject entries)
  | _ => exact id

/-- The entry of a comparator object for a test. -/
def Comparator.IsEntry (e : String × Value) (t : Comparator × Value) : Prop :=
  ofKey? e.1 = some t.1 ∧ e.2 = t.2

namespace Comparator

theorem testsOfEntries_eq (entries : List (String × Value)) :
    testsOfEntries entries = entries.mapM fun e => return (← ofKey e.1, e.2) := by
  induction entries with
  | nil => rfl
  | cons e entries ih =>
    rw [testsOfEntries, ih, List.mapM_cons]
    simp

theorem isEntry_iff {e : String × Value} {t : Comparator × Value} :
    (do return (← ofKey e.1, e.2)) = (Except.ok t : Except Error _) ↔ IsEntry e t := by
  obtain ⟨c, v⟩ := t
  unfold ofKey IsEntry
  cases ofKey? e.1 with
  | none => exact ⟨nofun, fun h => nomatch h.1⟩
  | some c' =>
    constructor
    · intro h; cases h; exact ⟨rfl, rfl⟩
    · rintro ⟨hc, hv⟩
      cases hc; cases hv; rfl

theorem testsOfEntries_eq_ok {entries : List (String × Value)} {tests : List (Comparator × Value)} :
    testsOfEntries entries = .ok tests ↔ List.Forall₂ IsEntry entries tests := by
  rw [testsOfEntries_eq, Except.mapM_eq_ok]
  exact ⟨List.Forall₂.imp fun _ _ => isEntry_iff.1, List.Forall₂.imp fun _ _ => isEntry_iff.2⟩

theorem isKey_of_isEntry {e : String × Value} {t : Comparator × Value} (h : IsEntry e t) :
    isKey e.1 = true := by
  simp [isKey, h.1]

/-- The tests of a value are those of a comparator object. -/
theorem tests?_eq_some {v : Value} {tests : List (Comparator × Value)} :
    tests? v = .ok (some tests) ↔
      ∃ entries, v = .object entries ∧ List.Forall₂ IsEntry entries tests ∧ tests ≠ [] := by
  constructor
  · intro h
    unfold tests? at h
    split at h
    · next entries =>
      split at h
      · next hkey =>
        cases hread : testsOfEntries entries with
        | error e => rw [hread] at h; cases h
        | ok ts =>
          rw [hread] at h
          cases h
          have hall := testsOfEntries_eq_ok.1 hread
          refine ⟨entries, rfl, hall, ?_⟩
          rintro rfl
          cases hall
          cases hkey
      · cases h
    · cases h
  · rintro ⟨entries, rfl, hall, hne⟩
    have hkey : (entries.any fun e => isKey e.1) = true := by
      obtain ⟨t, tests, rfl⟩ := List.exists_cons_of_ne_nil hne
      obtain _ | ⟨ht, -⟩ := hall
      simp [isKey_of_isEntry ht]
    rw [tests?, if_pos hkey, testsOfEntries_eq_ok.2 hall]
    rfl

/-- A value has no tests iff it is not a comparator object. -/
theorem tests?_eq_none {v : Value} : tests? v = .ok none ↔ ¬ v.IsComparators := by
  unfold tests?
  split
  · next entries =>
    unfold Value.IsComparators
    split
    · next hkey =>
      refine iff_of_false ?_ (not_not.2 (List.any_eq_true.1 hkey))
      cases testsOfEntries entries <;> exact nofun
    · next hkey => exact iff_of_true rfl fun h => hkey (List.any_eq_true.2 h)
  · next hobject =>
    exact iff_of_true rfl (Value.not_isComparators hobject)

end Comparator

/-! ## Keywords -/

theorem Keyword.ofKey?_eq_none {key : String} :
    ofKey? key = none ↔ Text.lowerCase key ∉ ["or", "and", "like", "not"] := by
  unfold ofKey?
  simp only
  split_ifs <;> simp_all

theorem Predicate.group?_eq_none {key : String} :
    group? key = none ↔ Text.lowerCase key ∉ ["or", "and"] := by
  unfold group? Keyword.ofKey?
  simp only
  split_ifs <;> simp_all

/-! ## Entries -/

namespace Predicate

/-- An entry that may be written for a predicate.  `Member` says which values may
    be written for the members of a group. -/
inductive Spelled (Member : Value → Filter → Prop) : String × Value → Predicate → Prop
  | equals (key v) : Spelled Member (key, v) (equals key v)
  | compares (key) {entries tests} (h : List.Forall₂ Comparator.IsEntry entries tests) :
    Spelled Member (key, .object entries) (compares key tests)
  | isIn (key items) : Spelled Member (key, .array items) (isIn key items)
  | like {key} (hkey : Keyword.ofKey? key = some .like) (patterns) :
    Spelled Member (key, .object patterns) (like patterns)
  /-- a list of members -/
  | list {key group items members} (hkey : group? key = some group)
    (h : List.Forall₂ Member items members) : Spelled Member (key, .array items) (group members)
  /-- an object of members, whose names are not comparator keys -/
  | named {key group entries members} (hkey : group? key = some group)
    (hnames : ¬ (Value.object entries).IsComparators)
    (h : List.Forall₂ (fun e f => Member e.2 f) entries members) :
    Spelled Member (key, .object entries) (group members)

section

variable {R S : Value → Filter → Prop} {key : String} {v : Value} {p : Predicate}

/-- The members of what an entry spells are written inside it. -/
theorem Spelled.exists_of_mem_members (h : Spelled R (key, v) p) :
    ∀ f ∈ p.members, ∃ w ∈ v.parts, R w f := by
  cases h with
  | list hkey hms =>
    rw [members_of_group? hkey]
    exact exists_of_mem_right hms
  | named hkey _ hms =>
    rw [members_of_group? hkey]
    intro f hf
    obtain ⟨e, he, h⟩ := exists_of_mem_right hms f hf
    exact ⟨e.2, List.mem_map_of_mem he, h⟩
  | equals | compares | isIn | like => exact nofun

theorem Spelled.imp (h : Spelled R (key, v) p)
    (hRS : ∀ w ∈ v.parts, ∀ f ∈ p.members, R w f → S w f) : Spelled S (key, v) p := by
  cases h with
  | equals => exact .equals key v
  | compares _ hall => exact .compares key hall
  | isIn _ items => exact .isIn key items
  | like hkey patterns => exact .like hkey patterns
  | list hkey hms =>
    rw [members_of_group? hkey] at hRS
    exact .list hkey (forall₂_imp_of_mem hms hRS)
  | named hkey hplain hms =>
    rw [members_of_group? hkey] at hRS
    refine .named hkey hplain (forall₂_imp_of_mem hms fun e he f hf => ?_)
    exact hRS e.2 (List.mem_map_of_mem he) f hf

end

/-- What reading makes sure of: groups and comparator objects have members, and a
    column and a value do not make the entry one of another kind. -/
def IsReadable : Predicate → Prop
  | .equals column v => Text.lowerCase column ∉ ["or", "and", "like", "not"] ∧
    (∀ items, v ≠ .array items) ∧ ¬ v.IsComparators
  | .compares _ tests => tests ≠ []
  | .isIn column _ => Text.lowerCase column ∉ ["or", "and"]
  | all members | any members => members ≠ []
  | .like patterns => ∀ p ∈ patterns, Comparator.isKey p.1 = false

theorem isReadable_group {key : String} {group : List Filter → Predicate}
    (h : group? key = some group) (ms : List Filter) : (group ms).IsReadable ↔ ms ≠ [] := by
  rcases eq_of_group? h with rfl | rfl <;> exact Iff.rfl

theorem isReadable_like {patterns : List (String × Value)} :
    (like patterns).IsReadable ↔ ¬ (Value.object patterns).IsComparators := by
  simp [IsReadable, Value.IsComparators]

theorem IsReadable.isChecked {p : Predicate} (h : p.IsReadable) : p.IsChecked := by
  cases p with
  | compares | all | any => exact h
  | equals | isIn | like => trivial

end Predicate

namespace Filter

theorem nonempty_eq_ok {key : String} {members ms : List Filter} :
    nonempty key members = .ok ms ↔ ms = members ∧ ms ≠ [] := by
  unfold nonempty
  cases members with
  | nil => exact ⟨nofun, fun ⟨h, hne⟩ => absurd h hne⟩
  | cons f members =>
    constructor
    · intro h; cases h; exact ⟨rfl, List.cons_ne_nil _ _⟩
    · rintro ⟨rfl, -⟩; rfl

theorem ofValues_eq (items : List Value) : ofValues items = items.mapM ofValue := by
  induction items with
  | nil => rfl
  | cons v items ih => rw [ofValues, ih, List.mapM_cons]

theorem ofMembers_eq (entries : List (String × Value)) :
    ofMembers entries = entries.mapM fun e => ofValue e.2 := by
  induction entries with
  | nil => rfl
  | cons e entries ih => rw [ofMembers, ih, List.mapM_cons]

theorem ofEntries_eq (entries : List (String × Value)) :
    ofEntries entries = entries.mapM fun e => Predicate.ofEntry e.1 e.2 := by
  induction entries with
  | nil => rfl
  | cons e entries ih => rw [ofEntries, ih, List.mapM_cons]

/-- A filter is read from an object, each predicate from its entry. -/
theorem ofValue_eq_ok {v : Value} {f : Filter} : ofValue v = .ok f ↔ ∃ entries, v = .object entries ∧
    List.Forall₂ (fun e p => Predicate.ofEntry e.1 e.2 = .ok p) entries f := by
  cases v with
  | object entries => simp [ofValue, ofEntries_eq, Except.mapM_eq_ok]
  | _ => exact ⟨nofun, fun ⟨_, h, _⟩ => nomatch h⟩

/-- Each entry of an object is read as a predicate. -/
theorem length_ofValue {entries : List (String × Value)} {f : Filter}
    (h : ofValue (.object entries) = .ok f) : f.length = entries.length := by
  rw [ofValue, ofEntries_eq, Except.mapM_eq_ok] at h
  exact h.length_eq.symm

end Filter

namespace Predicate

/-- What is read as a group: its members are read, and there are some. -/
theorem group_eq_ok {key : String} {group : List Filter → Predicate} (hkey : group? key = some group)
    {read : Except Error (List Filter)} {p : Predicate} :
    (do return group (← Filter.nonempty key (← read))) = Except.ok p ↔
      ∃ ms, read = .ok ms ∧ p = group ms ∧ p.IsReadable := by
  constructor
  · intro h
    obtain ⟨ms, hms, h⟩ := Except.bind_eq_ok.1 h
    obtain ⟨ms', hms', h⟩ := Except.bind_eq_ok.1 h
    cases h
    obtain ⟨rfl, hne⟩ := Filter.nonempty_eq_ok.1 hms'
    exact ⟨_, hms, rfl, (isReadable_group hkey _).2 hne⟩
  · rintro ⟨ms, hms, rfl, hreadable⟩
    have hne := (isReadable_group hkey _).1 hreadable
    have hnonempty : Filter.nonempty key ms = .ok ms := Filter.nonempty_eq_ok.2 ⟨rfl, hne⟩
    exact Except.bind_eq_ok.2 ⟨ms, hms, Except.bind_eq_ok.2 ⟨ms, hnonempty, rfl⟩⟩

theorem ofScalar_eq_ok {key : String} {v : Value} {p : Predicate} :
    ofScalar key v = .ok p ↔ Keyword.ofKey? key = none ∧ p = .equals key v := by
  unfold ofScalar
  cases Keyword.ofKey? key with
  | none => simp [eq_comm]
  | some k => cases k <;> simp

section

variable {key : String} {p : Predicate}

theorem spelled_of_ofEntry_array {items : List Value} (h : ofEntry key (.array items) = .ok p) :
    Spelled (fun w f => Filter.ofValue w = .ok f) (key, .array items) p ∧ p.IsReadable := by
  rw [ofEntry] at h
  split at h
  · next group hkey =>
    obtain ⟨ms, hms, rfl, hreadable⟩ := (group_eq_ok hkey).1 h
    rw [Filter.ofValues_eq, Except.mapM_eq_ok] at hms
    exact ⟨.list hkey hms, hreadable⟩
  · next hkey =>
    cases h
    exact ⟨.isIn key items, group?_eq_none.1 hkey⟩

theorem spelled_of_ofEntry_object {entries : List (String × Value)}
    (h : ofEntry key (.object entries) = .ok p) :
    Spelled (fun w f => Filter.ofValue w = .ok f) (key, .object entries) p ∧ p.IsReadable := by
  rw [ofEntry] at h
  obtain ⟨tests?, htests, h⟩ := Except.bind_eq_ok.1 h
  cases tests? with
  | some tests =>
    obtain ⟨_, hentries, hall, hne⟩ := Comparator.tests?_eq_some.1 htests
    cases hentries
    cases h
    exact ⟨.compares key hall, hne⟩
  | none =>
    have hplain := Comparator.tests?_eq_none.1 htests
    simp only at h
    split at h
    · next group hkey =>
      obtain ⟨ms, hms, rfl, hreadable⟩ := (group_eq_ok hkey).1 h
      rw [Filter.ofMembers_eq, Except.mapM_eq_ok] at hms
      exact ⟨.named hkey hplain hms, hreadable⟩
    · next hkey =>
      unfold ofObject at h
      split at h
      · next hlike =>
        cases h
        exact ⟨.like hlike entries, isReadable_like.2 hplain⟩
      · cases h
      · next hlike hnot =>
        cases h
        have hnone : Keyword.ofKey? key = none := by
          unfold group? at hkey
          cases hk : Keyword.ofKey? key with
          | none => rfl
          | some k => cases k <;> simp_all
        exact ⟨.equals key _, Keyword.ofKey?_eq_none.1 hnone, nofun, hplain⟩

theorem ofEntry_of_equals {v : Value} (h : (Predicate.equals key v).IsReadable) :
    ofEntry key v = .ok (.equals key v) := by
  obtain ⟨hkey, harray, hplain⟩ := h
  have hnone := Keyword.ofKey?_eq_none.2 hkey
  induction v using Value.induction with
  | array items => exact absurd rfl (harray items)
  | object entries =>
    rw [ofEntry, Comparator.tests?_eq_none.2 hplain]
    simp only [group?, ofObject, hnone]
    rfl
  | scalar v _ hobject =>
    rw [ofEntry.eq_3 key v harray hobject]
    exact ofScalar_eq_ok.2 ⟨hnone, rfl⟩

theorem ofEntry_of_like {patterns : List (String × Value)} (hkey : Keyword.ofKey? key = some .like)
    (h : (Predicate.like patterns).IsReadable) :
    ofEntry key (.object patterns) = .ok (.like patterns) := by
  rw [ofEntry, Comparator.tests?_eq_none.2 (isReadable_like.1 h)]
  simp only [group?, ofObject, hkey]
  rfl

end

/-- **An entry is read as a predicate iff it spells the predicate and this is
    readable.** -/
theorem ofEntry_eq_ok {key : String} {v : Value} {p : Predicate} : ofEntry key v = .ok p ↔
    Spelled (fun w f => Filter.ofValue w = .ok f) (key, v) p ∧ p.IsReadable := by
  constructor
  · intro h
    induction v using Value.induction with
    | array items => exact spelled_of_ofEntry_array h
    | object entries => exact spelled_of_ofEntry_object h
    | scalar v harray hobject =>
      rw [ofEntry.eq_3 key v harray hobject] at h
      obtain ⟨hkey, rfl⟩ := ofScalar_eq_ok.1 h
      exact ⟨.equals key v, Keyword.ofKey?_eq_none.1 hkey, harray, Value.not_isComparators hobject⟩
  · rintro ⟨hspelled, hreadable⟩
    cases hspelled with
    | equals => exact ofEntry_of_equals hreadable
    | compares _ hall =>
      rw [ofEntry, Comparator.tests?_eq_some.2 ⟨_, rfl, hall, hreadable⟩]
      rfl
    | isIn _ items =>
      rw [ofEntry, group?_eq_none.2 hreadable]
    | like hkey patterns => exact ofEntry_of_like hkey hreadable
    | list hkey hms =>
      rw [ofEntry, hkey]
      rw [← Except.mapM_eq_ok, ← Filter.ofValues_eq] at hms
      exact (group_eq_ok hkey).2 ⟨_, hms, rfl, hreadable⟩
    | named hkey hplain hms =>
      rw [ofEntry, Comparator.tests?_eq_none.2 hplain]
      simp only [hkey]
      rw [← Except.mapM_eq_ok, ← Filter.ofMembers_eq] at hms
      exact (group_eq_ok hkey).2 ⟨_, hms, rfl, hreadable⟩

/-! ## What holds everywhere -/

section

variable {P : Predicate → Prop} {Q : Value → Prop}
  (hread : ∀ key v p, Q v → ofEntry key v = .ok p → P p)
include hread

/-- **What holds of all that is read from an entry holds inside it too**, and
    everywhere in a filter that is read. -/
theorem everywhere_of_reading {v : Value} (hv : v.Everywhere Q) :
    (∀ key p, ofEntry key v = .ok p → p.Everywhere P) ∧
    ∀ f, Filter.ofValue v = .ok f → ∀ p ∈ f, p.Everywhere P := by
  induction hv with
  | @intro v here _ ih =>
  constructor
  · intro key p h
    refine .intro (hread key v p here h) ?_
    intro f hf
    obtain ⟨w, hw, hread⟩ := (ofEntry_eq_ok.1 h).1.exists_of_mem_members f hf
    exact (ih w hw).2 f hread
  · intro f h p hp
    obtain ⟨entries, rfl, hall⟩ := Filter.ofValue_eq_ok.1 h
    obtain ⟨e, he, hread⟩ := exists_of_mem_right hall p hp
    exact (ih e.2 (List.mem_map_of_mem he)).1 e.1 p hread

end

/-- **What is read is readable everywhere**, from an entry and from a value as a filter. -/
theorem everywhere_isReadable (v : Value) :
    (∀ key p, ofEntry key v = .ok p → p.Everywhere IsReadable) ∧
    ∀ f, Filter.ofValue v = .ok f → ∀ p ∈ f, p.Everywhere IsReadable := by
  have hall : v.Everywhere fun _ => True := Value.everywhere_of_forall (fun _ => trivial) v
  exact everywhere_of_reading (fun _ _ _ _ h => (ofEntry_eq_ok.1 h).2) hall

/-- What is read from an entry, and from a value as a filter, is checked. -/
theorem everywhere_isChecked (v : Value) :
    (∀ key p, ofEntry key v = .ok p → p.Everywhere IsChecked) ∧
    ∀ f, Filter.ofValue v = .ok f → ∀ p ∈ f, p.Everywhere IsChecked := by
  obtain ⟨hentry, hfilter⟩ := everywhere_isReadable v
  refine ⟨fun key p h => ?_, fun f h p hp => ?_⟩
  · exact (hentry key p h).mono fun _ => IsReadable.isChecked
  · exact (hfilter f h p hp).mono fun _ => IsReadable.isChecked

end Predicate

end QuerySql
