/-
  The order of the keys of criteria.

  An entry gives one part of the criteria a new value (`Change`), whatever the
  criteria are like before it; an entry that means nothing changes nothing
  (`readEntry_eq`).  Changes under two keys concern two parts, so they can be made
  in either order (`Change.apply_comm`), and whether one of them fails does not
  depend on the other.  So criteria with distinct keys do not depend on the order
  of the entries, and not on entries under other than the known keys
  (`key_order_independent`).
-/
import QuerySql.Proofs.Criteria.Reading
import QuerySql.Proofs.Outcome
import QuerySql.Statement.Change

namespace QuerySql.Criteria

/-- The keys that mean something. -/
def keys : List String :=
  ["where", "or", "sort", "skip", "limit", "select", "groupBy", "sum", "average", "max", "min"]

/-! ## Changes -/

/-- A part of the criteria with the value that it gets. -/
inductive Change where
  | filter (f : Filter)
  | alternatives (gs : List Filter)
  | sort (s : Option SortOrder)
  | skip (n : Option UInt64)
  | limit (n : Option UInt64)
  | select (columns : List String)
  | groupBy (columns : List String)
  | sum (columns : List String)
  | average (columns : List String)
  | max (columns : List String)
  | min (columns : List String)

namespace Change

/-- The key whose entry makes the change. -/
def key : Change → String
  | filter _ => "where"
  | alternatives _ => "or"
  | sort _ => "sort"
  | skip _ => "skip"
  | limit _ => "limit"
  | select _ => "select"
  | groupBy _ => "groupBy"
  | sum _ => "sum"
  | average _ => "average"
  | max _ => "max"
  | min _ => "min"

/-- The criteria after a change. -/
def apply (c : Criteria) : Change → Criteria
  | filter f => { c with filter := some f }
  | alternatives gs => { c with alternatives := gs }
  | sort s => { c with sort := s }
  | skip n => { c with skip := n }
  | limit n => { c with limit := n }
  | select columns => { c with select := columns }
  | groupBy columns => { c with groupBy := columns }
  | sum columns => { c with sum := columns }
  | average columns => { c with average := columns }
  | max columns => { c with max := columns }
  | min columns => { c with min := columns }

/-- **Changes under two keys can be made in either order.** -/
theorem apply_comm {a b : Change} (h : a.key ≠ b.key) (c : Criteria) :
    apply (apply c a) b = apply (apply c b) a := by
  cases a <;> cases b <;> first | rfl | exact absurd rfl h

/-- The change that an entry makes, if it makes one. -/
def ofEntry : String × Value → Except Error (Option Change)
  | (key, v) =>
    match key with
    | "where" => if v.isNull then .ok none else (Filter.ofValue v).map (some ∘ filter)
    | "or" => (alternativesOfValue v).map (Option.map alternatives)
    | "sort" => (SortOrder.ofValue v).map (some ∘ sort)
    | "skip" => .ok (some (skip v.count?))
    | "limit" => .ok (some (limit v.count?))
    | "select" => .ok (some (select (columnsOfValue v)))
    | "groupBy" => .ok (some (groupBy (columnsOfValue v)))
    | "sum" => .ok (some (sum (columnsOfValue v)))
    | "average" => .ok (some (average (columnsOfValue v)))
    | "max" => .ok (some (max (columnsOfValue v)))
    | "min" => .ok (some (min (columnsOfValue v)))
    | _ => .ok none

/-- An entry changes the part of its own key. -/
theorem key_of_ofEntry {e : String × Value} {a : Change} (h : ofEntry e = .ok (some a)) :
    a.key = e.1 := by
  obtain ⟨k, v⟩ := e
  simp only [ofEntry] at h
  split at h
  case h_1 =>
    split at h
    · cases h
    · cases hf : Filter.ofValue v <;> rw [hf] at h <;> cases h
      rfl
  case h_2 =>
    cases hgs : alternativesOfValue v with
    | error e => rw [hgs] at h; cases h
    | ok gs? =>
      rw [hgs] at h
      cases gs? <;> cases h
      rfl
  case h_3 =>
    cases hs : SortOrder.ofValue v <;> rw [hs] at h <;> cases h
    rfl
  case h_12 => cases h
  all_goals
    cases h
    rfl

end Change

/-- The criteria after the change that an entry makes. -/
def applyAny (c : Criteria) (change? : Option Change) : Criteria := change?.elim c (Change.apply c)

/-- An entry under another key means nothing. -/
theorem readEntry_of_notMem_keys {e : String × Value} (h : e.1 ∉ keys) (c : Criteria) :
    readEntry c e = .ok c := by
  obtain ⟨k, v⟩ := e
  simp only [readEntry]
  split
  case h_12 => rfl
  all_goals simp [keys] at h

theorem Change.ofEntry_of_notMem_keys {e : String × Value} (h : e.1 ∉ keys) :
    ofEntry e = .ok none := by
  obtain ⟨k, v⟩ := e
  simp only [ofEntry]
  split
  case h_12 => rfl
  all_goals simp [keys] at h

/-- **An entry makes its change**, or fails, whatever the criteria are before it. -/
theorem readEntry_eq (c : Criteria) (e : String × Value) :
    readEntry c e = (Change.ofEntry e).map (applyAny c) := by
  by_cases hk : e.1 ∈ keys
  · obtain ⟨k, v⟩ := e
    simp only [keys, List.mem_cons, List.not_mem_nil, or_false] at hk
    rcases hk with rfl | rfl | rfl | rfl | rfl | rfl | rfl | rfl | rfl | rfl | rfl
    · simp only [readEntry, Change.ofEntry]
      split
      · rfl
      · cases Filter.ofValue v <;> rfl
    · simp only [readEntry, Change.ofEntry]
      cases alternativesOfValue v with
      | error e => rfl
      | ok gs? => cases gs? <;> rfl
    · simp only [readEntry, Change.ofEntry]
      cases SortOrder.ofValue v <;> rfl
    all_goals rfl
  · rw [readEntry_of_notMem_keys hk, Change.ofEntry_of_notMem_keys hk]
    rfl

/-! ## Order -/

theorem toOption_bind {α β ε : Type} (x : Except ε α) (f : α → Except ε β) :
    (x >>= f).toOption = x.toOption.bind fun a => (f a).toOption := by
  cases x <;> rfl

/-- Two entries under different keys can be read in either order. -/
theorem readEntry_comm {d e : String × Value} (h : d.1 ≠ e.1) (c : Criteria) :
    (readEntry c d >>= fun c => readEntry c e).toOption =
      (readEntry c e >>= fun c => readEntry c d).toOption := by
  simp only [readEntry_eq]
  cases hd : Change.ofEntry d with
  | error => cases Change.ofEntry e <;> rfl
  | ok a? =>
    cases he : Change.ofEntry e with
    | error => rfl
    | ok b? =>
      cases a? with
      | none => rfl
      | some a =>
        cases b? with
        | none => rfl
        | some b =>
          have hkeys : a.key ≠ b.key := by
            rwa [Change.key_of_ofEntry hd, Change.key_of_ofEntry he]
          exact congrArg some (Change.apply_comm hkeys c)

/-- Entries with distinct keys can be read in any order. -/
theorem foldlM_readEntry_perm {entries entries' : List (String × Value)}
    (hperm : entries.Perm entries') (hkeys : (entries.map Prod.fst).Nodup) (c : Criteria) :
    (entries.foldlM readEntry c).toOption = (entries'.foldlM readEntry c).toOption := by
  induction hperm generalizing c with
  | nil => rfl
  | cons e _ ih =>
    rw [List.foldlM_cons, List.foldlM_cons]
    cases readEntry c e with
    | error => rfl
    | ok c' => exact ih (List.nodup_cons.1 hkeys).2 c'
  | swap e d rest =>
    have hne : d.1 ≠ e.1 := by
      intro h
      simp [h] at hkeys
    simp only [List.foldlM_cons]
    rw [← bind_assoc, ← bind_assoc, toOption_bind, readEntry_comm hne, ← toOption_bind]
  | trans hfirst _ ih ih' =>
    rw [ih hkeys, ih' ((hfirst.map Prod.fst).nodup_iff.1 hkeys)]

/-- Entries under other than the known keys may be left out. -/
theorem foldlM_readEntry_filter (entries : List (String × Value)) (c : Criteria) :
    (entries.filter fun e => e.1 ∈ keys).foldlM readEntry c = entries.foldlM readEntry c := by
  induction entries generalizing c with
  | nil => rfl
  | cons e entries ih =>
    by_cases h : e.1 ∈ keys
    · rw [List.filter_cons_of_pos (by simpa using h), List.foldlM_cons, List.foldlM_cons]
      exact bind_congr ih
    · rw [List.filter_cons_of_neg (by simpa using h), ih, List.foldlM_cons,
        readEntry_of_notMem_keys h]
      rfl

theorem toOption_ofValue_perm {entries entries' : List (String × Value)}
    (hkeys : (entries.map Prod.fst).Nodup)
    (hperm : (entries.filter fun e => e.1 ∈ keys).Perm (entries'.filter fun e => e.1 ∈ keys)) :
    (ofValue (.object entries)).toOption = (ofValue (.object entries')).toOption := by
  have hknown : ((entries.filter fun e => e.1 ∈ keys).map Prod.fst).Nodup :=
    hkeys.sublist (List.filter_sublist.map Prod.fst)
  simp only [ofValue]
  rw [← foldlM_readEntry_filter entries, ← foldlM_readEntry_filter entries']
  exact foldlM_readEntry_perm hperm hknown {}

/-- **Criteria do not depend on the order of their keys**, nor on entries whose keys
    mean nothing.  Objects with the same entries under the known keys are both
    read as the same criteria, or both fail; the statements compiled from what is
    read are the same, with the same errors and the same reports. -/
theorem key_order_independent {entries entries' : List (String × Value)}
    (hkeys : (entries.map Prod.fst).Nodup)
    (hperm : (entries.filter fun e => e.1 ∈ keys).Perm (entries'.filter fun e => e.1 ∈ keys)) :
    ((∃ c, ofValue (.object entries) = .ok c ∧ ofValue (.object entries') = .ok c) ∨
      ∃ d e, ofValue (.object entries) = .error d ∧ ofValue (.object entries') = .error e) ∧
    ∀ c c', ofValue (.object entries) = .ok c → ofValue (.object entries') = .ok c' →
      ∀ (settings : Settings) (table : String) (row : Row) (r : Recorder),
        (c.selectText settings table).outcome r = (c'.selectText settings table).outcome r ∧
        (c.deleteText table).outcome r = (c'.deleteText table).outcome r ∧
        (Row.updateText table row c).outcome r = (Row.updateText table row c').outcome r := by
  have hsame := toOption_ofValue_perm hkeys hperm
  constructor
  · cases hread : ofValue (.object entries) with
    | ok c =>
      cases hread' : ofValue (.object entries') with
      | ok c' =>
        rw [hread, hread'] at hsame
        cases hsame
        exact Or.inl ⟨c, rfl, rfl⟩
      | error e => rw [hread, hread'] at hsame; cases hsame
    | error d =>
      cases hread' : ofValue (.object entries') with
      | ok c' => rw [hread, hread'] at hsame; cases hsame
      | error e => exact Or.inr ⟨d, e, rfl, rfl⟩
  · intro c c' hread hread' settings table row r
    rw [hread, hread'] at hsame
    cases hsame
    exact ⟨rfl, rfl, rfl⟩

/-- A sort in front of the filter, and an entry that means nothing. -/
theorem key_order_independent_sorted : ∃ c,
    ofValue (.object [("where", .object [("a", .int 1)]), ("or", .null), ("sort", .string "-a")]) =
      .ok c ∧
    ofValue (.object [("sort", .string "-a"), ("x", .bool true), ("or", .null),
      ("where", .object [("a", .int 1)])]) = .ok c := by
  refine Or.resolve_right (key_order_independent ?_ ?_).1 ?_
  · simp
  · exact (List.reverse_perm _).symm
  · rintro ⟨d, e, hd, -⟩
    cases hd

end QuerySql.Criteria
