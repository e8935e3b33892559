/-
  Mappings with distinct keys.

  `lastOfEach` lists the keys of some entries in the order in which they come
  first, each with the value that comes last for it.  This is the mapping that
  the entries build up one after another (`distinct_eq_lastOfEach`).
-/
import QuerySql.Entries
import Mathlib.Data.List.Basic
import Mathlib.Data.List.Induction

namespace QuerySql.Entries

variable {α β : Type}

/-- Each key at its first position with its last value. -/
def lastOfEach (entries : List (String × α)) : List (String × α) :=
  (entries.map Prod.fst).eraseDups.filterMap fun key =>
    (get? key entries.reverse).map fun v => (key, v)

/-! ## Looking up -/

theorem get?_eq_none {key : String} {entries : List (String × α)}
    (h : key ∉ entries.map Prod.fst) : get? key entries = none := by
  induction entries with
  | nil => rfl
  | cons e entries ih =>
    obtain ⟨hk, hkeys⟩ := not_or.1 (mt List.mem_cons.2 h)
    rw [get?, if_neg (Ne.symm hk), ih hkeys]

theorem get?_put (key k : String) (v : α) (entries : List (String × α)) :
    get? k (put key v entries) = if key = k then some v else get? k entries := by
  induction entries with
  | nil => rfl
  | cons e entries ih =>
    obtain ⟨k', v'⟩ := e
    by_cases hput : k' = key
    · subst hput
      by_cases hk : k' = k <;> simp [put, get?, hk]
    · by_cases hk : k' = k
      · subst hk
        simp [put, get?, hput, Ne.symm hput]
      · simp [put, get?, hput, hk, ih]

/-- A mapping with distinct keys is its keys with what is looked up under them. -/
theorem eq_filterMap_get? {entries : List (String × α)} (h : (entries.map Prod.fst).Nodup) :
    entries = (entries.map Prod.fst).filterMap fun key =>
      (get? key entries).map fun v => (key, v) := by
  induction entries with
  | nil => rfl
  | cons e entries ih =>
    obtain ⟨hk, hkeys⟩ := List.nodup_cons.1 h
    have hrest : ∀ key ∈ entries.map Prod.fst,
        ((get? key (e :: entries)).map fun v => (key, v)) =
          (get? key entries).map fun v => (key, v) := by
      intro key hkey
      have hne : e.1 ≠ key := fun heq => hk (heq ▸ hkey)
      rw [get?, if_neg hne]
    rw [List.map_cons, List.filterMap_cons, List.filterMap_congr hrest, ← ih hkeys, get?, if_pos rfl]
    rfl

/-! ## Building up -/

theorem distinct_append_singleton (entries : List (String × α)) (e : String × α) :
    distinct (entries ++ [e]) = put e.1 e.2 (distinct entries) := by
  rw [distinct, List.foldl_append]
  rfl

/-- The keys that are built up, in the order in which they come first. -/
theorem map_fst_distinct (entries : List (String × α)) :
    (distinct entries).map Prod.fst = (entries.map Prod.fst).eraseDups := by
  induction entries using List.reverseRecOn with
  | nil => rfl
  | append_singleton entries e ih =>
    rw [distinct_append_singleton, map_fst_put, ih, List.map_append, List.eraseDups_append]
    by_cases hk : e.1 ∈ entries.map Prod.fst
    · simp [List.removeAll, hk]
    · simp [List.removeAll, hk, List.eraseDups_cons]

/-- What is built up under a key is the value that comes last for it. -/
theorem get?_distinct (key : String) (entries : List (String × α)) :
    get? key (distinct entries) = get? key entries.reverse := by
  induction entries using List.reverseRecOn with
  | nil => rfl
  | append_singleton entries e ih =>
    rw [distinct_append_singleton, get?_put, ih, List.reverse_append]
    rfl

theorem mem_put {key : String} {v : α} {e : String × α} {entries : List (String × α)}
    (h : e ∈ put key v entries) : e ∈ entries ∨ e = (key, v) := by
  induction entries with
  | nil => exact Or.inr (List.mem_singleton.1 h)
  | cons e' entries ih =>
    obtain ⟨k', v'⟩ := e'
    rw [put] at h
    split_ifs at h with hk
    · obtain h | h := List.mem_cons.1 h
      · exact Or.inr (hk ▸ h)
      · exact Or.inl (List.mem_cons_of_mem _ h)
    · obtain h | h := List.mem_cons.1 h
      · exact Or.inl (h ▸ List.mem_cons_self)
      · exact (ih h).imp_left (List.mem_cons_of_mem _)

theorem mem_of_mem_distinct {e : String × α} {entries : List (String × α)}
    (h : e ∈ distinct entries) : e ∈ entries := by
  induction entries using List.reverseRecOn with
  | nil => exact h
  | append_singleton entries e' ih =>
    rw [distinct_append_singleton] at h
    exact List.mem_append.2 ((mem_put h).imp ih List.mem_singleton.2)

theorem nodup_distinct (entries : List (String × α)) : ((distinct entries).map Prod.fst).Nodup := by
  induction entries using List.reverseRecOn with
  | nil => exact List.nodup_nil
  | append_singleton entries e ih =>
    rw [distinct_append_singleton]
    exact nodup_put ih

/-- **Entries build up each key at its first position with its last value.** -/
theorem distinct_eq_lastOfEach (entries : List (String × α)) :
    distinct entries = lastOfEach entries := by
  rw [eq_filterMap_get? (nodup_distinct entries), map_fst_distinct]
  exact List.filterMap_congr fun key _ => by rw [get?_distinct]

theorem put_of_notMem {key : String} {v : α} {entries : List (String × α)}
    (h : key ∉ entries.map Prod.fst) : put key v entries = entries ++ [(key, v)] := by
  induction entries with
  | nil => rfl
  | cons e entries ih =>
    obtain ⟨hk, hkeys⟩ := not_or.1 (mt List.mem_cons.2 h)
    rw [put, if_neg (Ne.symm hk), ih hkeys]
    rfl

/-- Entries with distinct keys are built up as they are. -/
theorem distinct_of_nodup {entries : List (String × α)} (h : (entries.map Prod.fst).Nodup) :
    distinct entries = entries := by
  induction entries using List.reverseRecOn with
  | nil => rfl
  | append_singleton entries e ih =>
    rw [List.map_append, List.nodup_append] at h
    obtain ⟨hkeys, -, hdisjoint⟩ := h
    have hk : e.1 ∉ entries.map Prod.fst := fun hk => hdisjoint _ hk e.1 (by simp) rfl
    rw [distinct_append_singleton, ih hkeys, put_of_notMem hk]

/-! ## Changing values -/

variable (f : α → β)

theorem put_map (key : String) (v : α) (entries : List (String × α)) :
    put key (f v) (entries.map fun e => (e.1, f e.2)) =
      (put key v entries).map fun e => (e.1, f e.2) := by
  induction entries with
  | nil => rfl
  | cons e entries ih =>
    by_cases h : e.1 = key
    · simp [put, h]
    · simp [put, h, ih]

/-- Values may be changed before or after a mapping is built up. -/
theorem distinct_map (entries : List (String × α)) :
    distinct (entries.map fun e => (e.1, f e.2)) =
      (distinct entries).map fun e => (e.1, f e.2) := by
  induction entries using List.reverseRecOn with
  | nil => rfl
  | append_singleton entries e ih =>
    rw [List.map_append, List.map_singleton, distinct_append_singleton, distinct_append_singleton,
      ih]
    exact put_map f e.1 e.2 _

end QuerySql.Entries
