/-
  Ordered mappings, as lists of keys with their values.

  Keys stand in the order in which they came.  A list of entries may repeat a
  key; `put` keeps keys distinct: it overwrites the value of a key that is
  there already, in its place, and appends any other.
-/
namespace QuerySql.Entries

variable {α β : Type}

/-- The value of the first entry with the given key. -/
def get? (key : String) : List (String × α) → Option α
  | [] => none
  | (k, v) :: rest => if k = key then some v else get? key rest

/-- Gives `key` the value `value`: in place if the key is there, else at the end. -/
def put (key : String) (value : α) : List (String × α) → List (String × α)
  | [] => [(key, value)]
  | (k, v) :: rest => if k = key then (k, value) :: rest else (k, v) :: put key value rest

/-- The mapping with distinct keys that the entries build up one after another:
    each key at its first position with its last value. -/
def distinct (entries : List (String × α)) : List (String × α) :=
  entries.foldl (fun built entry => put entry.1 entry.2 built) []

theorem map_fst_put (key : String) (value : α) (entries : List (String × α)) :
    (put key value entries).map Prod.fst =
      if key ∈ entries.map Prod.fst then entries.map Prod.fst
      else entries.map Prod.fst ++ [key] := by
  induction entries with
  | nil => rfl
  | cons e rest ih =>
    obtain ⟨k, v⟩ := e
    by_cases h : k = key
    · simp [put, h]
    · have h' : ¬ key = k := fun hk => h hk.symm
      simp only [put, if_neg h, List.map_cons, ih, List.mem_cons, h', false_or]
      split <;> simp

/-- `put` keeps distinct keys distinct. -/
theorem nodup_put {key : String} {value : α} {entries : List (String × α)}
    (h : (entries.map Prod.fst).Nodup) : ((put key value entries).map Prod.fst).Nodup := by
  rw [map_fst_put]
  split
  · exact h
  · next hk => simp only [List.nodup_append]; grind

end QuerySql.Entries
