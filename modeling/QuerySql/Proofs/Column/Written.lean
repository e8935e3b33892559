/-
  Definitions of columns, written and read back.

  * `Attribute.fields` are the fields of a definition in the order in which they
    are written, each with its value if it is set.  The entries of those that are
    set are what `toJson` writes (`toJson_eq`), and under the key of a field a
    reader finds its value or nothing (`field?_present`), so a definition is read
    back (`ofJson?_toJson`);
  * definitions are read from any text that is read as their object
    (`listOfText_of_ofText?`), and under distinct names this object is readable
    (`isReadable_toObject`).
-/
import QuerySql.Column.Reading
import QuerySql.Proofs.Entries
import QuerySql.Proofs.Json.Indented

namespace QuerySql

/-! ## Fields -/

namespace Entries

variable {α β : Type}

/-- The entries of the fields that are set. -/
def present (fields : List (String × Option α)) : List (String × α) :=
  fields.filterMap fun e => e.2.map fun v => (e.1, v)

theorem present_cons (key : String) (v? : Option α) (fields : List (String × Option α)) :
    present ((key, v?) :: fields) = v?.toList.map (fun v => (key, v)) ++ present fields := by
  cases v? <;> rfl

theorem mem_of_mem_present {e : String × α} {fields : List (String × Option α)}
    (h : e ∈ present fields) : (e.1, some e.2) ∈ fields := by
  obtain ⟨⟨key, v?⟩, hmem, hv⟩ := List.mem_filterMap.1 h
  obtain ⟨v, rfl, rfl⟩ := Option.map_eq_some_iff.1 hv
  exact hmem

theorem map_fst_present_sublist (fields : List (String × Option α)) :
    ((present fields).map Prod.fst).Sublist (fields.map Prod.fst) := by
  induction fields with
  | nil => exact List.Sublist.slnil
  | cons e fields ih =>
    obtain ⟨key, v?⟩ := e
    cases v? with
    | none => exact ih.cons _
    | some v => exact ih.cons_cons _

/-- Only the field with a key stands under the key. -/
theorem filter_present {key : String} {v? : Option α} {fields : List (String × Option α)}
    (hkeys : (fields.map Prod.fst).Nodup) (h : (key, v?) ∈ fields) :
    (present fields).filter (fun e => e.1 = key) = v?.toList.map fun v => (key, v) := by
  induction fields with
  | nil => cases h
  | cons e fields ih =>
    obtain ⟨k, w?⟩ := e
    rw [List.map_cons, List.nodup_cons] at hkeys
    obtain ⟨hk, hkeys⟩ := hkeys
    rw [present_cons, List.filter_append]
    obtain heq | hmem := List.mem_cons.1 h
    · obtain ⟨rfl, rfl⟩ := Prod.mk.inj heq
      have hrest : (present fields).filter (fun e => e.1 = key) = [] := by
        refine List.filter_eq_nil_iff.2 fun d hd heq => hk ?_
        rw [← of_decide_eq_true heq]
        exact List.mem_map.2 ⟨_, mem_of_mem_present hd, rfl⟩
      rw [hrest, List.append_nil]
      cases v? <;> simp
    · have hne : k ≠ key := by
        rintro rfl
        exact hk (List.mem_map.2 ⟨_, hmem, rfl⟩)
      rw [ih hkeys hmem]
      cases w? <;> simp [hne]

/-- What is read under the key of a field is its value, if it is set. -/
theorem field?_present {key : String} {v? : Option α} {fields : List (String × Option α)}
    (hkeys : (fields.map Prod.fst).Nodup) (h : (key, v?) ∈ fields) (read : α → Option β) :
    field? read key (present fields) = v?.mapM read := by
  rw [field?, filter_present hkeys h]
  cases v? with
  | none => rfl
  | some v => cases hv : read v <;> simp [hv]

end Entries

namespace Attribute

/-- The fields of a definition, with the values that are set. -/
def fields (a : Attribute) : List (String × Option Json) :=
  [("type", some (.string a.type)), ("size", a.size.map fun n => .integer n.toNat),
    ("primaryKey", a.primaryKey.map .bool), ("unique", a.unique.map .bool),
    ("autoIncrement", a.autoIncrement.map .bool), ("nullable", a.nullable.map .bool),
    ("indexed", a.indexed.map .bool)]

theorem nodup_fields (a : Attribute) : (a.fields.map Prod.fst).Nodup := by
  have hkeys : a.fields.map Prod.fst = ["type", "size", "primaryKey", "unique", "autoIncrement",
      "nullable", "indexed"] := rfl
  rw [hkeys]
  decide

theorem flagEntry_eq (key : String) (flag : Option Bool) :
    flagEntry key flag = (flag.map Json.bool).toList.map fun v => (key, v) := by
  cases flag <;> rfl

/-- A definition is written as its fields that are set. -/
theorem toJson_eq (a : Attribute) : a.toJson = .object (Entries.present a.fields) := by
  simp only [toJson, fields, flagEntry_eq, Entries.present_cons]
  cases a.size <;> simp [Entries.present]

/-! ## One definition -/

theorem mapM_flag? (flag : Option Bool) :
    (flag.map Json.bool).mapM Json.flag? = some (flag.map some) := by
  cases flag <;> rfl

theorem mapM_size? (size : Option UInt32) :
    (size.map fun n => Json.integer n.toNat).mapM Json.size? = some (size.map some) := by
  cases size with
  | none => rfl
  | some n =>
    have hsize : (0 : Int) ≤ n.toNat ∧ (n.toNat : Int) < Int.pow 2 32 :=
      ⟨Int.natCast_nonneg _, Int.ofNat_lt.2 n.toNat_lt⟩
    rw [Option.map_some, Option.mapM_some, Json.size?, if_pos hsize, Int.toNat_natCast,
      UInt32.ofNat_toNat]
    rfl

/-- **A definition is read back from its JSON form.** -/
theorem ofJson?_toJson (a : Attribute) : ofJson? a.toJson = some a := by
  have hflag : ∀ key (flag : Option Bool), (key, flag.map Json.bool) ∈ a.fields →
      Entries.field? Json.flag? key (Entries.present a.fields) = some (flag.map some) :=
    fun _ flag h => (Entries.field?_present a.nodup_fields h _).trans (mapM_flag? flag)
  have htype : Entries.field? Json.string? "type" (Entries.present a.fields) = some (some a.type) :=
    Entries.field?_present a.nodup_fields List.mem_cons_self _
  have hsize : Entries.field? Json.size? "size" (Entries.present a.fields) =
      some (a.size.map some) :=
    (Entries.field?_present a.nodup_fields (by simp [fields]) _).trans (mapM_size? a.size)
  have hjoin : ∀ {β : Type} (o : Option β), (o.map some).join = o := fun o => by cases o <;> rfl
  rw [toJson_eq, ofJson?, ofEntries?, htype, hsize,
    hflag "primaryKey" a.primaryKey (by simp [fields]), hflag "unique" a.unique (by simp [fields]),
    hflag "autoIncrement" a.autoIncrement (by simp [fields]),
    hflag "nullable" a.nullable (by simp [fields]), hflag "indexed" a.indexed (by simp [fields])]
  simp [hjoin]

theorem isReadable_of_mem_fields {a : Attribute} {key : String} {v : Json}
    (h : (key, some v) ∈ a.fields) (depth : ℕ) : v.IsReadable depth := by
  have hflag : ∀ {flag : Option Bool}, some v = flag.map Json.bool → v.IsReadable depth := by
    intro flag hv
    obtain ⟨b, -, rfl⟩ := Option.map_eq_some_iff.1 hv.symm
    exact .bool b
  simp only [fields, List.mem_cons, Prod.mk.injEq, List.not_mem_nil, or_false] at h
  obtain ⟨-, hv⟩ | ⟨-, hv⟩ | ⟨-, hv⟩ | ⟨-, hv⟩ | ⟨-, hv⟩ | ⟨-, hv⟩ | ⟨-, hv⟩ := h
  · cases hv
    exact .string a.type
  · obtain ⟨n, -, rfl⟩ := Option.map_eq_some_iff.1 hv.symm
    have hlt := n.toNat_lt
    exact .integer (by omega)
  all_goals exact hflag hv

theorem isReadable_toJson (a : Attribute) (depth : ℕ) : a.toJson.IsReadable (depth + 1) := by
  rw [toJson_eq]
  refine .object (a.nodup_fields.sublist (Entries.map_fst_present_sublist _)) fun e he => ?_
  exact isReadable_of_mem_fields (Entries.mem_of_mem_present he) depth

/-! ## Lists of definitions -/

/-- The object of definitions under their names, in order. -/
def toObject (columns : List (String × Attribute)) : Json :=
  .object (columns.map fun c => (c.1, c.2.toJson))

theorem listOfEntries_toJson (columns : List (String × Attribute)) :
    listOfEntries (columns.map fun c => (c.1, c.2.toJson)) = .ok columns := by
  induction columns with
  | nil => rfl
  | cons c columns ih =>
    rw [List.map_cons, listOfEntries, ofJson?_toJson, ih]
    rfl

variable {columns : List (String × Attribute)}

/-- **Definitions are read from any text that is read as their object.** -/
theorem listOfText_of_ofText? {text : String} (h : Json.ofText? text = some (toObject columns)) :
    listOfText text = .ok columns := by
  rw [listOfText, h]
  exact listOfEntries_toJson columns

section

variable (h : (columns.map Prod.fst).Nodup)
include h

/-- Definitions under distinct names are written in order. -/
theorem listToJson_of_nodup : listToJson columns = toObject columns :=
  congrArg Json.object (Entries.distinct_of_nodup (by rwa [List.map_map]))

theorem isReadable_toObject : (toObject columns).IsReadable Json.maxDepth := by
  refine .object (by rwa [List.map_map]) fun e he => ?_
  obtain ⟨c, -, rfl⟩ := List.mem_map.1 he
  exact isReadable_toJson c.2 _

end

end Attribute

end QuerySql
