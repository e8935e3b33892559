/-
  Values and their JSON forms.

  * `Value.canonical` is what is left of a value in its JSON form: a date is a
    text, a regular expression an empty object and a function null, or nothing in
    an object; of the entries with one key the last one counts, in the place of
    the first;
  * a value with finite floats has a JSON form, which has at most one level more
    than the value and stands for the canonical value (`Value.exists_toJson?`);
  * a value with another float has none (`Value.isSome_toJson?_iff`);
  * values of JSON values with distinct keys are canonical (`Value.canonical_ofJson`).
-/
import QuerySql.Value.Json
import QuerySql.Proofs.Json.Text
import QuerySql.Proofs.Value.Parts

namespace QuerySql.Value

theorem ofJsonItems_eq (items : List Json) : ofJsonItems items = items.map ofJson := by
  induction items with
  | nil => rfl
  | cons j items ih => rw [ofJsonItems, ih, List.map_cons]

theorem ofJsonEntries_eq (entries : List (String × Json)) :
    ofJsonEntries entries = entries.map fun e => (e.1, ofJson e.2) := by
  induction entries with
  | nil => rfl
  | cons e entries ih => rw [ofJsonEntries, ih, List.map_cons]

@[simp] theorem ofJson_array (items : List Json) :
    ofJson (.array items) = .array (items.map ofJson) := by
  rw [ofJson, ofJsonItems_eq]

@[simp] theorem ofJson_object (entries : List (String × Json)) :
    ofJson (.object entries) = .object (entries.map fun e => (e.1, ofJson e.2)) := by
  rw [ofJson, ofJsonEntries_eq]

/-- No value of a JSON text is a regular expression. -/
theorem ofJson_ne_regex (j : Json) (pattern : String) : ofJson j ≠ .regex pattern := by
  cases j with
  | integer n => rw [ofJson]; split <;> exact nofun
  | array | object | null | bool | float | string => simp [ofJson]

theorem ofJson_ne_function (j : Json) (source : String) : ofJson j ≠ .function source := by
  cases j with
  | integer n => rw [ofJson]; split <;> exact nofun
  | array | object | null | bool | float | string => simp [ofJson]

/-! ## Levels -/

mutual

/-- The number of levels of arrays and objects. -/
def depth : Value → Nat
  | .array items => itemsDepth items + 1
  | .object entries => entriesDepth entries + 1
  | _ => 0

/-- The number of levels in the items of an array. -/
def itemsDepth : List Value → Nat
  | [] => 0
  | v :: rest => max (depth v) (itemsDepth rest)

/-- The number of levels in the values of an object. -/
def entriesDepth : List (String × Value) → Nat
  | [] => 0
  | (_, v) :: rest => max (depth v) (entriesDepth rest)

end

theorem itemsDepth_le {items : List Value} {d : Nat} :
    itemsDepth items ≤ d ↔ ∀ v ∈ items, v.depth ≤ d := by
  induction items with
  | nil => simp [itemsDepth]
  | cons v items ih => rw [itemsDepth, Nat.max_le, ih, List.forall_mem_cons]

theorem entriesDepth_le {entries : List (String × Value)} {d : Nat} :
    entriesDepth entries ≤ d ↔ ∀ e ∈ entries, e.2.depth ≤ d := by
  induction entries with
  | nil => simp [entriesDepth]
  | cons e entries ih => rw [entriesDepth, Nat.max_le, ih, List.forall_mem_cons]

/-! ## Canonical values -/

mutual

/-- What is left of a value in its JSON form. -/
def canonical : Value → Value
  | .date instant => .string instant.jsonText
  | .function _ => .null
  | .regex _ => .object []
  | .array items => .array (canonicalItems items)
  | .object entries => .object (Entries.lastOfEach (canonicalEntries entries))
  | v => v

/-- What is left of the items of an array. -/
def canonicalItems : List Value → List Value
  | [] => []
  | v :: rest => canonical v :: canonicalItems rest

/-- What is left of the entries of an object: functions are dropped. -/
def canonicalEntries : List (String × Value) → List (String × Value)
  | [] => []
  | (_, .function _) :: rest => canonicalEntries rest
  | (key, v) :: rest => (key, canonical v) :: canonicalEntries rest

end

theorem canonicalItems_eq (items : List Value) : canonicalItems items = items.map canonical := by
  induction items with
  | nil => rfl
  | cons v items ih => rw [canonicalItems, ih, List.map_cons]

theorem canonicalEntries_eq {entries : List (String × Value)}
    (h : ∀ e ∈ entries, ∀ source, e.2 ≠ .function source) :
    canonicalEntries entries = entries.map fun e => (e.1, e.2.canonical) := by
  induction entries with
  | nil => rfl
  | cons e entries ih =>
    obtain ⟨he, hentries⟩ := List.forall_mem_cons.1 h
    rw [canonicalEntries, ih hentries, List.map_cons]
    exact fun source => he source

/-! ## JSON forms -/

/-- The floats of the value are finite. -/
def HasFiniteFloats (v : Value) : Prop :=
  v.Everywhere fun w => ∀ x, w = .float x → x.isFinite = true

/-- The digits of the floats of the value, zeros apart, denote the floats. -/
def HasReadableFloats (v : Value) : Prop :=
  v.Everywhere fun w => ∀ x, w = .float x → x.isZero = false → Json.ReadsBack x

/-- The value has a readable JSON form that stands for the canonical value. -/
def HasJsonForm (v : Value) (d : Nat) : Prop :=
  ∃ j, v.toJson? = some j ∧ j.IsReadable d ∧ ofJson j = v.canonical

theorem toJsonItems?_eq_some {d : Nat} {items : List Value} (h : ∀ v ∈ items, v.HasJsonForm d) :
    ∃ js, toJsonItems? items = some js ∧ (∀ j ∈ js, j.IsReadable d) ∧
      js.map ofJson = canonicalItems items := by
  induction items with
  | nil => exact ⟨[], rfl, nofun, rfl⟩
  | cons v items ih =>
    obtain ⟨⟨j, hj, hreadable, hvalue⟩, hitems⟩ := List.forall_mem_cons.1 h
    obtain ⟨js, hjs, hreadables, hvalues⟩ := ih hitems
    refine ⟨j :: js, by rw [toJsonItems?, hj, hjs]; rfl,
      List.forall_mem_cons.2 ⟨hreadable, hreadables⟩, ?_⟩
    rw [List.map_cons, hvalue, hvalues, canonicalItems]

theorem toJsonEntries?_eq_some {d : Nat} {entries : List (String × Value)}
    (h : ∀ e ∈ entries, e.2.HasJsonForm d) :
    ∃ es, toJsonEntries? entries = some es ∧ (∀ e ∈ es, e.2.IsReadable d) ∧
      es.map (fun e => (e.1, ofJson e.2)) = canonicalEntries entries := by
  induction entries with
  | nil => exact ⟨[], rfl, nofun, rfl⟩
  | cons e entries ih =>
    obtain ⟨key, v⟩ := e
    obtain ⟨⟨j, hj, hreadable, hvalue⟩, hentries⟩ := List.forall_mem_cons.1 h
    obtain ⟨es, hes, hreadables, hvalues⟩ := ih hentries
    by_cases hfunction : ∃ source, v = .function source
    · obtain ⟨source, rfl⟩ := hfunction
      exact ⟨es, hes, hreadables, hvalues⟩
    · have hkept : ∀ source, v ≠ .function source := fun source hv => hfunction ⟨source, hv⟩
      refine ⟨(key, j) :: es, ?_, List.forall_mem_cons.2 ⟨hreadable, hreadables⟩, ?_⟩
      · rw [toJsonEntries?, hj, hes]
        · rfl
        · exact hkept
      · rw [List.map_cons, hvalue, hvalues, canonicalEntries]
        exact hkept

theorem ofJson_toInt (n : Int64) : ofJson (.integer n.toInt) = .int n := by
  have hrange : -Int.pow 2 63 ≤ n.toInt ∧ n.toInt < Int.pow 2 63 := ⟨n.le_toInt, n.toInt_lt⟩
  rw [ofJson, if_pos hrange, Int64.ofInt_toInt]

theorem readsBack_of_hasReadableFloats {x : Binary64} (h : (float x).HasReadableFloats) :
    Json.ReadsBack x := by
  cases hzero : x.isZero with
  | true => exact Json.readsBack_of_isZero hzero
  | false => exact h.here x rfl hzero

/-- Only the empty object of a regular expression needs a level. -/
theorem hasJsonForm_of_scalar {v : Value} {d : Nat} (harray : ∀ items, v ≠ .array items)
    (hobject : ∀ entries, v ≠ .object entries) (hfinite : v.HasFiniteFloats)
    (hread : v.HasReadableFloats) : v.HasJsonForm (d + 1) := by
  cases v with
  | array items => exact absurd rfl (harray items)
  | object entries => exact absurd rfl (hobject entries)
  | null => exact ⟨.null, rfl, .null, rfl⟩
  | bool b => exact ⟨.bool b, rfl, .bool b, rfl⟩
  | int n =>
    have hlow := n.le_toInt
    have hhigh := n.toInt_lt
    exact ⟨.integer n.toInt, rfl, .integer (by omega), ofJson_toInt n⟩
  | float x =>
    have hx : x.isFinite = true := hfinite.here x rfl
    exact ⟨.float x, by rw [toJson?, if_pos hx], .float (readsBack_of_hasReadableFloats hread), rfl⟩
  | string text => exact ⟨.string text, rfl, .string text, rfl⟩
  | date instant => exact ⟨.string instant.jsonText, rfl, .string _, rfl⟩
  | function source => exact ⟨.null, rfl, .null, rfl⟩
  | regex pattern => exact ⟨.object [], rfl, .object List.nodup_nil nofun, rfl⟩

/-- **A value with finite floats has a JSON form**, one level deeper at most. -/
theorem exists_toJson? {v : Value} {d : Nat} (hfinite : v.HasFiniteFloats)
    (hread : v.HasReadableFloats) (hdepth : v.depth ≤ d) : v.HasJsonForm (d + 1) := by
  induction v using Value.induction generalizing d with
  | scalar v harray hobject => exact hasJsonForm_of_scalar harray hobject hfinite hread
  | array items ih =>
    obtain ⟨d, rfl⟩ : ∃ d', d = d' + 1 := ⟨d - 1, by rw [depth] at hdepth; omega⟩
    have hitems := itemsDepth_le.1 (Nat.le_of_succ_le_succ hdepth)
    obtain ⟨js, hjs, hreadable, hvalues⟩ := toJsonItems?_eq_some fun w hw =>
      ih w hw (hfinite.of_mem_items w hw) (hread.of_mem_items w hw) (hitems w hw)
    refine ⟨.array js, by rw [toJson?, hjs]; rfl, .array hreadable, ?_⟩
    rw [ofJson_array, hvalues, canonical]
  | object entries ih =>
    obtain ⟨d, rfl⟩ : ∃ d', d = d' + 1 := ⟨d - 1, by rw [depth] at hdepth; omega⟩
    have hentries := entriesDepth_le.1 (Nat.le_of_succ_le_succ hdepth)
    obtain ⟨es, hes, hreadable, hvalues⟩ := toJsonEntries?_eq_some fun e he =>
      ih e he (hfinite.of_mem_entries e he) (hread.of_mem_entries e he) (hentries e he)
    refine ⟨.object (Entries.distinct es), by rw [toJson?, hes]; rfl,
      .object (Entries.nodup_distinct es)
        fun e he => hreadable e (Entries.mem_of_mem_distinct he), ?_⟩
    rw [ofJson_object, ← Entries.distinct_map, hvalues, canonical, Entries.distinct_eq_lastOfEach]

/-! ## Values without a JSON form -/

theorem isSome_toJsonItems? (items : List Value) :
    (toJsonItems? items).isSome ↔ ∀ v ∈ items, v.toJson?.isSome := by
  induction items with
  | nil => simp [toJsonItems?]
  | cons v items ih =>
    rw [List.forall_mem_cons, ← ih, toJsonItems?]
    cases v.toJson? <;> cases toJsonItems? items <;> simp

/-- A function is dropped, so it does not stand in the way. -/
theorem isSome_toJsonEntries? (entries : List (String × Value)) :
    (toJsonEntries? entries).isSome ↔ ∀ e ∈ entries, e.2.toJson?.isSome := by
  induction entries with
  | nil => simp [toJsonEntries?]
  | cons e entries ih =>
    obtain ⟨key, v⟩ := e
    rw [List.forall_mem_cons, ← ih]
    by_cases hfunction : ∃ source, v = .function source
    · obtain ⟨source, rfl⟩ := hfunction
      simp [toJsonEntries?, toJson?]
    · have hkept : ∀ source, v ≠ .function source := fun source hv => hfunction ⟨source, hv⟩
      rw [toJsonEntries?.eq_3 _ _ _ hkept]
      cases v.toJson? <;> cases toJsonEntries? entries <;> simp

/-- **A value has a JSON form iff its floats are finite**, wherever they stand. -/
theorem isSome_toJson?_iff (v : Value) : v.toJson?.isSome ↔ v.HasFiniteFloats := by
  induction v using Value.induction with
  | array items ih =>
    rw [toJson?, Option.isSome_map, isSome_toJsonItems?, HasFiniteFloats, everywhere_array]
    exact ⟨fun h => ⟨nofun, fun w hw => (ih w hw).1 (h w hw)⟩, fun h w hw => (ih w hw).2 (h.2 w hw)⟩
  | object entries ih =>
    rw [toJson?, Option.isSome_map, isSome_toJsonEntries?, HasFiniteFloats, everywhere_object]
    exact ⟨fun h => ⟨nofun, fun e he => (ih e he).1 (h e he)⟩, fun h e he => (ih e he).2 (h.2 e he)⟩
  | scalar v harray hobject =>
    have hparts : v.parts = [] := by
      cases v with
      | array items => exact absurd rfl (harray items)
      | object entries => exact absurd rfl (hobject entries)
      | _ => rfl
    rw [HasFiniteFloats, everywhere_of_parts_eq_nil hparts]
    cases v with
    | array items => exact absurd rfl (harray items)
    | object entries => exact absurd rfl (hobject entries)
    | float x => by_cases hx : x.isFinite <;> simp [toJson?, hx]
    | _ => simp [toJson?]

instance : DecidablePred HasFiniteFloats := fun v => decidable_of_iff _ v.isSome_toJson?_iff

/-! ## Values built from JSON -/

/-- The value stands for a JSON value, in whose objects no key is repeated. -/
def IsJson (v : Value) : Prop := ∃ j : Json, j.HasDistinctKeys ∧ v = ofJson j

/-- What is read from a JSON text is such a value. -/
theorem isJson_of_ofJsonText? {text : String} {v : Value} (h : ofJsonText? text = some v) :
    v.IsJson := by
  obtain ⟨j, hj, rfl⟩ := Option.map_eq_some_iff.1 h
  exact ⟨j, Json.hasDistinctKeys_of_ofText? hj, rfl⟩

theorem canonical_ofJson {j : Json} (h : j.HasDistinctKeys) : (ofJson j).canonical = ofJson j := by
  induction h with
  | null | bool | float | string => rfl
  | integer n => rw [ofJson]; split <;> rfl
  | @array items _ ih =>
    rw [ofJson_array, canonical, canonicalItems_eq, List.map_map]
    exact congrArg _ (List.map_congr_left ih)
  | @object entries hkeys _ ih =>
    have hplain : ∀ e ∈ entries.map fun e => (e.1, ofJson e.2), ∀ source, e.2 ≠ .function source :=
      List.forall_mem_map.2 fun e _ => ofJson_ne_function e.2
    have hsame : (entries.map fun e => (e.1, ofJson e.2)).map (fun e => (e.1, e.2.canonical)) =
        entries.map fun e => (e.1, ofJson e.2) := by
      rw [List.map_map]
      exact List.map_congr_left fun e he => Prod.ext rfl (ih e he)
    have hnodup : ((entries.map fun e => (e.1, ofJson e.2)).map Prod.fst).Nodup := by
      rwa [List.map_map]
    rw [ofJson_object, canonical, canonicalEntries_eq hplain, hsame,
      ← Entries.distinct_eq_lastOfEach, Entries.distinct_of_nodup hnodup]

end QuerySql.Value
