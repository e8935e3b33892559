/-
  Values inside values.

  * `Value.parts` are the items of an array and the values of an object;
  * `Value.induction` is induction on what a value is made of;
  * `Value.Everywhere`: something holds of a value and of all the values inside it.
-/
import QuerySql.Value.Basic

namespace QuerySql.Value

/-- Induction on a value: an array or object inherits what holds of the values in it. -/
@[elab_as_elim]
theorem induction {motive : Value → Prop}
    (scalar : ∀ v, (∀ items, v ≠ .array items) → (∀ entries, v ≠ .object entries) → motive v)
    (array : ∀ items, (∀ v ∈ items, motive v) → motive (.array items))
    (object : ∀ entries, (∀ e ∈ entries, motive e.2) → motive (.object entries)) (v : Value) :
    motive v :=
  match v with
  | .array items => array items fun w hw =>
    have := List.sizeOf_lt_of_mem hw
    induction scalar array object w
  | .object entries => object entries fun (key, w) he =>
    have := List.sizeOf_lt_of_mem he
    induction scalar array object w
  | .null | .bool _ | .int _ | .float _ | .string _ | .date _ | .function _ | .regex _ =>
    scalar _ nofun nofun
termination_by sizeOf v
decreasing_by
  all_goals
    simp only [Value.array.sizeOf_spec, Value.object.sizeOf_spec, Prod.mk.sizeOf_spec] at *
    omega

/-- The values that a value is made of. -/
def parts : Value → List Value
  | .array items => items
  | .object entries => entries.map Prod.snd
  | _ => []

/-- Induction on a value: it inherits what holds of its parts. -/
@[elab_as_elim]
theorem partsInduction {motive : Value → Prop}
    (whole : ∀ v, (∀ w ∈ v.parts, motive w) → motive v) (v : Value) : motive v := by
  induction v using Value.induction with
  | scalar v harray hobject =>
    refine whole v ?_
    cases v with
    | array items => exact absurd rfl (harray items)
    | object entries => exact absurd rfl (hobject entries)
    | _ => exact nofun
  | array items ih => exact whole _ ih
  | object entries ih => exact whole _ (List.forall_mem_map.2 ih)

/-- `P` holds of the value and of all values inside it. -/
inductive Everywhere (P : Value → Prop) : Value → Prop
  | intro {v} (here : P v) (inside : ∀ w ∈ v.parts, Everywhere P w) : Everywhere P v

variable {P : Value → Prop} {v : Value}

theorem everywhere_iff : v.Everywhere P ↔ P v ∧ ∀ w ∈ v.parts, w.Everywhere P :=
  ⟨fun ⟨here, inside⟩ => ⟨here, inside⟩, fun ⟨here, inside⟩ => ⟨here, inside⟩⟩

theorem everywhere_array {items : List Value} : (array items).Everywhere P ↔
    P (.array items) ∧ ∀ w ∈ items, w.Everywhere P :=
  everywhere_iff

theorem everywhere_object {entries : List (String × Value)} : (object entries).Everywhere P ↔
    P (.object entries) ∧ ∀ e ∈ entries, e.2.Everywhere P :=
  everywhere_iff.trans (and_congr_right' List.forall_mem_map)

theorem everywhere_of_parts_eq_nil (h : v.parts = []) : v.Everywhere P ↔ P v := by
  rw [everywhere_iff, h]
  exact and_iff_left nofun

/-- What holds of all values holds everywhere. -/
theorem everywhere_of_forall (hP : ∀ v, P v) (v : Value) : v.Everywhere P := by
  induction v using partsInduction with
  | whole v ih => exact .intro (hP v) ih

theorem Everywhere.here (h : v.Everywhere P) : P v := (everywhere_iff.1 h).1

theorem Everywhere.of_mem_items {items : List Value} (h : (array items).Everywhere P) :
    ∀ w ∈ items, w.Everywhere P :=
  (everywhere_array.1 h).2

theorem Everywhere.of_mem_entries {entries : List (String × Value)}
    (h : (object entries).Everywhere P) : ∀ e ∈ entries, e.2.Everywhere P :=
  (everywhere_object.1 h).2

end QuerySql.Value
