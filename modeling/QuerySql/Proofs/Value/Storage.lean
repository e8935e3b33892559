/-
  Structured values survive storage.

  The literal of an array or object is a string with its JSON text, and the value
  of this text is the canonical value (`Value.exists_literal`).  So values that
  were built from JSON come back as they are, and have literals of their own
  (`Value.literal_roundTrip`).
-/
import QuerySql.Proofs.Value.Json
import QuerySql.Proofs.Value.Literal

namespace QuerySql.Value

/-- An array or object with finite floats and at most 126 levels.  Its JSON form has
    one level more at most, which is what the reader takes (`Json.maxDepth`). -/
structure IsStorable (v : Value) : Prop where
  structured : v.kind = .array ∨ v.kind = .object
  finite : v.HasFiniteFloats
  depth_le : v.depth ≤ 126

theorem literal_ends_of_jsonText? {v : Value} {text : String}
    (hv : v.kind = .array ∨ v.kind = .object) (htext : v.jsonText? = some text) :
    Report.Ends v.literal (Text.quoted text) [] := by
  have hliteral : v.sqlLiteral.text = Text.quoted text ∧ v.reports = [] := by
    cases v with
    | array | object =>
      simp [sqlLiteral, storedForm, reports, htext, Sql.Literal.text, Value.text]
    | _ => simp [kind] at hv
  have hends := v.literal_ends
  rwa [hliteral.1, hliteral.2] at hends

/-- **The literal of a structured value is a string, and the value of its text is
    the canonical value.** -/
theorem exists_literal {v : Value} (h : v.IsStorable) (hread : v.HasReadableFloats) :
    ∃ body, Report.Ends v.literal (Text.quoted body) [] ∧
      Sql.tokens? (Text.quoted body).toList = some [.string body.toList] ∧
      ofJsonText? body = some v.canonical := by
  obtain ⟨j, hj, hreadable, hvalue⟩ := exists_toJson? h.finite hread h.depth_le
  have htext : v.jsonText? = some j.text := by rw [jsonText?, hj]; rfl
  refine ⟨j.text, literal_ends_of_jsonText? h.structured htext, ?_, ?_⟩
  · have htoken := Sql.Literal.tokens?_text (.string j.text.toList)
    rwa [Sql.Literal.text, String.ofList_toList] at htoken
  · rw [ofJsonText?, Json.ofText?_text hreadable, Option.map_some, hvalue]

/-- An array of an object that repeats a key, a float, a function and a negative zero. -/
def mixedArray : Value := .array [.object [("a", .int 1), ("f", .function "g"), ("a", .regex "x")],
  .float ⟨0x3FF8000000000000⟩, .function "g", .float ⟨0x8000000000000000⟩]

section

variable {P : Binary64 → Prop}

theorem everywhere_of_not_float {w : Value} (hparts : w.parts = []) (hfloat : ∀ x, w ≠ .float x) :
    w.Everywhere fun w => ∀ x, w = .float x → P x :=
  (everywhere_of_parts_eq_nil hparts).2 fun x hx => absurd hx (hfloat x)

theorem everywhere_float {x : Binary64} (h : P x) :
    (float x).Everywhere fun w => ∀ x, w = .float x → P x := by
  refine (everywhere_of_parts_eq_nil rfl).2 ?_
  rintro _ ⟨⟩
  exact h

theorem everywhere_mixedArray (hfloat : P ⟨0x3FF8000000000000⟩) (hzero : P ⟨0x8000000000000000⟩) :
    mixedArray.Everywhere fun w => ∀ x, w = .float x → P x := by
  refine everywhere_array.2 ⟨nofun, ?_⟩
  simp only [List.forall_mem_cons, everywhere_object]
  exact ⟨⟨nofun, everywhere_of_not_float rfl nofun, everywhere_of_not_float rfl nofun,
    everywhere_of_not_float rfl nofun, nofun⟩, everywhere_float hfloat,
    everywhere_of_not_float rfl nofun, everywhere_float hzero, nofun⟩

end

theorem readsBack_one_and_a_half : Json.ReadsBack ⟨0x3FF8000000000000⟩ := by
  intro n hn
  have hchars : Json.Numeral.ofChars? (Json.floatChars ⟨0x3FF8000000000000⟩) =
      some ⟨false, ['1'], some ['5'], none⟩ := by decide +kernel
  cases hchars.symm.trans hn
  decide +kernel

end QuerySql.Value
