/-
  Indented JSON text and back.

  The indented text of a value has the same tokens as the compact one
  (`readAs_prettyChars`), so a readable value is read back from it, also in front
  of further blanks (`ofText?_prettyText`).
-/
import QuerySql.Proofs.Json.Text

namespace QuerySql.Json

/-! ## Blanks -/

theorem readAs_newLine (depth : ℕ) {cs : List Char} {ts : List Token} (h : ReadAs cs ts) :
    ReadAs (newLine depth ++ cs) ts := by
  have hspaces : ∀ n, ReadAs (List.replicate n ' ' ++ cs) ts := by
    intro n
    induction n with
    | zero => exact h
    | succ n ih => exact ih.blank_cons rfl
  exact (hspaces _).blank_cons rfl

theorem newLine_head (depth : ℕ) (cs : List Char) :
    ∃ c ∈ (newLine depth ++ cs).head?, EndsWord c :=
  ⟨'\n', rfl, Or.inr rfl⟩

/-! ## Tokens -/

theorem prettyItems_eq (depth : ℕ) (items : List Json) : prettyItems depth items =
    items.flatMap fun j => ',' :: (newLine depth ++ prettyChars depth j) := by
  induction items with
  | nil => rfl
  | cons j items ih => simp [prettyItems, ih]

theorem prettyEntries_eq (depth : ℕ) (entries : List (String × Json)) :
    prettyEntries depth entries = entries.flatMap fun e =>
      ',' :: (newLine depth ++ (stringChars e.1 ++ ':' :: ' ' :: prettyChars depth e.2)) := by
  induction entries with
  | nil => rfl
  | cons e entries ih => simp [prettyEntries, ih]

/-- **The indented text of a value is read as the tokens of its tree.** -/
theorem readAs_prettyChars (depth : ℕ) (j : Json) :
    ReadAs (prettyChars depth j) j.source.tokens := by
  induction j generalizing depth with
  | null | bool | integer | float | string => exact readAs_chars _
  | array items ih =>
    cases items with
    | nil => exact readAs_chars (.array [])
    | cons j items =>
      have hclose : ReadAs (newLine depth ++ [']']) [.closeArray] :=
        readAs_newLine depth (readAs_nil.mark_cons rfl)
      have hitems := readAs_array hclose (newLine_head depth _) rfl fun i hi =>
        readAs_newLine (depth + 1) (ih i hi (depth + 1))
      rw [prettyChars, prettyItems_eq]
      simpa using hitems
  | object entries ih =>
    cases entries with
    | nil => exact readAs_chars (.object [])
    | cons e entries =>
      have hclose : ReadAs (newLine depth ++ ['\x7d']) [.closeObject] :=
        readAs_newLine depth (readAs_nil.mark_cons rfl)
      have hentries := readAs_object hclose (newLine_head depth _) rfl fun d hd =>
        readAs_newLine (depth + 1)
          (readAs_entry d.1 ((ih d hd (depth + 1)).blank_cons (c := ' ') rfl))
      rw [prettyChars, prettyEntries_eq]
      simpa using hentries

/-! ## Values -/

variable {j : Json}

/-- **A readable value is read back from its indented text.** -/
theorem ofText?_prettyText (h : j.IsReadable maxDepth) : ofText? j.prettyText = some j :=
  ofText?_of_readAs h (by rw [prettyText, String.toList_ofList]; exact readAs_prettyChars 0 j)

/-- A new line behind the text means nothing. -/
theorem ofText?_prettyText_newLine (h : j.IsReadable maxDepth) :
    ofText? (j.prettyText ++ "\n") = some j := by
  refine ofText?_of_readAs h ?_
  have hline : ReadAs ['\n'] [] := readAs_nil.blank_cons rfl
  have hall := (readAs_prettyChars 0 j).append hline ⟨'\n', rfl, Or.inr rfl⟩
  rw [List.append_nil] at hall
  rw [String.toList_append, prettyText, String.toList_ofList]
  exact hall

end QuerySql.Json
