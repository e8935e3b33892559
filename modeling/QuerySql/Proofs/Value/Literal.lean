/-
  Values as literals.

  * `Value.storedForm` is the value that is stored and `Value.reports` what
    storing it reports (`Value.stored_ends`);
  * `Value.sqlLiteral` is its literal (`Value.literal_ends`): a word for null,
    truth values and numbers, a string for anything else;
  * `Literal.searched` and `Literal.escaped` are the literals that the like
    family and a like group make of it (`searched_text`, `escaped_text`);
  * `Value.skeleton` is the value without the characters of its texts and keys.
    It decides everything about the literal but the contents of a string
    (`redacted_skeleton`).
-/
import QuerySql.Proofs.Number.Bare
import QuerySql.Proofs.Outcome
import QuerySql.Proofs.Text.Quoted
import QuerySql.Condition

namespace QuerySql

open Sql (Literal Token IsBare)

/-! ## Literals of values -/

namespace Value

/-- The value that is stored. -/
def storedForm : Value → Value
  | .function source => .string source
  | .array items => ((Value.array items).jsonText?).elim (.array items) .string
  | .object entries => ((Value.object entries).jsonText?).elim (.object entries) .string
  | v => v

/-- What storing a value reports: an array or object without a JSON form. -/
def reports : Value → List Diagnostic
  | .array items => if ((Value.array items).jsonText?).isNone then [.unencodable .array] else []
  | .object entries =>
    if ((Value.object entries).jsonText?).isNone then [.unencodable .object] else []
  | _ => []

theorem encoded_ends (v : Value) : Report.Ends v.encoded (v.jsonText?.elim v .string)
    (if v.jsonText?.isNone then [.unencodable v.kind] else []) := by
  unfold encoded
  cases v.jsonText? with
  | none => exact (Report.ends_report _).bind (Report.ends_pure v)
  | some text => exact Report.ends_pure _

theorem stored_ends (v : Value) : Report.Ends v.stored v.storedForm v.reports := by
  cases v with
  | array items => exact encoded_ends (.array items)
  | object entries => exact encoded_ends (.object entries)
  | _ => exact Report.ends_pure _

theorem isBare_truthText (b : Bool) : IsBare (if b then "1" else "0").toList := by
  cases b
  exacts [isBare_intText 0, isBare_intText 1]

/-- The literal of a value. -/
def sqlLiteral (v : Value) : Literal :=
  match v with
  | .null => .word "NULL".toList (Or.inl (by decide))
  | .bool b => .word (if b then "1" else "0").toList (isBare_truthText b)
  | .int n => .word (Number.intText n.toInt).toList (isBare_intText _)
  | .float x => .word (numberText x).toList (isBare_numberText x)
  | v => .string v.storedForm.text.toList

/-- The SQL text of a stored value is the written form of its literal. -/
theorem sqlText_storedForm (v : Value) : v.storedForm.sqlText = v.sqlLiteral.text := by
  have helim : ∀ (w : Value) (t? : Option String), w.sqlText = Text.quoted w.text →
      (t?.elim w Value.string).sqlText = Text.quoted (t?.elim w Value.string).text := by
    rintro w (_ | t) hw
    exacts [hw, rfl]
  cases v with
  | array items => simpa [sqlLiteral, Literal.text, storedForm] using helim (.array items) _ rfl
  | object entries =>
    simpa [sqlLiteral, Literal.text, storedForm] using helim (.object entries) _ rfl
  | bool b => cases b <;> rfl
  | null => rfl
  | _ => simp only [storedForm, sqlLiteral, Literal.text, sqlText, text, String.ofList_toList]

theorem literal_ends (v : Value) : Report.Ends v.literal v.sqlLiteral.text v.reports := by
  rw [← sqlText_storedForm]
  exact v.stored_ends.map _

/-- The literals of a list of values; null alone for the empty list. -/
def sqlLiterals : List Value → Literal × List Literal
  | [] => (Value.null.sqlLiteral, [])
  | v :: vs => (v.sqlLiteral, vs.map sqlLiteral)

end Value

/-! ## Literals of patterns -/

namespace Sql.Literal

/-- The string that the like family searches for. -/
def searched (before after : List Char) : Literal → Literal
  | .word w _ => .string (before ++ w ++ after)
  | .string s => .string (before ++ Text.trimChars s ++ after)

/-- The pattern of a like group. -/
def escaped : Literal → Literal
  | .word w bare => .word w bare
  | .string s => .string
    (Text.replaceFrom Condition.percentMark.toList Condition.escapedPercent.toList 0 s)

theorem quote_notMem_of_isBare {w : List Char} (bare : IsBare w) : '\'' ∉ w :=
  fun h => absurd (bare.isWordChar h) (by decide)

/-- The trimmed literal between wildcards and quotes is a literal again. -/
theorem searched_text (l : Literal) {before after : String} (hb : '\'' ∉ before.toList)
    (ha : '\'' ∉ after.toList) : "'" ++ before ++ Text.trimQuotes l.text ++ after ++ "'" =
      (l.searched before.toList after.toList).text := by
  rw [← String.toList_inj]
  cases l with
  | word w bare =>
    have hw := quote_notMem_of_isBare bare
    simp [searched, text, Text.trimQuotes_eq, Text.trimChars_of_notMem,
      Text.doubleQuotes_of_notMem, hw, hb, ha]
  | string s =>
    simp [searched, text, Text.trimQuotes_quoted, Text.doubleQuotes_append,
      Text.doubleQuotes_of_notMem, hb, ha]

/-- The replaced literal is a literal again. -/
theorem escaped_text (l : Literal) :
    Text.replaceAll Condition.percentMark Condition.escapedPercent l.text = l.escaped.text := by
  cases l with
  | word w bare =>
    have hpercent : '%' ∉ w := fun h => absurd (bare.isWordChar h) (by decide)
    simp only [text, escaped, Text.replaceAll, String.toList_ofList]
    rw [Text.replaceFrom_of_notMem (o := '%') (by decide) hpercent]
  | string s =>
    exact Text.replaceAll_quoted (by decide) (by decide) (by decide) s

end Sql.Literal

/-! ## Skeletons -/

mutual

/-- The value without the characters of its texts, and its keys. -/
def Value.skeleton : Value → Value
  | .string _ => .string ""
  | .function _ => .function ""
  | .regex _ => .regex ""
  | .array items => .array (Value.skeletons items)
  | .object entries => .object (Value.entrySkeletons entries)
  | v => v

/-- The skeletons of the items of an array. -/
def Value.skeletons : List Value → List Value
  | [] => []
  | v :: rest => v.skeleton :: Value.skeletons rest

/-- The entries of an object without their keys. -/
def Value.entrySkeletons : List (String × Value) → List (String × Value)
  | [] => []
  | (_, v) :: rest => ("", v.skeleton) :: Value.entrySkeletons rest

end

namespace Sql.Literal

/-- The token of a literal without the contents of a string. -/
theorem redacted_token_searched (l m : Literal) (b b' a a' : List Char) :
    (l.searched b a).token.redacted = (m.searched b' a').token.redacted := by
  cases l <;> cases m <;> rfl

theorem redacted_token_escaped (l : Literal) :
    l.escaped.token.redacted = l.token.redacted := by
  cases l <;> rfl

end Sql.Literal

namespace Value

theorem skeletons_eq (vs : List Value) : skeletons vs = vs.map skeleton := by
  induction vs with
  | nil => rfl
  | cons v vs ih => simp [skeletons, ih]

/-- A value and its skeleton have the same literal, up to the contents of a string. -/
theorem redacted_skeleton (v : Value) :
    v.skeleton.sqlLiteral.token.redacted = v.sqlLiteral.token.redacted := by
  cases v <;> rfl

end Value

end QuerySql
