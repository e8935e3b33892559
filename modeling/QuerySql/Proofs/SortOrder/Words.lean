/-
  Sort texts, word by word.

  `SortOrder.ofWords` reads the words of a sort text: the first one is the column,
  with an optional dash, and the second one the direction.  `ofExpression` looks for
  a word behind line blanks only, but ends it at any blank.  A text whose words
  matter is laid out well if it has only line blanks before them (`IsLaidOut`), and
  `ofExpression` reads the words of a text iff it is
  (`ofExpression_eq_ofWords_iff`).
-/
import QuerySql.SortOrder
import QuerySql.Proofs.Text.Words
import Mathlib.Data.List.TakeDrop

namespace QuerySql.SortOrder

open Text (isBlank isLineBlank words behindWord)

/-! ## Reading words -/

/-- The direction that the words behind the column ask for. -/
def directionOfWords : List (List Char) → Direction
  | [] => .ascending
  | w :: _ => if Text.lowerCase (String.ofList w) = "asc" then .ascending else .descending

/-- The column and the direction that the words of a text stand for. -/
def ofWords : List (List Char) → Option (String × Direction)
  | [] => none
  | ['-'] :: _ => none
  | ('-' :: column) :: _ => some (String.ofList column, .descending)
  | column :: ws => some (String.ofList column, directionOfWords ws)

theorem ofWords_of_dash {column : List Char} (hne : column ≠ []) (ws : List (List Char)) :
    ofWords (('-' :: column) :: ws) = some (String.ofList column, .descending) := by
  obtain ⟨c, cs, rfl⟩ := List.exists_cons_of_ne_nil hne
  rfl

theorem ofWords_of_not_dash {column : List Char} (h : column.head? ≠ some '-')
    (ws : List (List Char)) :
    ofWords (column :: ws) = some (String.ofList column, directionOfWords ws) := by
  cases column with
  | nil => rfl
  | cons c cs =>
    have hc : c ≠ '-' := fun hc => h (congrArg some hc)
    simp [ofWords, hc]

/-! ## Layout -/

/-- Only line blanks stand before the first word of the text. -/
def StartsInLine (cs : List Char) : Prop := ∀ c ∈ cs.takeWhile isBlank, isLineBlank c = true

instance (cs : List Char) : Decidable (StartsInLine cs) :=
  List.decidableBAll (fun c => isLineBlank c = true) (cs.takeWhile isBlank)

/-- Only line blanks stand before the column, if there is one, and before a direction
    that changes the order. -/
structure IsLaidOut (cs : List Char) : Prop where
  column : ofWords (words cs) ≠ none → StartsInLine cs
  direction : ∀ column w ws, words cs = column :: w :: ws → column.head? ≠ some '-' →
    Text.lowerCase (String.ofList w) ≠ "asc" → StartsInLine (behindWord cs)

section

variable {cs w : List Char} {ws : List (List Char)}

theorem isLaidOut_iff_of_not_startsInLine (hline : ¬ StartsInLine cs) :
    IsLaidOut cs ↔ ofWords (words cs) = none := by
  constructor
  · intro h
    by_contra hne
    exact hline (h.column hne)
  · intro h
    refine ⟨fun hne => absurd h hne, fun column w ws heq hdash => ?_⟩
    rw [heq, ofWords_of_not_dash hdash] at h
    cases h

/-- Behind a column with a dash nothing matters. -/
theorem isLaidOut_of_dash (hline : StartsInLine cs)
    (h : ∀ w ws, words cs = w :: ws → w.head? = some '-') : IsLaidOut cs :=
  ⟨fun _ => hline, fun _ _ _ heq hnot => absurd (h _ _ heq) hnot⟩

theorem isLaidOut_iff_of_not_dash (hline : StartsInLine cs) (h : words cs = w :: ws)
    (hdash : w.head? ≠ some '-') : IsLaidOut cs ↔
      ∀ w' ws', ws = w' :: ws' → Text.lowerCase (String.ofList w') ≠ "asc" →
        StartsInLine (behindWord cs) := by
  constructor
  · intro hlaid w' ws' heq
    exact hlaid.direction w w' ws' (heq ▸ h) hdash
  · intro hdirection
    refine ⟨fun _ => hline, fun column w' ws' heq _ => ?_⟩
    rw [h] at heq
    exact hdirection w' ws' (List.cons.inj heq).2

end

/-! ## Line blanks -/

theorem isBlank_of_isLineBlank {c : Char} (h : isLineBlank c = true) : isBlank c = true := by
  have hc : ((c = ' ' ∨ c = '\t') ∨ c = '\r') ∨ c = '\n' := by simpa [isLineBlank] using h
  rcases hc with ((rfl | rfl) | rfl) | rfl <;> rfl

theorem skipBlanks_eq {cs : List Char} (h : StartsInLine cs) :
    skipBlanks cs = cs.dropWhile isBlank := by
  induction cs with
  | nil => rfl
  | cons c cs ih =>
    by_cases hc : isBlank c = true
    · rw [StartsInLine, List.takeWhile_cons_of_pos hc] at h
      obtain ⟨hline, hrest⟩ := List.forall_mem_cons.1 h
      rw [skipBlanks, List.dropWhile_cons_of_pos hline, List.dropWhile_cons_of_pos hc]
      exact ih hrest
    · rw [skipBlanks, List.dropWhile_cons_of_neg hc,
        List.dropWhile_cons_of_neg (mt isBlank_of_isLineBlank hc)]

/-- Behind the line blanks stands another blank. -/
theorem head_skipBlanks {cs : List Char} (h : ¬ StartsInLine cs) :
    ∀ c ∈ (skipBlanks cs).head?, isBlank c = true := by
  induction cs with
  | nil => exact absurd (List.forall_mem_nil _) h
  | cons c cs ih =>
    by_cases hc : isBlank c = true
    · rw [StartsInLine, List.takeWhile_cons_of_pos hc, List.forall_mem_cons] at h
      by_cases hline : isLineBlank c = true
      · rw [skipBlanks, List.dropWhile_cons_of_pos hline]
        exact ih fun hrest => h ⟨hline, hrest⟩
      · rw [skipBlanks, List.dropWhile_cons_of_neg hline]
        intro d hd
        cases hd
        exact hc
    · rw [StartsInLine, List.takeWhile_cons_of_neg hc] at h
      exact absurd (List.forall_mem_nil _) h

/-! ## Reading the text -/

theorem word_append {w rest : List Char} (hw : ∀ c ∈ w, isBlank c = false)
    (hrest : ∀ c ∈ rest.head?, isBlank c = true) : word (w ++ rest) = (w, rest) := by
  have hkept : ∀ c ∈ w, (!isBlank c) = true := fun c hc => by rw [hw c hc]; rfl
  rw [word, List.span_eq_takeWhile_dropWhile, List.takeWhile_append_of_pos hkept,
    List.dropWhile_append_of_pos hkept]
  cases rest with
  | nil => simp
  | cons c rest => simp [hrest c rfl]

/-- Where a blank stands there is neither a dash nor a word. -/
theorem dash_word_of_blank {cs : List Char} (h : ∀ c ∈ cs.head?, isBlank c = true) :
    dash cs = (false, cs) ∧ word cs = ([], cs) := by
  refine ⟨?_, word_append (List.forall_mem_nil _) h⟩
  rw [dash.eq_def]
  split
  · exact absurd (h '-' rfl) (by decide)
  · rfl

/-- The word behind the line blanks is the first word of the text, if only these stand
    before it. -/
theorem word_skipBlanks (cs : List Char) :
    (word (skipBlanks cs)).1 = if StartsInLine cs then (words cs).headD [] else [] := by
  by_cases hline : StartsInLine cs
  · rw [if_pos hline, skipBlanks_eq hline]
    cases hwords : words cs with
    | nil =>
      rw [Text.words_eq_nil_iff.1 hwords]
      rfl
    | cons w ws =>
      obtain ⟨heq, hw, -⟩ := Text.words_eq_cons hwords
      rw [heq, word_append hw (Text.head_behindWord cs)]
      rfl
  · rw [if_neg hline, (dash_word_of_blank (head_skipBlanks hline)).2]

section

variable {text : String} {w : List Char} {ws : List (List Char)}

theorem toOption_ofExpression {dashed : Bool} {rest column behind : List Char}
    (hdash : dash (skipBlanks text.toList) = (dashed, rest)) (hword : word rest = (column, behind)) :
    (ofExpression text).toOption = if column = [] then none else
      some (String.ofList column, direction dashed (word (skipBlanks behind)).1) := by
  unfold ofExpression
  simp only [hdash, hword]
  cases column <;> rfl

/-- Where the line blanks end with another blank, or with the text, no column is found. -/
theorem toOption_of_blank (h : ∀ c ∈ (skipBlanks text.toList).head?, isBlank c = true) :
    (ofExpression text).toOption = none := by
  obtain ⟨hdash, hword⟩ := dash_word_of_blank h
  rw [toOption_ofExpression hdash hword, if_pos rfl]

variable (hline : StartsInLine text.toList)
include hline

theorem toOption_of_words_eq_nil (h : words text.toList = []) :
    (ofExpression text).toOption = none := by
  refine toOption_of_blank ?_
  rw [skipBlanks_eq hline, Text.words_eq_nil_iff.1 h]
  exact nofun

/-- With a dash nothing else is looked at. -/
theorem toOption_of_dash (h : words text.toList = ('-' :: w) :: ws) :
    (ofExpression text).toOption = ofWords (words text.toList) := by
  obtain ⟨heq, hw, -⟩ := Text.words_eq_cons h
  have hdash : dash (skipBlanks text.toList) = (true, w ++ behindWord text.toList) := by
    rw [skipBlanks_eq hline, heq]
    rfl
  have hword := word_append (fun c hc => hw c (List.mem_cons_of_mem _ hc))
    (Text.head_behindWord text.toList)
  rw [toOption_ofExpression hdash hword, h]
  cases w with
  | nil => rfl
  | cons c cs =>
    rw [if_neg (List.cons_ne_nil c cs), ofWords_of_dash (List.cons_ne_nil c cs)]
    rfl

theorem toOption_of_not_dash (h : words text.toList = w :: ws) (hdash : w.head? ≠ some '-') :
    (ofExpression text).toOption = some (String.ofList w,
      direction false (word (skipBlanks (behindWord text.toList))).1) := by
  obtain ⟨heq, hw, -⟩ := Text.words_eq_cons h
  have hne : w ≠ [] := Text.ne_nil_of_mem_words (h ▸ List.mem_cons_self)
  have hskip : dash (skipBlanks text.toList) = (false, w ++ behindWord text.toList) := by
    rw [skipBlanks_eq hline, heq]
    obtain ⟨c, cs, rfl⟩ := List.exists_cons_of_ne_nil hne
    have hc : c ≠ '-' := fun hc => hdash (congrArg some hc)
    simp [dash, hc]
  rw [toOption_ofExpression hskip (word_append hw (Text.head_behindWord text.toList)), if_neg hne]

end

/-- The direction is that of the words, unless the direction word is missed and would
    change the order. -/
theorem direction_word_eq_iff (cs : List Char) :
    direction false (word (skipBlanks cs)).1 = directionOfWords (words cs) ↔
      ∀ w ws, words cs = w :: ws → Text.lowerCase (String.ofList w) ≠ "asc" → StartsInLine cs := by
  rw [word_skipBlanks]
  cases hwords : words cs with
  | nil =>
    refine iff_of_true ?_ nofun
    split <;> rfl
  | cons w ws =>
    have hne : w.isEmpty = false := by
      have hmem : w ∈ words cs := hwords ▸ List.mem_cons_self
      simpa using Text.ne_nil_of_mem_words hmem
    by_cases hline : StartsInLine cs
    · refine iff_of_true ?_ fun _ _ _ _ => hline
      simp [hline, direction, directionOfWords, hne]
    · rw [if_neg hline]
      have hmissed : direction false [] = .ascending := rfl
      rw [hmissed, directionOfWords]
      by_cases hasc : Text.lowerCase (String.ofList w) = "asc"
      · rw [if_pos hasc]
        refine iff_of_true rfl fun w' ws' heq hne => ?_
        rw [(List.cons.inj heq).1] at hasc
        exact absurd hasc hne
      · rw [if_neg hasc]
        exact iff_of_false nofun fun h => hline (h w ws rfl hasc)

/-- **A sort text is read word by word** iff it is laid out well. -/
theorem ofExpression_eq_ofWords_iff (text : String) :
    (ofExpression text).toOption = ofWords (words text.toList) ↔ IsLaidOut text.toList := by
  by_cases hline : StartsInLine text.toList
  · cases hwords : words text.toList with
    | nil =>
      refine iff_of_true (toOption_of_words_eq_nil hline hwords) (isLaidOut_of_dash hline ?_)
      intro w ws heq
      rw [hwords] at heq
      cases heq
    | cons w ws =>
      by_cases hdash : w.head? = some '-'
      · obtain ⟨column, rfl⟩ := List.head?_eq_some_iff.1 hdash
        rw [← hwords]
        refine iff_of_true (toOption_of_dash hline hwords) (isLaidOut_of_dash hline ?_)
        intro w' ws' heq
        rw [hwords] at heq
        rw [← (List.cons.inj heq).1, List.head?_cons]
      · obtain ⟨-, -, hbehind⟩ := Text.words_eq_cons hwords
        rw [isLaidOut_iff_of_not_dash hline hwords hdash, toOption_of_not_dash hline hwords hdash,
          ofWords_of_not_dash hdash, Option.some_inj, Prod.mk.injEq, and_iff_right rfl, ← hbehind]
        exact direction_word_eq_iff (behindWord text.toList)
  · rw [toOption_of_blank (head_skipBlanks hline), isLaidOut_iff_of_not_startsInLine hline]
    exact eq_comm

/-- Behind another blank than a line blank the direction is missed. -/
example : (ofExpression "name\u00a0desc").toOption = some ("name", .ascending) ∧
    ofWords (words "name\u00a0desc".toList) = some ("name", .descending) := by decide

end QuerySql.SortOrder
