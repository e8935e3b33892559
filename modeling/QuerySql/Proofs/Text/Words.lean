/-
  The words of a text.

  A word is a run of characters that are not blank, as long as possible
  (`Text.words`).  A text with words consists of blanks, its first word and what
  stands behind it (`words_eq_cons`); this is empty or starts with a blank.
-/
import QuerySql.Text.Basic
import Mathlib.Data.List.TakeWhile

namespace QuerySql.Text

/-- The words of a text, with blanks of any kind between them. -/
def words (cs : List Char) : List (List Char) := (cs.splitOnP isBlank).filter fun w => !w.isEmpty

/-- A word: there are characters, and none of them is blank. -/
structure IsWord (w : List Char) : Prop where
  ne_nil : w ≠ []
  isBlank_eq_false : ∀ c ∈ w, isBlank c = false

theorem isWord_iff {w : List Char} :
    IsWord w ↔ (!w.isEmpty && w.all fun c => !isBlank c) = true := by
  simp only [Bool.and_eq_true, List.all_eq_true, Bool.not_eq_true', List.isEmpty_eq_false_iff]
  exact ⟨fun h => ⟨h.1, h.2⟩, fun h => ⟨h.1, h.2⟩⟩

instance (w : List Char) : Decidable (IsWord w) := decidable_of_iff _ isWord_iff.symm

/-- What stands behind the first word. -/
def behindWord (cs : List Char) : List Char :=
  (cs.dropWhile isBlank).dropWhile fun c => !isBlank c

section

variable {cs w rest : List Char} {ws : List (List Char)}

theorem ne_nil_of_mem_words (h : w ∈ words cs) : w ≠ [] := by
  have hfilter := (List.mem_filter.1 h).2
  rintro rfl
  cases hfilter

theorem words_nil : words [] = [] := rfl

theorem words_blank_cons {c : Char} (h : isBlank c = true) (cs : List Char) :
    words (c :: cs) = words cs := by
  rw [words, List.splitOnP_cons_eq_if_modifyHead, if_pos h]
  rfl

theorem words_dropWhile (cs : List Char) : words (cs.dropWhile isBlank) = words cs := by
  induction cs with
  | nil => rfl
  | cons c cs ih =>
    by_cases h : isBlank c = true
    · rw [List.dropWhile_cons_of_pos h, words_blank_cons h, ih]
    · rw [List.dropWhile_cons_of_neg h]

/-- A word is read before what stands behind it. -/
theorem words_append (hne : w ≠ []) (hw : ∀ c ∈ w, isBlank c = false)
    (hrest : ∀ c ∈ rest.head?, isBlank c = true) : words (w ++ rest) = w :: words rest := by
  have hkept (us : List (List Char)) : (w :: us).filter (fun v => !v.isEmpty) =
      w :: us.filter fun v => !v.isEmpty := List.filter_cons_of_pos (by simpa using hne)
  cases rest with
  | nil =>
    rw [List.append_nil, words, List.splitOnP_eq_singleton hw, hkept]
    rfl
  | cons c rest =>
    have hc : isBlank c = true := hrest c rfl
    rw [words_blank_cons hc, words, List.splitOnP_append_cons_of_forall_mem hw c hc, hkept]
    rfl

theorem head_behindWord (cs : List Char) : ∀ c ∈ (behindWord cs).head?, isBlank c = true := by
  intro c hc
  have h := List.head?_dropWhile_not (fun c => !isBlank c) (cs.dropWhile isBlank)
  rw [behindWord] at hc
  rw [Option.mem_def.1 hc] at h
  simpa using h

theorem words_of_ne_nil (h : cs.dropWhile isBlank ≠ []) :
    words cs = ((cs.dropWhile isBlank).takeWhile fun c => !isBlank c) :: words (behindWord cs) := by
  obtain ⟨c, rest, hrest⟩ := List.exists_cons_of_ne_nil h
  have hc : isBlank c = false := by
    have hhead := List.head_dropWhile_not isBlank h
    simpa only [hrest, List.head_cons] using hhead
  have hne : ((cs.dropWhile isBlank).takeWhile fun c => !isBlank c) ≠ [] := by
    rw [hrest, List.takeWhile_cons_of_pos (by simp [hc])]
    exact List.cons_ne_nil _ _
  have hword := words_append hne (fun c hc => by simpa using List.mem_takeWhile_imp hc)
    (head_behindWord cs)
  rw [behindWord, List.takeWhile_append_dropWhile, words_dropWhile] at hword
  exact hword

/-- A text without words consists of blanks. -/
theorem words_eq_nil_iff : words cs = [] ↔ cs.dropWhile isBlank = [] := by
  constructor
  · intro h
    by_contra hne
    rw [words_of_ne_nil hne] at h
    cases h
  · intro h
    rw [← words_dropWhile, h, words_nil]

/-- **A text with words** has its first word behind the blanks, and the other words
    behind that. -/
theorem words_eq_cons (h : words cs = w :: ws) :
    cs.dropWhile isBlank = w ++ behindWord cs ∧ (∀ c ∈ w, isBlank c = false) ∧
      words (behindWord cs) = ws := by
  have hne : cs.dropWhile isBlank ≠ [] := by
    intro hnil
    rw [words_eq_nil_iff.2 hnil] at h
    cases h
  rw [words_of_ne_nil hne] at h
  obtain ⟨rfl, rfl⟩ := List.cons.inj h
  refine ⟨List.takeWhile_append_dropWhile.symm, fun c hc => ?_, rfl⟩
  simpa using List.mem_takeWhile_imp hc

end

end QuerySql.Text
