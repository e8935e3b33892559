/-
  Sorts that are written in two ways.

  A sort is written as a text, which is read when a statement is compiled, or as an
  object, which is read at once.  All that a statement has of a sort is what follows
  ORDER BY.  So nothing changes in the outcome of raw criteria if one sort is put in the
  place of another that orders alike, whatever the other entries are
  (`Criteria.SortsAlike.selectAfter_eq`, `SortOrder.SortsBy.agree`).

  A word in a text sorts by one column (`SortOrder.sortsBy_text`), and so does an entry of
  an object (`SortOrder.sortsBy_entry`): the column is the word or the key without a dash,
  and a dash asks for the descending direction, as the word `desc` does and, in an object,
  a number that is not positive.  This gives the texts and objects that agree
  (`SortOrder.texts_agree_with_objects`).
-/
import QuerySql.Proofs.Criteria.Order
import QuerySql.Proofs.SortOrder.Words
import QuerySql.Proofs.Value.Number

namespace QuerySql

open Text (IsWord isBlank isLineBlank)

/-! ## Criteria that sort alike -/

namespace Criteria

/-- The SELECT statement on a table for raw criteria. -/
def selectOfValue (settings : Settings) (table : String) (v : Value) : Compile String := do
  let c ← (ofValue v : Except Error _)
  c.selectText settings table

/-- The SELECT statement for criteria and the entries that come after them. -/
def selectAfter (settings : Settings) (table : String) (entries : List (String × Value))
    (c : Criteria) : Compile String := do
  let c ← (entries.foldlM readEntry c : Except Error _)
  c.selectText settings table

/-- The criteria differ in their sorts at most, and these put rows into the same order. -/
def SortsAlike (c c' : Criteria) : Prop :=
  ∃ sort, c' = { c with sort } ∧ ∀ (settings : Settings) (d : Criteria),
    orderText settings { d with sort } = orderText settings { d with sort := c.sort }

variable {settings : Settings} {table : String} {c c' : Criteria}

/-- **Criteria that sort alike have the same statement**, or the same error. -/
theorem SortsAlike.selectText_eq (h : SortsAlike c c') :
    c'.selectText settings table = c.selectText settings table := by
  obtain ⟨sort, rfl, horder⟩ := h
  have hself : orderText settings { c with sort } = c.orderText settings := horder settings c
  unfold selectText
  rw [hself]
  rfl

/-- A change keeps criteria alike. -/
theorem SortsAlike.apply (h : SortsAlike c c') (change : Change) :
    SortsAlike (change.apply c) (change.apply c') := by
  obtain ⟨sort, rfl, horder⟩ := h
  cases change with
  | sort s => exact ⟨s, rfl, fun _ _ => rfl⟩
  | _ => exact ⟨sort, rfl, horder⟩

/-- Criteria that are alike lead to the same statement, or the same error, after the same
    entries. -/
theorem SortsAlike.selectAfter_eq (h : SortsAlike c c') (entries : List (String × Value)) :
    selectAfter settings table entries c' = selectAfter settings table entries c := by
  induction entries generalizing c c' with
  | nil => exact h.selectText_eq
  | cons e entries ih =>
    simp only [selectAfter, List.foldlM_cons, readEntry_eq]
    cases Change.ofEntry e with
    | error error => rfl
    | ok change? =>
      cases change? with
      | none => exact ih h
      | some change => exact ih (h.apply change)

theorem selectAfter_cons {e : String × Value} (h : readEntry c e = .ok c')
    (entries : List (String × Value)) :
    selectAfter settings table (e :: entries) c = selectAfter settings table entries c' := by
  rw [selectAfter, List.foldlM_cons, h]
  rfl

/-- Entries that come first are read first. -/
theorem selectAfter_append (entries rest : List (String × Value)) (c : Criteria) :
    selectAfter settings table (entries ++ rest) c =
      (liftM (entries.foldlM readEntry c) : Compile _) >>= selectAfter settings table rest := by
  unfold selectAfter
  rw [List.foldlM_append]
  cases entries.foldlM readEntry c <;> rfl

theorem selectOfValue_object (entries : List (String × Value)) :
    selectOfValue settings table (.object entries) = selectAfter settings table entries {} := rfl

end Criteria

/-! ## Sorts that agree -/

namespace SortOrder

/-- The value is a sort by one column: this is what criteria with the sort are ordered by. -/
def SortsBy (v : Value) (t : String × Direction) : Prop :=
  ∃ sort, ofValue v = .ok sort ∧ ∀ (settings : Settings) (c : Criteria),
    Criteria.orderText settings { c with sort } = .ok (" ORDER BY " ++ item t)

/-- Both values are sorts by one column.  Raw criteria with either of them, among the same
    other entries, lead to the same statement with the same reports, or to the same error. -/
structure AgreeOn (v w : Value) (t : String × Direction) : Prop where
  left : SortsBy v t
  right : SortsBy w t
  outcome_eq : ∀ (settings : Settings) (table : String) (before after : List (String × Value))
    (r : Recorder),
    (Criteria.selectOfValue settings table (.object (before ++ ("sort", v) :: after))).outcome r =
      (Criteria.selectOfValue settings table (.object (before ++ ("sort", w) :: after))).outcome r

/-- **Sorts by the same column agree.** -/
theorem SortsBy.agree {v w : Value} {t : String × Direction} (hv : SortsBy v t)
    (hw : SortsBy w t) : AgreeOn v w t := by
  refine ⟨hv, hw, fun settings table before after r => ?_⟩
  obtain ⟨sort, hv, horder⟩ := hv
  obtain ⟨sort', hw, horder'⟩ := hw
  have hafter : ∀ c : Criteria, Criteria.selectAfter settings table (("sort", v) :: after) c =
      Criteria.selectAfter settings table (("sort", w) :: after) c := by
    intro c
    have halike : Criteria.SortsAlike { c with sort := sort' } { c with sort } :=
      ⟨sort, rfl, fun settings d => (horder settings d).trans (horder' settings d).symm⟩
    have hread : Criteria.readEntry c ("sort", v) = .ok { c with sort } := by
      rw [Criteria.readEntry, hv]; rfl
    have hread' : Criteria.readEntry c ("sort", w) = .ok { c with sort := sort' } := by
      rw [Criteria.readEntry, hw]; rfl
    rw [Criteria.selectAfter_cons hread, Criteria.selectAfter_cons hread', halike.selectAfter_eq]
  rw [Criteria.selectOfValue_object, Criteria.selectOfValue_object, Criteria.selectAfter_append,
    Criteria.selectAfter_append]
  congr 2
  exact funext hafter

theorem sortsBy_of_sqlText {v : Value} (sort : SortOrder) {t : String × Direction}
    (hv : ofValue v = .ok (some sort)) (hsort : sort.isEmpty = false)
    (htext : sort.sqlText = .ok (item t)) : SortsBy v t := by
  refine ⟨some sort, hv, fun settings c => ?_⟩
  have hkept : (some sort).filter (fun s => !s.isEmpty) = some sort :=
    Option.filter_some_pos (by rw [hsort]; rfl)
  simp only [Criteria.orderText, hkept, htext]
  rfl

/-! ### Words -/

theorem undash_eq (column : String) :
    undash column = (String.ofList (dash column.toList).2, (dash column.toList).1) := by
  unfold undash dash
  split <;> simp [*]

theorem undash_dash (m : String) : undash ("-" ++ m) = (m, true) := by
  simp [undash_eq, dash]

theorem undash_of_head? {m : String} (h : m.toList.head? ≠ some '-') : undash m = (m, false) := by
  unfold undash
  split
  · next heq => simp [heq] at h
  · rfl

/-- The dash is looked for in the word only. -/
theorem dash_append {w : List Char} (hne : w ≠ []) (rest : List Char) :
    dash (w ++ rest) = ((dash w).1, (dash w).2 ++ rest) := by
  obtain ⟨c, cs, rfl⟩ := List.exists_cons_of_ne_nil hne
  by_cases hc : c = '-'
  · rw [hc]
    rfl
  · simp [dash, hc]

theorem isWord_dash {w : List Char} (hw : IsWord w) (hne : w ≠ ['-']) : IsWord (dash w).2 := by
  unfold dash
  split
  · next rest =>
    exact ⟨fun hnil => hne (congrArg _ hnil), (List.forall_mem_cons.1 hw.isBlank_eq_false).2⟩
  · exact hw

theorem skipBlanks_word {w : List Char} (hw : IsWord w) (rest : List Char) :
    skipBlanks (w ++ rest) = w ++ rest := by
  obtain ⟨c, cs, rfl⟩ := List.exists_cons_of_ne_nil hw.ne_nil
  have hc : isBlank c = false := hw.isBlank_eq_false c List.mem_cons_self
  refine List.dropWhile_cons_of_neg fun hline => ?_
  rw [isBlank_of_isLineBlank hline] at hc
  cases hc

/-- **A text that starts with a word is read as the word without its dash**, and the
    direction that the dash and the word behind it ask for. -/
theorem ofExpression_word {n : String} {rest : List Char} (hn : IsWord n.toList) (hne : n ≠ "-")
    (hrest : ∀ c ∈ rest.head?, isBlank c = true) :
    ofExpression (n ++ String.ofList rest) =
      .ok ((undash n).1, direction (undash n).2 (word (skipBlanks rest)).1) := by
  have hcolumn : IsWord (dash n.toList).2 :=
    isWord_dash hn fun heq => hne (String.toList_inj.1 heq)
  have hdash : dash (skipBlanks (n ++ String.ofList rest).toList) =
      ((dash n.toList).1, (dash n.toList).2 ++ rest) := by
    rw [String.toList_append, String.toList_ofList, skipBlanks_word hn, dash_append hn.ne_nil]
  have hword := word_append hcolumn.isBlank_eq_false hrest
  have hread := toOption_ofExpression hdash hword
  rw [if_neg hcolumn.ne_nil] at hread
  rw [undash_eq]
  cases hresult : ofExpression (n ++ String.ofList rest) with
  | error e => rw [hresult] at hread; cases hread
  | ok t => rw [hresult] at hread; exact congrArg _ (Option.some.inj hread)

/-! ### Texts and objects -/

theorem sortsBy_text {n : String} (hn : IsWord n.toList) (hne : n ≠ "-") (rest : List Char)
    (hrest : ∀ c ∈ rest.head?, isBlank c = true) : SortsBy (.string (n ++ String.ofList rest))
      ((undash n).1, direction (undash n).2 (word (skipBlanks rest)).1) := by
  have hshows : ¬ Text.AllBlank (n ++ String.ofList rest) := by
    obtain ⟨c, cs, hcs⟩ := List.exists_cons_of_ne_nil hn.ne_nil
    intro hall
    have hblank := hall c (by simp [hcs])
    rw [hn.isBlank_eq_false c (hcs ▸ List.mem_cons_self)] at hblank
    cases hblank
  refine sortsBy_of_sqlText (.expression (n ++ String.ofList rest))
    (by rw [ofValue, if_neg hshows]) (decide_eq_false hshows) ?_
  rw [sqlText, ofExpression_word hn hne hrest]
  rfl

/-- An entry of an object sorts by its key without a dash. -/
theorem sortsBy_entry (key : String) {v : Value} (hnull : v ≠ .null)
    (hfalse : v ≠ .bool false) : SortsBy (.object [(key, v)]) ((undash key).1,
      if (undash key).2 || Direction.isDescending v then .descending else .ascending) := by
  exact sortsBy_of_sqlText _ (by rw [ofValue, columnsOfEntries.eq_4 _ _ _ hnull hfalse]) rfl rfl

/-! ### Words for directions -/

theorem toLower_of_isBlank {c : Char} (h : isBlank c = true) : c.toLower = c := by
  have hletter : ¬ ('A'.toNat ≤ c.toNat ∧ c.toNat ≤ 'Z'.toNat) := by
    simp [isBlank] at h ⊢
    omega
  exact dif_neg hletter

/-- A text is a word if it is one in lower case. -/
theorem isWord_of_lowerCase {w : String} (h : IsWord (Text.lowerCase w).toList) :
    IsWord w.toList := by
  obtain ⟨hne, hblank⟩ := h
  rw [Text.toList_lowerCase] at hne hblank
  refine ⟨fun hnil => hne (congrArg _ hnil), fun c hc => ?_⟩
  by_contra hc'
  have hcblank : isBlank c = true := by simpa using hc'
  have hlower := hblank _ (List.mem_map_of_mem hc)
  rw [toLower_of_isBlank hcblank, hcblank] at hlower
  cases hlower

/-- Behind a blank the next word is read. -/
theorem word_behind_space {w : List Char} (hw : IsWord w) :
    (word (skipBlanks (' ' :: w))).1 = w := by
  have hskip : skipBlanks (' ' :: w) = w ++ [] := by
    rw [← skipBlanks_word hw [], List.append_nil]
    rfl
  rw [hskip, word_append hw.isBlank_eq_false (by simp)]

section

variable {m : String} (hm : IsWord m.toList)
include hm

theorem sortsBy_dash : SortsBy (.string ("-" ++ m)) (m, .descending) := by
  have hword : IsWord ("-" ++ m).toList := by
    rw [String.toList_append]
    exact ⟨nofun, List.forall_mem_cons.2 ⟨rfl, hm.isBlank_eq_false⟩⟩
  have hne : "-" ++ m ≠ "-" := fun heq => hm.ne_nil (by simpa using congrArg String.toList heq)
  have hsorts := sortsBy_text hword hne [] (by simp)
  rwa [String.ofList_nil, String.append_empty, undash_dash] at hsorts

variable (hdash : m.toList.head? ≠ some '-')
include hdash

theorem ne_dash : m ≠ "-" := by
  rintro rfl
  exact hdash rfl

theorem sortsBy_word : SortsBy (.string m) (m, .ascending) := by
  have hsorts := sortsBy_text hm (ne_dash hm hdash) [] (by simp)
  rwa [String.ofList_nil, String.append_empty, undash_of_head? hdash] at hsorts

theorem sortsBy_words {w : String} (hw : IsWord (Text.lowerCase w).toList) :
    SortsBy (.string (m ++ " " ++ w))
      (m, if Text.lowerCase w = "asc" then .ascending else .descending) := by
  have hw := isWord_of_lowerCase hw
  have hsorts := sortsBy_text hm (ne_dash hm hdash) (' ' :: w.toList) (by simp; rfl)
  have htext : m ++ String.ofList (' ' :: w.toList) = m ++ " " ++ w := by
    simp [← String.toList_inj]
  rwa [htext, undash_of_head? hdash, word_behind_space hw, direction, if_neg Bool.false_ne_true,
    if_neg (by simpa using hw.ne_nil), String.ofList_toList] at hsorts

end

/-- The key of an object without a dash. -/
theorem sortsBy_key {m : String} (hdash : m.toList.head? ≠ some '-') {v : Value} (hnull : v ≠ .null)
    (hfalse : v ≠ .bool false) : SortsBy (.object [(m, v)])
      (m, if Direction.isDescending v then .descending else .ascending) := by
  have hsorts := sortsBy_entry m hnull hfalse
  rwa [undash_of_head? hdash, Bool.false_or] at hsorts

/-- A number asks for the descending direction iff it is not positive. -/
theorem isDescending_iff {k : Value} {q : ℚ} (hk : k.rational? = some q) :
    Direction.isDescending k = true ↔ q ≤ 0 := by
  cases k with
  | int n =>
    cases hk
    simp [Direction.isDescending]
  | float x =>
    rw [Value.rational?] at hk
    split_ifs at hk with hfinite
    cases hk
    exact Binary64.isAtMostZero_iff hfinite
  | _ => cases hk

/-- **Texts and objects that sort alike agree.**  A word but the single dash agrees with the
    object that has it as its key over one.  If a word has no dash at its start, then the word
    behind a dash agrees with the object that has this as its key over one, with those that
    have the word itself over a number that is not positive or over `desc` in any case, and
    with the word followed by `desc`.  The word alone agrees with itself followed by `asc`, and
    with the object that has it over `asc`, in any case. -/
theorem texts_agree_with_objects :
    (∀ n : String, IsWord n.toList → n ≠ "-" → AgreeOn (.string n) (.object [(n, .int 1)])
      ((undash n).1, if (undash n).2 then .descending else .ascending)) ∧
    ∀ m : String, IsWord m.toList → m.toList.head? ≠ some '-' →
      AgreeOn (.string ("-" ++ m)) (.object [("-" ++ m, .int 1)]) (m, .descending) ∧
      (∀ (k : Value) (q : ℚ), k.rational? = some q → q ≤ 0 →
        AgreeOn (.string ("-" ++ m)) (.object [(m, k)]) (m, .descending)) ∧
      (∀ w, Text.lowerCase w = "desc" →
        AgreeOn (.string ("-" ++ m)) (.string (m ++ " " ++ w)) (m, .descending) ∧
        AgreeOn (.string ("-" ++ m)) (.object [(m, .string w)]) (m, .descending)) ∧
      ∀ w, Text.lowerCase w = "asc" →
        AgreeOn (.string m) (.string (m ++ " " ++ w)) (m, .ascending) ∧
        AgreeOn (.string m) (.object [(m, .string w)]) (m, .ascending) := by
  constructor
  · intro n hn hne
    have htext := sortsBy_text hn hne [] (by simp)
    have hentry := sortsBy_entry n (v := .int 1) nofun nofun
    have hdirection : direction (undash n).2 (word (skipBlanks [])).1 =
        if (undash n).2 then .descending else .ascending := by
      cases (undash n).2 <;> rfl
    have hone : Direction.isDescending (.int 1) = false := rfl
    rw [String.ofList_nil, String.append_empty, hdirection] at htext
    rw [hone, Bool.or_false] at hentry
    exact htext.agree hentry
  · intro m hm hdash
    have hdescending := sortsBy_dash hm
    refine ⟨?_, fun k q hk hq => ?_, fun w hw => ?_, fun w hw => ?_⟩
    · have hentry := sortsBy_entry ("-" ++ m) (v := .int 1) nofun nofun
      rw [undash_dash, Bool.true_or, if_pos rfl] at hentry
      exact hdescending.agree hentry
    · have hkey := sortsBy_key hdash (v := k) (by rintro rfl; cases hk) (by rintro rfl; cases hk)
      rw [if_pos ((isDescending_iff hk).2 hq)] at hkey
      exact hdescending.agree hkey
    · have hwords := sortsBy_words hm hdash (w := w) (by rw [hw]; decide)
      have hkey := sortsBy_key hdash (v := .string w) nofun nofun
      rw [hw, if_neg (by decide)] at hwords
      rw [Direction.isDescending, hw, if_pos (by decide)] at hkey
      exact ⟨hdescending.agree hwords, hdescending.agree hkey⟩
    · have hword := sortsBy_word hm hdash
      have hwords := sortsBy_words hm hdash (w := w) (by rw [hw]; decide)
      have hkey := sortsBy_key hdash (v := .string w) nofun nofun
      rw [hw, if_pos rfl] at hwords
      rw [Direction.isDescending, hw, if_neg (by decide)] at hkey
      exact ⟨hword.agree hwords, hword.agree hkey⟩

/-- Sorts by the column `name`, and by the column of two dashes; 0xC004000000000000 is -2.5. -/
theorem texts_agree_with_objects_name :
    AgreeOn (.string "---") (.object [("---", .int 1)]) ("--", .descending) ∧
    AgreeOn (.string "-name") (.object [("-name", .int 1)]) ("name", .descending) ∧
    AgreeOn (.string "-name") (.object [("name", .float ⟨0xC004000000000000⟩)])
      ("name", .descending) ∧
    AgreeOn (.string "-name") (.string "name DeSc") ("name", .descending) ∧
    AgreeOn (.string "name") (.object [("name", .string "ASC")]) ("name", .ascending) ∧
    (Criteria.selectOfValue {} "t" (.object [("skip", .int 5), ("sort",
      .object [("name", .float ⟨0xC004000000000000⟩)])])).outcome {} =
        (.ok "SELECT * FROM [t] ORDER BY [name] DESC OFFSET 5 ROWS", {}) := by
  obtain ⟨hone, hnumber, hdesc, hasc⟩ := texts_agree_with_objects.2 "name" (by decide) (by decide)
  have hfloat := hnumber (.float ⟨0xC004000000000000⟩) _ rfl ((Binary64.isAtMostZero_iff rfl).1 rfl)
  refine ⟨texts_agree_with_objects.1 "---" (by decide) (by decide), hone, hfloat,
    (hdesc "DeSc" (by decide)).1, (hasc "ASC" (by decide)).2, ?_⟩
  exact (hfloat.outcome_eq {} "t" [("skip", .int 5)] [] {}).symm.trans (by decide +kernel)

end SortOrder

end QuerySql
