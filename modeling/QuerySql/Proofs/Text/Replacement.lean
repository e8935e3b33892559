/-
  Replacement, part by part.

  A replacement changes a text iff the part that it replaces occurs there
  (`replaceFrom_eq_self_iff`).  Where no occurrence can stand across the place at
  which two texts meet, each of them is replaced by itself
  (`replaceFrom_append_of_apart`), and so are texts with a separator between them
  (`replaceAll_intercalate`).
-/
import QuerySql.Text.Basic
import Mathlib.Data.List.Infix

namespace QuerySql.Text

section

variable {old new s t : List Char}

theorem replaceFrom_of_not_infix (h : ¬ old <:+: s) : replaceFrom old new 0 s = s := by
  induction s with
  | nil => rfl
  | cons c s ih =>
    have hfront : ¬ old <+: c :: s := fun hp => h hp.isInfix
    have hrest : ¬ old <:+: s := fun hi => h (List.infix_cons hi)
    rw [replaceFrom_cons old new (mt List.isPrefixOf_iff_prefix.1 hfront), ih hrest]

/-- A replacement whose first character is another one shows at the first
    occurrence, whatever follows the text. -/
theorem replaceFrom_append_ne {o n : Char} (hne : n ≠ o) (h : o :: old <:+: s) (u w : List Char) :
    replaceFrom (o :: old) (n :: new) 0 s ++ u ≠ s ++ w := by
  induction s with
  | nil => exact absurd (List.infix_nil.1 h) (List.cons_ne_nil _ _)
  | cons c s ih =>
    by_cases hp : o :: old <+: c :: s
    · obtain ⟨t, ht⟩ := hp
      rw [← ht, replaceFrom_append]
      simp [hne]
    · rw [replaceFrom_cons _ _ (mt List.isPrefixOf_iff_prefix.1 hp)]
      intro heq
      obtain h | h := List.infix_cons_iff.1 h
      · exact hp h
      · exact ih h (List.cons.inj heq).2

theorem replaceFrom_eq_self_iff {o n : Char} (hne : n ≠ o) :
    replaceFrom (o :: old) (n :: new) 0 s = s ↔ ¬ o :: old <:+: s := by
  constructor
  · intro h hinfix
    exact replaceFrom_append_ne hne hinfix [] [] (by rw [h])
  · exact replaceFrom_of_not_infix

/-- **Two texts are replaced apart** if an occurrence that starts in the first one
    ends there. -/
theorem replaceFrom_append_of_apart
    (h : ∀ u, u <:+ s → u ≠ [] → old <+: u ++ t → old <+: u) {skip : Nat} (hskip : skip ≤ s.length) :
    replaceFrom old new skip (s ++ t) = replaceFrom old new skip s ++ replaceFrom old new 0 t := by
  induction s generalizing skip with
  | nil =>
    obtain rfl : skip = 0 := Nat.le_zero.1 hskip
    rfl
  | cons c s ih =>
    have hs : ∀ u, u <:+ s → u ≠ [] → old <+: u ++ t → old <+: u := fun u hu =>
      h u (hu.trans (List.suffix_cons c s))
    cases skip with
    | succ skip => exact ih hs (Nat.le_of_succ_le_succ hskip)
    | zero =>
      by_cases hp : old <+: c :: s
      · have hlong : old <+: c :: (s ++ t) := hp.trans (List.prefix_append (c :: s) t)
        have hskip : old.length - 1 ≤ s.length := by
          have := hp.length_le
          simp at this
          omega
        rw [List.cons_append, replaceFrom, replaceFrom, if_pos (List.isPrefixOf_iff_prefix.2 hp),
          if_pos (List.isPrefixOf_iff_prefix.2 hlong), ih hs hskip, List.append_assoc]
      · have hlong : ¬ old <+: c :: (s ++ t) :=
          mt (h (c :: s) List.suffix_rfl (List.cons_ne_nil c s)) hp
        rw [List.cons_append, replaceFrom_cons _ _ (mt List.isPrefixOf_iff_prefix.1 hp),
          replaceFrom_cons _ _ (mt List.isPrefixOf_iff_prefix.1 hlong), ih hs (Nat.zero_le _),
          List.cons_append]

/-- What stands at the front of two texts stands in the first one or is all of it
    and more. -/
theorem prefix_append_cases (h : old <+: s ++ t) : old <+: s ∨ ∃ v, v <+: t ∧ old = s ++ v := by
  obtain h' | ⟨v, rfl⟩ := List.prefix_or_prefix_of_prefix h (List.prefix_append s t)
  · exact Or.inl h'
  · exact Or.inr ⟨v, (List.prefix_append_right_inj s).1 h, rfl⟩

/-- The second text starts with a character that does not occur in `old`. -/
theorem replaceFrom_append_of_head (h : ∀ c ∈ t.head?, c ∉ old) :
    replaceFrom old new 0 (s ++ t) = replaceFrom old new 0 s ++ replaceFrom old new 0 t := by
  refine replaceFrom_append_of_apart (fun u _ _ hp => ?_) (Nat.zero_le _)
  obtain hu | ⟨v, ⟨w, rfl⟩, rfl⟩ := prefix_append_cases hp
  · exact hu
  · cases v with
    | nil => rw [List.append_nil]
    | cons c v => exact absurd (by simp) (h c rfl)

/-- The first text ends with a character that does not occur in `old`. -/
theorem replaceFrom_append_of_getLast (h : ∀ c ∈ s.getLast?, c ∉ old) :
    replaceFrom old new 0 (s ++ t) = replaceFrom old new 0 s ++ replaceFrom old new 0 t := by
  refine replaceFrom_append_of_apart (fun u hu hne hp => ?_) (Nat.zero_le _)
  obtain hu' | ⟨v, -, rfl⟩ := prefix_append_cases hp
  · exact hu'
  · obtain ⟨w, rfl⟩ := hu
    have hlast : u.getLast hne ∈ (w ++ u).getLast? := by
      rw [List.getLast?_append_of_ne_nil w hne, List.getLast?_eq_getLast_of_ne_nil hne]
      rfl
    exact absurd (List.mem_append_left v (List.getLast_mem hne)) (h _ hlast)

end

@[simp] theorem toList_replaceAll (old new text : String) :
    (replaceAll old new text).toList = replaceFrom old.toList new.toList 0 text.toList :=
  String.toList_ofList

/-- **Texts with a separator between them are replaced one by one**, if the
    separator and each of the texts start with a character that does not occur in
    `old`, and `old` does not occur in the separator. -/
theorem replaceAll_intercalate (old new separator : String) (texts : List String)
    (hhead : ∀ c ∈ separator.toList.head?, c ∉ old.toList)
    (hseparator : ¬ old.toList <:+: separator.toList)
    (htexts : ∀ text ∈ texts, ∃ c ∈ text.toList.head?, c ∉ old.toList) :
    replaceAll old new (separator.intercalate texts) =
      separator.intercalate (texts.map (replaceAll old new)) := by
  induction texts with
  | nil => simp [← String.toList_inj, replaceFrom]
  | cons a texts ih =>
    cases texts with
    | nil => simp
    | cons b texts =>
      obtain ⟨-, hrest⟩ := List.forall_mem_cons.1 htexts
      have hstart : ∀ c ∈ (separator.intercalate (b :: texts)).toList.head?, c ∉ old.toList := by
        obtain ⟨c, hc, hnot⟩ := hrest b List.mem_cons_self
        obtain ⟨cs, hb⟩ := List.head?_eq_some_iff.1 hc
        cases texts <;> simp [String.intercalate_cons_cons, hb, hnot]
      have hjoined := ih hrest
      simp only [← String.toList_inj, List.map_cons, String.intercalate_cons_cons,
        String.toList_append, toList_replaceAll] at hjoined ⊢
      rw [List.append_assoc, replaceFrom_append_of_head, replaceFrom_append_of_head hstart,
        replaceFrom_of_not_infix hseparator, hjoined, List.append_assoc]
      intro c hc
      cases hs : separator.toList with
      | nil => rw [hs] at hc; exact hstart c hc
      | cons d ds => rw [hs] at hc hhead; exact hhead c hc

end QuerySql.Text
