/-
  Quoted text, trimmed and replaced.

  `halveQuotes` takes back that quotes are doubled.  A text may be changed before
  or after its quotes are doubled:
  * `trimQuotes_quoted`: trimming the quotes of a string literal leaves the
    doubled form of the text that has itself been trimmed, so the quotes that
    stay are doubled still;
  * `replaceAll_quoted`: replacing a part without quotes leaves the delimiters
    and the doubled quotes as they are.
-/
import QuerySql.Text.Basic
import QuerySql.Proofs.Text.Replacement
import Mathlib.Data.List.Basic
import Mathlib.Data.List.TakeWhile

namespace QuerySql.Text

theorem doubleQuotes_of_notMem {s : List Char} (h : '\'' ∉ s) : doubleQuotes s = s := by
  induction s with
  | nil => rfl
  | cons c s ih =>
    obtain ⟨hc, hs⟩ := not_or.1 (mt List.mem_cons.2 h)
    simp [doubleQuotes, Ne.symm hc, ih hs]

/-! ## Reading back -/

/-- Takes one of any two quotes in a row. -/
def halveQuotes : List Char → List Char
  | [] => []
  | '\'' :: '\'' :: s => '\'' :: halveQuotes s
  | c :: s => c :: halveQuotes s

@[simp] theorem halveQuotes_doubleQuotes (s : List Char) : halveQuotes (doubleQuotes s) = s := by
  induction s with
  | nil => rfl
  | cons c s ih => by_cases h : c = '\'' <;> simp [doubleQuotes, halveQuotes, h, ih]

theorem quoted_inj {s t : String} : quoted s = quoted t ↔ s = t := by
  refine ⟨fun h => ?_, congrArg quoted⟩
  rw [← String.toList_inj, toList_quoted, toList_quoted] at h
  have hinside := congrArg halveQuotes (List.append_cancel_right (List.cons.inj h).2)
  rwa [halveQuotes_doubleQuotes, halveQuotes_doubleQuotes, String.toList_inj] at hinside

/-! ## Trimming -/

/-- The text without the runs of quotes at its two ends. -/
def trimChars (s : List Char) : List Char :=
  ((s.dropWhile (· == '\'')).reverse.dropWhile (· == '\'')).reverse

theorem trimQuotes_eq (text : String) :
    trimQuotes text = String.ofList (trimChars text.toList) := rfl

theorem dropWhile_doubleQuotes (s : List Char) :
    (doubleQuotes s).dropWhile (· == '\'') = doubleQuotes (s.dropWhile (· == '\'')) := by
  induction s with
  | nil => rfl
  | cons c s ih => by_cases h : c = '\'' <;> simp [doubleQuotes, h, ih]

theorem reverse_doubleQuotes (s : List Char) :
    (doubleQuotes s).reverse = doubleQuotes s.reverse := by
  induction s with
  | nil => rfl
  | cons c s ih => by_cases h : c = '\'' <;> simp [doubleQuotes, doubleQuotes_append, h, ih]

theorem trimChars_doubleQuotes (s : List Char) :
    trimChars (doubleQuotes s) = doubleQuotes (trimChars s) := by
  simp only [trimChars, dropWhile_doubleQuotes, reverse_doubleQuotes]

/-- Quotes at the two ends are trimmed with the others. -/
theorem trimChars_delimited (s : List Char) : trimChars ('\'' :: (s ++ ['\''])) = trimChars s := by
  simp only [trimChars, List.dropWhile_cons, beq_self_eq_true, if_true, List.dropWhile_append]
  split
  · next h => simp [List.isEmpty_iff.1 h]
  · simp

/-- A text is trimmed to itself iff no quote stands at either of its ends. -/
theorem trimChars_eq_self_iff {s : List Char} :
    trimChars s = s ↔ s.head? ≠ some '\'' ∧ s.getLast? ≠ some '\'' := by
  have hfront : ∀ t : List Char, t.dropWhile (· == '\'') = t ↔ t.head? ≠ some '\'' := by
    intro t
    rw [List.dropWhile_eq_self_iff]
    cases t <;> simp
  constructor
  · intro h
    -- what is left is part of the text without the quotes in front, so this is all of it
    have hsub : s.Sublist (s.dropWhile (· == '\'')) := by
      have hreverse := (List.dropWhile_sublist (· == '\'') (l := (s.dropWhile (· == '\'')).reverse)).reverse
      rwa [List.reverse_reverse, ← trimChars, h] at hreverse
    have hkept : s.dropWhile (· == '\'') = s := (List.dropWhile_sublist _).antisymm hsub
    rw [trimChars, hkept, List.reverse_eq_iff, hfront, List.head?_reverse] at h
    exact ⟨(hfront s).1 hkept, h⟩
  · rintro ⟨hhead, hlast⟩
    rw [← List.head?_reverse] at hlast
    rw [trimChars, (hfront s).2 hhead, (hfront s.reverse).2 hlast, List.reverse_reverse]

theorem trimChars_of_notMem {s : List Char} (h : '\'' ∉ s) : trimChars s = s :=
  trimChars_eq_self_iff.2
    ⟨fun hhead => h (List.mem_of_mem_head? hhead), fun hlast => h (List.mem_of_mem_getLast? hlast)⟩

/-- **The trimmed form of a string literal.** -/
theorem trimQuotes_quoted (s : List Char) :
    (trimQuotes (quoted (String.ofList s))).toList = doubleQuotes (trimChars s) := by
  rw [trimQuotes_eq, String.toList_ofList, toList_quoted, String.toList_ofList, trimChars_delimited,
    trimChars_doubleQuotes]

/-! ## Replacement -/

theorem replaceFrom_of_notMem {old s : List Char} {o : Char} (ho : o ∈ old.head?) (hs : o ∉ s)
    (new : List Char) : replaceFrom old new 0 s = s :=
  replaceFrom_of_not_infix fun h => hs (h.subset (List.mem_of_mem_head? ho))

section
variable {old : List Char} (hold : '\'' ∉ old)
include hold

/-- A part without quotes that stands at the front of doubled text stands at the
    front of the text. -/
theorem prefix_of_prefix_doubleQuotes {s t : List Char}
    (h : old <+: doubleQuotes s ++ '\'' :: t) : old <+: s := by
  induction old generalizing s with
  | nil => exact List.nil_prefix
  | cons o old ih =>
    obtain ⟨ho, hold⟩ := not_or.1 (mt List.mem_cons.2 hold)
    cases s with
    | nil => exact absurd (List.cons_prefix_cons.1 h).1 (Ne.symm ho)
    | cons c s =>
      by_cases hc : c = '\''
      · simp only [doubleQuotes, hc, if_true, List.cons_append] at h
        exact absurd (List.cons_prefix_cons.1 h).1 (Ne.symm ho)
      · simp only [doubleQuotes, hc, if_false, List.cons_append] at h
        obtain ⟨rfl, htail⟩ := List.cons_prefix_cons.1 h
        exact List.cons_prefix_cons.2 ⟨rfl, ih hold htail⟩

theorem replaceFrom_quote (hne : old ≠ []) (new t : List Char) :
    replaceFrom old new 0 ('\'' :: t) = '\'' :: replaceFrom old new 0 t := by
  refine replaceFrom_cons old new fun h => ?_
  obtain ⟨o, old, rfl⟩ := List.exists_cons_of_ne_nil hne
  have := (List.cons_prefix_cons.1 (List.isPrefixOf_iff_prefix.1 h)).1
  exact hold (by simp [this])

/-- Text may be replaced before its quotes are doubled. -/
theorem replaceFrom_doubleQuotes {new : List Char} (hne : old ≠ []) (hnew : '\'' ∉ new)
    (s : List Char) : replaceFrom old new 0 (doubleQuotes s ++ ['\'']) =
      doubleQuotes (replaceFrom old new 0 s) ++ ['\''] := by
  -- an occurrence is passed over as a whole, so the induction is on the length
  induction hn : s.length using Nat.strongRecOn generalizing s with
  | ind n ih =>
    cases s with
    | nil => simpa [doubleQuotes, replaceFrom] using replaceFrom_quote hold hne new []
    | cons c s =>
      by_cases hp : old <+: c :: s
      · obtain ⟨t, ht⟩ := hp
        obtain ⟨o, old, rfl⟩ := List.exists_cons_of_ne_nil hne
        have hlen : t.length < n := by
          have := congrArg List.length ht
          simp at this hn; omega
        rw [← ht, doubleQuotes_append, doubleQuotes_of_notMem hold, List.append_assoc,
          replaceFrom_append, ih _ hlen t rfl, replaceFrom_append, doubleQuotes_append,
          doubleQuotes_of_notMem hnew, List.append_assoc]
      · have hlen : s.length < n := by simp at hn; omega
        rw [replaceFrom_cons old new (mt List.isPrefixOf_iff_prefix.1 hp)]
        by_cases hc : c = '\''
        · subst hc
          simp only [doubleQuotes, if_true, List.cons_append]
          rw [replaceFrom_quote hold hne, replaceFrom_quote hold hne, ih _ hlen s rfl]
        · have hnot : ¬ old <+: c :: (doubleQuotes s ++ ['\'']) := by
            intro h
            exact hp (prefix_of_prefix_doubleQuotes hold (by simpa [doubleQuotes, hc] using h))
          simp only [doubleQuotes, hc, if_false, List.cons_append]
          rw [replaceFrom_cons old new (mt List.isPrefixOf_iff_prefix.1 hnot), ih _ hlen s rfl]

end

/-- **Replacement inside a string literal.** -/
theorem replaceAll_quoted {old new : String} (hne : old.toList ≠ []) (hold : '\'' ∉ old.toList)
    (hnew : '\'' ∉ new.toList) (s : List Char) : replaceAll old new (quoted (String.ofList s)) =
      quoted (String.ofList (replaceFrom old.toList new.toList 0 s)) := by
  rw [← String.toList_inj, replaceAll, String.toList_ofList, toList_quoted, toList_quoted,
    replaceFrom_quote hold hne, String.toList_ofList, String.toList_ofList,
    replaceFrom_doubleQuotes hold hne hnew]

end QuerySql.Text
