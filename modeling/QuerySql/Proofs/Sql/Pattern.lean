/-
  Patterns of LIKE.

  A pattern without an ESCAPE clause is a list of `Element`s (`Pattern.read?`): `%`
  stands for any text, `_` for any one character, a set between brackets for one of
  its characters, and every other character, a backslash too, for itself.  Which
  characters a set has is left open: `member` decides it.

  * `Pattern.Matches` says that a text consists of parts that the elements stand
    for, and `Like` that it matches a written pattern;
  * `Pattern.count_le` and `Pattern.exists_matches` tell two patterns apart: a text
    that matches holds every character at least as often as the pattern has it as
    an element, and without sets and `_` some text holds each just as often.
-/
import Mathlib.Data.List.Count

namespace QuerySql.Sql

/-- A part of a pattern. -/
inductive Element where
  | anyText
  | anyChar
  /-- one of the characters of the set that is written like this between its brackets -/
  | oneOf (set : List Char)
  /-- a character that stands for itself -/
  | char (c : Char)
deriving DecidableEq, Repr

/-- A pattern that has been read. -/
abbrev Pattern := List Element

namespace Pattern

/-- Reads a pattern.  What has been read of a set is kept while it is open; a set that
    is not closed is no pattern. -/
def read? : Option (List Char) → List Char → Option Pattern
  | none, [] => some []
  | some _, [] => none
  | some set, c :: cs =>
    if c = ']' then (read? none cs).map (.oneOf set :: ·) else read? (some (set ++ [c])) cs
  | none, c :: cs =>
    if c = '%' then (read? none cs).map (.anyText :: ·)
    else if c = '_' then (read? none cs).map (.anyChar :: ·)
    else if c = '[' then read? (some []) cs
    else (read? none cs).map (.char c :: ·)

theorem read?_percent (cs : List Char) :
    read? none ('%' :: cs) = (read? none cs).map (.anyText :: ·) := rfl

theorem read?_char {c : Char} (hpercent : c ≠ '%') (hone : c ≠ '_') (hset : c ≠ '[')
    (cs : List Char) : read? none (c :: cs) = (read? none cs).map (.char c :: ·) := by
  simp [read?, hpercent, hone, hset]

end Pattern

/-! ## Matching -/

section

variable (member : List Char → Char → Prop)

/-- The element stands for the text. -/
def Element.Covers : Element → List Char → Prop
  | anyText, _ => True
  | anyChar, text => ∃ c, text = [c]
  | oneOf set, text => ∃ c, text = [c] ∧ member set c
  | char c, text => text = [c]

/-- The text consists of parts that the elements stand for, one after another. -/
def Pattern.Matches : Pattern → List Char → Prop
  | [], text => text = []
  | e :: p, text => ∃ u v, text = u ++ v ∧ e.Covers member u ∧ Matches p v

/-- The test LIKE of a text, with a pattern as it is written. -/
def Like (text written : List Char) : Prop :=
  ∃ p, Pattern.read? none written = some p ∧ p.Matches member text

end

namespace Pattern

variable {member : List Char → Char → Prop} {p : Pattern} {text : List Char}

/-- A text that matches holds a character as often as the pattern has it, or more. -/
theorem count_le (h : p.Matches member text) (c : Char) :
    p.count (.char c) ≤ text.count c := by
  induction p generalizing text with
  | nil => simp
  | cons e p ih =>
    obtain ⟨u, v, rfl, hu, hv⟩ := h
    have hrest := ih hv
    by_cases he : e = .char c
    · subst he
      obtain rfl : u = [c] := hu
      simpa using hrest
    · rw [List.count_cons_of_ne he, List.count_append]
      exact Nat.le_trans hrest (Nat.le_add_left _ _)

/-- The element is a character or stands for any text. -/
def IsPlain (e : Element) : Prop := e = .anyText ∨ ∃ c, e = .char c

/-- Without sets and `_` some text that matches holds each character just as often as
    the pattern has it. -/
theorem exists_matches (member : List Char → Char → Prop) (h : ∀ e ∈ p, IsPlain e) :
    ∃ text, p.Matches member text ∧ ∀ c, text.count c = p.count (.char c) := by
  induction p with
  | nil => exact ⟨[], rfl, fun _ => rfl⟩
  | cons e p ih =>
    obtain ⟨he, hp⟩ := List.forall_mem_cons.1 h
    obtain ⟨text, hmatches, hcount⟩ := ih hp
    obtain rfl | ⟨d, rfl⟩ := he
    · refine ⟨text, ⟨[], text, rfl, trivial, hmatches⟩, fun c => ?_⟩
      have hne : Element.anyText ≠ .char c := nofun
      rw [List.count_cons_of_ne hne, hcount]
    · refine ⟨d :: text, ⟨[d], text, rfl, rfl, hmatches⟩, fun c => ?_⟩
      by_cases hd : d = c
      · simp [hd, hcount]
      · have hne : Element.char d ≠ .char c := fun h => hd (Element.char.inj h)
        rw [List.count_cons_of_ne hd, List.count_cons_of_ne hne, hcount]

end Pattern

end QuerySql.Sql
