/-
  T-SQL text as tokens.

  A text is read from left to right (`step`), with what has been read of the
  current token in a `Mode`.  `[` opens a name that ends at the next `]`.  A
  quote opens a string that ends at the first quote with no other quote behind
  it, and two quotes inside it stand for one.  Outside, the marks are tokens of
  their own, and a **word** is a run of other characters that is as long as
  possible; blanks only separate.  `tokens?` fails on a text that stops inside
  a name or a string.

  * `tokens?_append`: a text may be read in two parts, if the second part starts
    with a separator.  So texts that start with one can be written one behind the
    other (`Continues`), and texts can be joined by one that also ends between two
    tokens (`Separates`, `tokens?_intercalate`);
  * `IsInert` tokens neither end the statement nor start a comment.  Words have
    no neighbours that could be part of them, so a `--` outside of names and
    strings stands inside one word;
  * `redacted` drops the contents of a string.
-/
import QuerySql.Text.Basic
import Mathlib.Data.List.Forall2

namespace QuerySql.Sql

/-- What a text consists of. -/
inductive Token where
  /-- a name, as it stands between its brackets -/
  | name (text : List Char)
  /-- a string, every doubled quote of it as one quote -/
  | string (text : List Char)
  /-- a keyword, a number or any other run of characters -/
  | word (text : List Char)
  | mark (c : Char)
deriving DecidableEq, Repr

/-- Characters that are tokens of their own. -/
def isMark (c : Char) : Bool := "(),;=<>%".toList.contains c

/-- Characters that words consist of. -/
def isWordChar (c : Char) : Bool := c != '[' && c != '\'' && !Text.isBlank c && !isMark c

/-- Characters that end a word and a string: blanks and marks. -/
def isSeparator (c : Char) : Bool := Text.isBlank c || isMark c

/-! ## Reading -/

/-- The token that is being read, with the part of it that has been read. -/
inductive Mode where
  | between
  | word (read : List Char)
  | name (read : List Char)
  | string (read : List Char)
  /-- behind a quote that ends a string, unless another quote follows -/
  | closed (read : List Char)
deriving DecidableEq, Repr

/-- What a character does outside of names, strings and words. -/
def enter (c : Char) : List Token × Mode :=
  if c = '[' then ([], .name [])
  else if c = '\'' then ([], .string [])
  else if Text.isBlank c then ([], .between)
  else if isMark c then ([.mark c], .between)
  else ([], .word [c])

/-- The tokens that a character completes, and what is read after it. -/
def step : Mode → Char → List Token × Mode
  | .between, c => enter c
  | .word w, c =>
    if isWordChar c then ([], .word (w ++ [c])) else (.word w :: (enter c).1, (enter c).2)
  | .name n, c => if c = ']' then ([.name n], .between) else ([], .name (n ++ [c]))
  | .string s, c => if c = '\'' then ([], .closed s) else ([], .string (s ++ [c]))
  | .closed s, c =>
    if c = '\'' then ([], .string (s ++ ['\''])) else (.string s :: (enter c).1, (enter c).2)

/-- The tokens that the characters complete, and what is read after them. -/
def scan : Mode → List Char → List Token × Mode
  | m, [] => ([], m)
  | m, c :: cs => ((step m c).1 ++ (scan (step m c).2 cs).1, (scan (step m c).2 cs).2)

/-- The token that the end of the text completes, if the text may end here. -/
def Mode.last? : Mode → Option (List Token)
  | .between => some []
  | .word w => some [.word w]
  | .closed s => some [.string s]
  | .name _ | .string _ => none

/-- The tokens of a text. -/
def tokens? (text : List Char) : Option (List Token) :=
  (scan .between text).2.last?.map ((scan .between text).1 ++ ·)

theorem scan_append (m : Mode) (s t : List Char) :
    scan m (s ++ t) = ((scan m s).1 ++ (scan (scan m s).2 t).1, (scan (scan m s).2 t).2) := by
  induction s generalizing m with
  | nil => rfl
  | cons c s ih => simp [scan, ih]

/-- Behind a complete token a separator is read as if nothing stood before it. -/
theorem step_separator {m : Mode} {last : List Token} {c : Char} (hm : m.last? = some last)
    (hc : isSeparator c = true) : step m c = (last ++ (enter c).1, (enter c).2) := by
  have hw : isWordChar c = false := by
    simp only [isSeparator, Bool.or_eq_true] at hc
    simp only [isWordChar]; grind
  have hq : c ≠ '\'' := by rintro rfl; exact absurd hc (by decide)
  cases m with
  | between => cases hm; rfl
  | word w => cases hm; simp [step, hw]
  | closed s => cases hm; simp [step, hq]
  | name => simp [Mode.last?] at hm
  | string => simp [Mode.last?] at hm

/-- A text may be read in two parts, if the first ends between two tokens. -/
theorem tokens?_append_of_between {s t : List Char} {ts : List Token}
    (hs : scan .between s = (ts, .between)) : tokens? (s ++ t) = (tokens? t).map (ts ++ ·) := by
  simp only [tokens?, scan_append, hs, Option.map_map]
  congr 1; funext us; simp

/-- A text may be read in two parts, if the second starts with a separator. -/
theorem tokens?_append {s t : List Char} {ts : List Token} (hs : tokens? s = some ts)
    (ht : ∀ c ∈ t.head?, isSeparator c = true) : tokens? (s ++ t) = (tokens? t).map (ts ++ ·) := by
  obtain ⟨last, hlast, rfl⟩ := Option.map_eq_some_iff.1 hs
  cases t with
  | nil =>
    have hnil : tokens? [] = some [] := rfl
    rw [List.append_nil, hs, hnil]; simp
  | cons c t =>
    have hstep := step_separator hlast (ht c rfl)
    simp only [tokens?, scan_append, scan, hstep, Option.map_map]
    congr 1; funext us; simp [step]

/-! ## Texts one behind the other -/

/-- The text is read as the tokens, and may stand behind any text that is complete. -/
structure Continues (text : String) (ts : List Token) : Prop where
  tokens?_eq : tokens? text.toList = some ts
  separated : ∀ c ∈ text.toList.head?, isSeparator c = true

/-- What is read behind a complete text. -/
theorem Continues.behind {s t : String} {ts us : List Token} (hs : tokens? s.toList = some ts)
    (ht : Continues t us) : tokens? (s ++ t).toList = some (ts ++ us) := by
  rw [String.toList_append, tokens?_append hs ht.separated, ht.tokens?_eq]
  rfl

theorem continues_empty : Continues "" [] := ⟨rfl, nofun⟩

theorem Continues.append {s t : String} {ts us : List Token} (hs : Continues s ts)
    (ht : Continues t us) : Continues (s ++ t) (ts ++ us) := by
  refine ⟨ht.behind hs.tokens?_eq, fun c hc => ?_⟩
  rw [String.toList_append, List.head?_append] at hc
  cases h : s.toList.head? with
  | none => exact ht.separated c (by rwa [h] at hc)
  | some d => exact hs.separated c (by rw [h] at hc ⊢; exact hc)

/-- The text is read as the tokens, starts with a separator, and ends between two
    tokens, so any two texts may stand around it. -/
structure Separates (text : String) (ts : List Token) : Prop where
  scan_eq : scan .between text.toList = (ts, .between)
  separated : ∃ c ∈ text.toList.head?, isSeparator c = true

theorem Separates.continues {s t : String} {ts us : List Token} (hs : Separates s ts)
    (ht : tokens? t.toList = some us) : Continues (s ++ t) (ts ++ us) := by
  refine ⟨?_, fun c hc => ?_⟩
  · rw [String.toList_append, tokens?_append_of_between hs.scan_eq, ht]
    rfl
  · obtain ⟨d, hd, hsep⟩ := hs.separated
    rw [String.toList_append, List.head?_append, Option.mem_def.1 hd] at hc
    cases hc
    exact hsep

theorem continues_blank {s : String} {ts : List Token} (h : tokens? s.toList = some ts) :
    Continues (" " ++ s) ts := by
  have hblank : Separates " " [] := ⟨rfl, ' ', rfl, rfl⟩
  exact hblank.continues h

theorem forall₂_map {α β γ : Type} {R : β → γ → Prop} {f : α → β} {g : α → γ} {l : List α}
    (h : ∀ a ∈ l, R (f a) (g a)) : List.Forall₂ R (l.map f) (l.map g) := by
  rw [List.forall₂_map_left_iff, List.forall₂_map_right_iff, List.forall₂_same]
  exact h

/-- Joined texts are read one by one, with the tokens of the separator between them. -/
theorem tokens?_intercalate {sep : String} {separator : List Token} (hsep : Separates sep separator)
    {texts : List String} {parts : List (List Token)}
    (h : List.Forall₂ (fun text ts => tokens? text.toList = some ts) texts parts) :
    tokens? (sep.intercalate texts).toList = some (separator.intercalate parts) := by
  induction h with
  | nil => rfl
  | cons hfirst hrest ih =>
    cases hrest with
    | nil => simpa using hfirst
    | cons hsecond hrest =>
      rw [String.intercalate_cons_cons, List.intercalate_cons_cons, String.append_assoc,
        List.append_assoc]
      exact (hsep.continues ih).behind hfirst

/-- Texts with commas between them. -/
theorem tokens?_commas {α : Type} {l : List α} {text : α → String} {item : α → List Token}
    (h : ∀ a ∈ l, tokens? (text a).toList = some (item a)) :
    tokens? (", ".intercalate (l.map text)).toList = some ([Token.mark ','].intercalate (l.map item)) :=
  tokens?_intercalate ⟨rfl, ',', rfl, rfl⟩ (forall₂_map h)

theorem continues_close : Continues ")" [.mark ')'] := ⟨rfl, by rintro c ⟨⟩; rfl⟩

/-- A text in parentheses is read between the parentheses. -/
theorem continues_enclosed {s : String} {ts : List Token} (h : tokens? s.toList = some ts) :
    Continues ("(" ++ s ++ ")") (.mark '(' :: (ts ++ [.mark ')'])) := by
  have hopen : Separates "(" [.mark '('] := ⟨rfl, '(', rfl, rfl⟩
  rw [String.append_assoc]
  exact hopen.continues (continues_close.behind h)

theorem tokens?_enclosed {s : String} {ts : List Token} (h : tokens? s.toList = some ts) :
    tokens? ("(" ++ s ++ ")").toList = some (.mark '(' :: (ts ++ [.mark ')'])) :=
  (continues_enclosed h).tokens?_eq

/-! ## Single tokens -/

theorem scan_name_chars (read : List Char) {name : List Char} (h : ']' ∉ name) :
    scan (.name read) name = ([], .name (read ++ name)) := by
  induction name generalizing read with
  | nil => simp [scan]
  | cons c name ih =>
    obtain ⟨hc, hname⟩ := not_or.1 (mt List.mem_cons.2 h)
    simp [scan, step, Ne.symm hc, ih _ hname]

/-- A bracketed name is one token. -/
theorem scan_name {name : List Char} (h : ']' ∉ name) :
    scan .between ('[' :: (name ++ [']'])) = ([.name name], .between) := by
  simp [scan, scan_append, scan_name_chars _ h, step, enter]

theorem scan_string_chars (read s : List Char) :
    scan (.string read) (Text.doubleQuotes s) = ([], .string (read ++ s)) := by
  induction s generalizing read with
  | nil => simp [scan, Text.doubleQuotes]
  | cons c s ih =>
    by_cases hc : c = '\''
    · simp [Text.doubleQuotes, scan, step, hc, ih]
    · simp [Text.doubleQuotes, scan, step, hc, ih]

/-- A quoted text is one token, whose contents are the text. -/
theorem tokens?_string (s : List Char) :
    tokens? ('\'' :: (Text.doubleQuotes s ++ ['\''])) = some [.string s] := by
  have h : scan .between ('\'' :: (Text.doubleQuotes s ++ ['\''])) = ([], .closed s) := by
    simp [scan, scan_append, scan_string_chars, step, enter]
  simp [tokens?, h, Mode.last?]

/-- Two quotes inside a string stand for one. -/
example : tokens? "'it''s'".toList = some [.string "it's".toList] := by rfl

theorem scan_word_chars (read : List Char) {w : List Char}
    (h : ∀ c ∈ w, isWordChar c = true) : scan (.word read) w = ([], .word (read ++ w)) := by
  induction w generalizing read with
  | nil => simp [scan]
  | cons c w ih =>
    obtain ⟨hc, hw⟩ := List.forall_mem_cons.1 h
    simp [scan, step, hc, ih _ hw]

/-- A run of word characters is one token. -/
theorem tokens?_word {w : List Char} (hne : w ≠ []) (h : ∀ c ∈ w, isWordChar c = true) :
    tokens? w = some [.word w] := by
  obtain ⟨c, w, rfl⟩ := List.exists_cons_of_ne_nil hne
  obtain ⟨hc, hw⟩ := List.forall_mem_cons.1 h
  have henter : enter c = ([], .word [c]) := by
    simp only [isWordChar, Bool.and_eq_true, bne_iff_ne, Bool.not_eq_true'] at hc
    obtain ⟨⟨⟨h1, h2⟩, h3⟩, h4⟩ := hc
    simp [enter, h1, h2, h3, h4]
  simp [tokens?, scan, step, henter, scan_word_chars _ hw, Mode.last?]

/-! ## Properties of tokens -/

/-- A word that is written like this. -/
def Token.keyword (text : String) : Token := .word text.toList

/-- The token neither ends a statement nor starts a comment. -/
def Token.IsInert : Token → Prop
  | .name _ | .string _ => True
  | .word w => ¬ ['-', '-'] <:+: w ∧ ¬ ['/', '*'] <:+: w
  | .mark c => c ≠ ';'

instance : DecidablePred Token.IsInert
  | .name _ | .string _ => isTrue trivial
  | .word w => inferInstanceAs (Decidable (¬ ['-', '-'] <:+: w ∧ ¬ ['/', '*'] <:+: w))
  | .mark c => inferInstanceAs (Decidable (c ≠ ';'))

/-- The token without the contents of a string. -/
def Token.redacted : Token → Token
  | .string _ => .string []
  | t => t

/-! ## Sequences with separators -/

section

variable {α β : Type} {separator : List α} {xs : List (List α)}

theorem forall_mem_intercalate {p : α → Prop} (hs : ∀ a ∈ separator, p a)
    (h : ∀ x ∈ xs, ∀ a ∈ x, p a) : ∀ a ∈ separator.intercalate xs, p a := by
  induction xs with
  | nil => simp
  | cons x xs ih =>
    obtain ⟨hx, hxs⟩ := List.forall_mem_cons.1 h
    cases xs with
    | nil => simpa using hx
    | cons y ys =>
      have hrest := ih hxs
      rw [List.intercalate_cons_cons]
      simp only [List.mem_append]
      rintro a ((ha | ha) | ha)
      exacts [hx a ha, hs a ha, hrest a ha]

theorem map_intercalate (f : α → β) :
    (separator.intercalate xs).map f = (separator.map f).intercalate (xs.map (List.map f)) := by
  induction xs with
  | nil => rfl
  | cons x xs ih =>
    cases xs with
    | nil => simp
    | cons y ys =>
      simp only [List.map_cons, List.intercalate_cons_cons, List.map_append] at ih ⊢
      rw [ih]

end

end QuerySql.Sql
