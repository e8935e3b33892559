/-
  Tokens of printed JSON text.

  `ReadAs cs ts`: in front of a mark or a blank, or at the end of a text, the
  characters `cs` are read as the tokens `ts`.  A printed string is read as its text
  (`readAs_string`), whatever characters it has escaped, and a numeral as itself
  (`readAs_numeral`).  Blanks between tokens mean nothing (`ReadAs.blank_cons`).
-/
import Mathlib.Data.Bool.AllAny
import QuerySql.Json.Source
import QuerySql.Proofs.Json.Numeral

namespace QuerySql.Json

/-! ## Code points of strings -/

theorem hexValue?_hexDigit : ∀ n < 16, hexValue? (hexDigit n) = some n := by decide

theorem hexUnit?_hexDigit {n : Nat} (h : n < 0x20) :
    hexUnit? '0' '0' (hexDigit (n / 16)) (hexDigit (n % 16)) = some n := by
  have hzero : hexValue? '0' = some 0 := rfl
  have hhigh := hexValue?_hexDigit (n / 16) (by omega)
  have hlow := hexValue?_hexDigit (n % 16) (by omega)
  simp only [hexUnit?, hzero, hhigh, hlow, Option.bind_eq_bind, Option.bind_some, Option.pure_def,
    Option.some.injEq]
  omega

theorem points?_escape {e c : Char} (h : escape? e = some c) (rest : List Char) :
    points? ('\\' :: e :: rest) = (points? rest).map (c.toNat :: ·) := by
  rw [points?, h]
  · cases points? rest <;> rfl
  · rintro a b c d rest rfl -
    cases h

theorem points?_cons {c : Char} (hcontrol : ¬ c.toNat < 0x20) (hbackslash : c ≠ '\\')
    (rest : List Char) : points? (c :: rest) = (points? rest).map (c.toNat :: ·) := by
  rw [points?, if_neg (not_or_intro hcontrol hbackslash)]
  · cases points? rest <;> rfl
  all_goals simp [hbackslash]

/-- The forms in which a character stands in a string. -/
inductive IsEscaped (c : Char) : List Char → Prop
  | plain (hquote : c ≠ '"') (hbackslash : c ≠ '\\') (hcontrol : ¬ c.toNat < 0x20) : IsEscaped c [c]
  | short {e} (h : escape? e = some c) : IsEscaped c ['\\', e]
  | unit (h : c.toNat < 0x20) :
    IsEscaped c ['\\', 'u', '0', '0', hexDigit (c.toNat / 16), hexDigit (c.toNat % 16)]

theorem isEscaped_escapedChar (c : Char) : IsEscaped c (escapedChar c) := by
  unfold escapedChar
  by_cases hquote : c = '"'
  · subst hquote; exact .short rfl
  by_cases hbackslash : c = '\\'
  · subst hbackslash; exact .short rfl
  rw [if_neg hquote, if_neg hbackslash]
  iterate 5 refine iteInduction (fun h => h ▸ .short rfl) fun _ => ?_
  exact iteInduction .unit (.plain hquote hbackslash)

/-- A character is read back from its escaped form. -/
theorem points?_escapedChar (c : Char) (rest : List Char) :
    points? (escapedChar c ++ rest) = (points? rest).map (c.toNat :: ·) := by
  have h := isEscaped_escapedChar c
  generalize escapedChar c = cs at h ⊢
  cases h with
  | plain _ hbackslash hcontrol => exact points?_cons hcontrol hbackslash rest
  | short h => exact points?_escape h rest
  | unit h =>
    simp only [List.cons_append, List.nil_append, points?, hexUnit?_hexDigit h]
    cases points? rest <;> rfl

theorem points?_flatMap (cs : List Char) :
    points? (cs.flatMap escapedChar) = some (cs.map Char.toNat) := by
  induction cs with
  | nil => rfl
  | cons c cs ih => rw [List.flatMap_cons, points?_escapedChar, ih]; rfl

/-- No character is a surrogate. -/
theorem isSurrogate_toNat (c : Char) : isSurrogate c.toNat = false := by
  have hvalid : c.toNat < 0xD800 ∨ 0xDFFF < c.toNat ∧ c.toNat < 0x110000 := c.valid
  simp only [isSurrogate, Bool.and_eq_false_iff, decide_eq_false_iff_not]
  omega

theorem isLeadingSurrogate_toNat (c : Char) : isLeadingSurrogate c.toNat = false := by
  have h := isSurrogate_toNat c
  simp only [isSurrogate, isLeadingSurrogate, Bool.and_eq_false_iff, decide_eq_false_iff_not] at h ⊢
  omega

theorem ofPoints?_map (cs : List Char) : ofPoints? (cs.map Char.toNat) = some cs := by
  induction cs with
  | nil => rfl
  | cons c cs ih =>
    cases cs with
    | nil => simp [ofPoints?, isSurrogate_toNat, Char.ofNat_toNat]
    | cons d cs =>
      simp only [List.map_cons] at ih ⊢
      rw [ofPoints?, isLeadingSurrogate_toNat, isSurrogate_toNat, ih]
      simp [Char.ofNat_toNat]

/-- **A string is read back from its escaped form.** -/
theorem ofString?_flatMap (text : String) :
    Token.ofString? (text.toList.flatMap escapedChar) = some (.string (some text)) := by
  simp [Token.ofString?, points?_flatMap, ofPoints?_map]

/-! ## Reading part by part -/

/-- A character that stands for a token by itself. -/
def IsMark (c : Char) : Prop := (Token.ofMark? c).isSome = true

/-- A character that does not end a word. -/
def IsWordChar (c : Char) : Prop :=
  Text.isLineBlank c = false ∧ c ≠ '"' ∧ Token.ofMark? c = none

instance (c : Char) : Decidable (IsWordChar c) :=
  inferInstanceAs (Decidable (_ ∧ _ ∧ _))

/-- A character that ends a word and is not part of another one. -/
def EndsWord (c : Char) : Prop := IsMark c ∨ Text.isLineBlank c = true

/-- The characters are read as the tokens, in front of what ends a word or at the end
    of the text. -/
def ReadAs (cs : List Char) (ts : List Token) : Prop :=
  ∀ rest, (∀ c ∈ rest.head?, EndsWord c) → tokens? (cs ++ rest) = (tokens? rest).map (ts ++ ·)

theorem isMark_iff {c : Char} : IsMark c ↔ c ∈ "[]\x7b\x7d,:".toList := by
  have htoList : "[]\x7b\x7d,:".toList = ['[', ']', '\x7b', '\x7d', ',', ':'] := rfl
  rw [htoList]
  unfold IsMark Token.ofMark?
  split <;> simp_all

theorem not_isLineBlank_of_isMark {c : Char} (h : IsMark c) :
    Text.isLineBlank c = false ∧ c ≠ '"' := by
  have hall : ∀ c ∈ "[]\x7b\x7d,:".toList, Text.isLineBlank c = false ∧ c ≠ '"' :=
    List.all_iff_forall_prop.1 rfl
  exact hall c (isMark_iff.1 h)

theorem tokens?_mark_cons {c : Char} {t : Token} (h : Token.ofMark? c = some t) (cs : List Char) :
    tokens? (c :: cs) = (tokens? cs).map (t :: ·) := by
  obtain ⟨hblank, hquote⟩ := not_isLineBlank_of_isMark (c := c) (by rw [IsMark, h]; rfl)
  rw [tokens?, tokensFrom?, hblank, if_neg Bool.false_ne_true, if_neg hquote, h, tokens?]
  cases tokensFrom? .between cs <;> rfl

theorem tokens?_blank_cons {c : Char} (h : Text.isLineBlank c = true) (cs : List Char) :
    tokens? (c :: cs) = tokens? cs := by
  rw [tokens?, tokensFrom?, if_pos h, tokens?]

theorem readAs_nil : ReadAs [] [] := fun rest _ => by simp

theorem ReadAs.mark_cons {c : Char} {t : Token} (hc : Token.ofMark? c = some t) {cs : List Char}
    {ts : List Token} (h : ReadAs cs ts) : ReadAs (c :: cs) (t :: ts) := by
  intro rest hrest
  rw [List.cons_append, tokens?_mark_cons hc, h rest hrest, Option.map_map]
  rfl

theorem ReadAs.blank_cons {c : Char} (hc : Text.isLineBlank c = true) {cs : List Char}
    {ts : List Token} (h : ReadAs cs ts) : ReadAs (c :: cs) ts := by
  intro rest hrest
  rw [List.cons_append, tokens?_blank_cons hc, h rest hrest]

/-- What starts with a mark or a blank may follow. -/
theorem ReadAs.append {a b : List Char} {ts us : List Token} (ha : ReadAs a ts) (hb : ReadAs b us)
    (hstart : ∃ c ∈ b.head?, EndsWord c) : ReadAs (a ++ b) (ts ++ us) := by
  intro rest hrest
  obtain ⟨c, hc, hends⟩ := hstart
  have hnext : ∀ d ∈ (b ++ rest).head?, EndsWord d := by
    obtain ⟨b', rfl⟩ := List.head?_eq_some_iff.1 hc
    rintro d ⟨⟩
    exact hends
  rw [List.append_assoc, ha _ hnext, hb rest hrest, Option.map_map]
  simp [Function.comp_def]

/-! ## Words -/

theorem tokensFrom?_word {w : List Char} (hw : ∀ c ∈ w, IsWordChar c) (before : List Char)
    {rest : List Char} (hrest : ∀ c ∈ rest.head?, EndsWord c) :
    tokensFrom? (.word before) (w ++ rest) =
      (Token.ofWord? (before.reverse ++ w)).bind fun t => (tokens? rest).map (t :: ·) := by
  induction w generalizing before with
  | nil =>
    rw [List.nil_append, List.append_nil]
    cases rest with
    | nil => rw [tokensFrom?]; cases Token.ofWord? before.reverse <;> rfl
    | cons c rest =>
      obtain hmark | hblank := hrest c rfl
      · obtain ⟨t, ht⟩ := Option.isSome_iff_exists.1 hmark
        obtain ⟨hblank, hquote⟩ := not_isLineBlank_of_isMark hmark
        rw [tokens?_mark_cons ht, tokensFrom?, hblank, if_neg Bool.false_ne_true, if_neg hquote, ht]
        simp only [Option.map_map]
        cases Token.ofWord? before.reverse <;> cases h : tokens? rest <;> simp_all [tokens?]
      · rw [tokens?_blank_cons hblank, tokensFrom?, if_pos hblank]
        cases Token.ofWord? before.reverse <;> cases h : tokens? rest <;> simp_all [tokens?]
  | cons c w ih =>
    obtain ⟨⟨hblank, hquote, hmark⟩, hw⟩ := List.forall_mem_cons.1 hw
    rw [List.cons_append, tokensFrom?, hblank, if_neg Bool.false_ne_true, if_neg hquote, hmark]
    simp only
    rw [ih hw, List.reverse_cons, List.append_assoc, List.singleton_append]

theorem readAs_word {w : List Char} {t : Token} (hne : w ≠ []) (hw : ∀ c ∈ w, IsWordChar c)
    (ht : Token.ofWord? w = some t) : ReadAs w [t] := by
  intro rest hrest
  obtain ⟨c, w, rfl⟩ := List.exists_cons_of_ne_nil hne
  obtain ⟨⟨hblank, hquote, hmark⟩, hrestw⟩ := List.forall_mem_cons.1 hw
  rw [tokens?, List.cons_append, tokensFrom?, hblank, if_neg Bool.false_ne_true, if_neg hquote, hmark]
  simp only
  rw [tokensFrom?_word hrestw [c] hrest, List.reverse_singleton, List.singleton_append, ht]
  rfl

/-! ## Strings -/

/-- A character of a string is neither a quote nor a backslash. -/
def IsPlain (c : Char) : Prop := c ≠ '"' ∧ c ≠ '\\'

theorem tokensFrom?_plain {w : List Char} (hw : ∀ c ∈ w, IsPlain c) (before rest : List Char) :
    tokensFrom? (.string before) (w ++ rest) = tokensFrom? (.string (w.reverse ++ before)) rest := by
  induction w generalizing before with
  | nil => rfl
  | cons c w ih =>
    obtain ⟨⟨hquote, hbackslash⟩, hw⟩ := List.forall_mem_cons.1 hw
    rw [List.cons_append, tokensFrom?, if_neg hquote, if_neg hbackslash, ih hw]
    simp

theorem isPlain_hexDigit : ∀ n < 16, hexDigit n ≠ '"' ∧ hexDigit n ≠ '\\' := by decide

/-- An escaped character does not end a string. -/
theorem tokensFrom?_escapedChar (c : Char) (before rest : List Char) :
    tokensFrom? (.string before) (escapedChar c ++ rest) =
      tokensFrom? (.string ((escapedChar c).reverse ++ before)) rest := by
  have hpair : ∀ e w, (∀ d ∈ w, IsPlain d) → tokensFrom? (.string before) ('\\' :: e :: w ++ rest) =
      tokensFrom? (.string (('\\' :: e :: w).reverse ++ before)) rest := by
    intro e w hw
    rw [List.cons_append, List.cons_append, tokensFrom?, if_neg (by decide), if_pos rfl,
      tokensFrom?, tokensFrom?_plain hw]
    simp
  have h := isEscaped_escapedChar c
  generalize escapedChar c = cs at h ⊢
  cases h with
  | plain hquote hbackslash =>
    exact tokensFrom?_plain (List.forall_mem_singleton.2 ⟨hquote, hbackslash⟩) before rest
  | short => exact hpair _ [] (List.forall_mem_nil _)
  | unit h =>
    have hhigh := isPlain_hexDigit (c.toNat / 16) (by omega)
    have hlow := isPlain_hexDigit (c.toNat % 16) (by omega)
    exact hpair 'u' _ (by simp [IsPlain, hhigh, hlow])

theorem tokensFrom?_string (cs before rest : List Char) :
    tokensFrom? (.string before) (cs.flatMap escapedChar ++ '"' :: rest) =
      (Token.ofString? (before.reverse ++ cs.flatMap escapedChar)).bind fun t =>
        (tokens? rest).map (t :: ·) := by
  induction cs generalizing before with
  | nil =>
    rw [List.flatMap_nil, List.nil_append, List.append_nil, tokensFrom?, if_pos rfl]
    cases Token.ofString? before.reverse <;> cases h : tokens? rest <;> simp_all [tokens?]
  | cons c cs ih =>
    rw [List.flatMap_cons, List.append_assoc, tokensFrom?_escapedChar, ih, List.reverse_append,
      List.reverse_reverse, List.append_assoc]

/-- **A printed string is read as its text.** -/
theorem readAs_string (text : String) : ReadAs (stringChars text) [.string (some text)] := by
  intro rest _
  have hstring := tokensFrom?_string text.toList [] rest
  rw [List.reverse_nil, List.nil_append, ofString?_flatMap] at hstring
  have hopen : tokens? (stringChars text ++ rest) =
      tokensFrom? (.string []) (text.toList.flatMap escapedChar ++ '"' :: rest) := by
    simp [tokens?, stringChars, tokensFrom?, Text.isLineBlank]
  rw [hopen, hstring]
  rfl

/-! ## Numerals -/

/-- Characters of numerals. -/
def IsNumeralChar (c : Char) : Prop := c.isDigit = true ∨ c ∈ ['-', '+', '.', 'e']

instance (c : Char) : Decidable (IsNumeralChar c) :=
  inferInstanceAs (Decidable (c.isDigit = true ∨ c ∈ ['-', '+', '.', 'e']))

theorem IsNumeralChar.isWordChar {c : Char} (h : IsNumeralChar c) : IsWordChar c := by
  have hother : ∀ d ∈ ' ' :: '\t' :: '\r' :: '\n' :: '"' :: "[]\x7b\x7d,:".toList,
      ¬ IsNumeralChar d := List.all_iff_forall_prop.1 rfl
  have hc : c ∉ ' ' :: '\t' :: '\r' :: '\n' :: '"' :: "[]\x7b\x7d,:".toList := fun hmem =>
    hother c hmem h
  simp only [List.mem_cons, not_or] at hc
  obtain ⟨hspace, htab, hreturn, hfeed, hquote, hmark⟩ := hc
  refine ⟨by simp [Text.isLineBlank, hspace, htab, hreturn, hfeed], hquote, ?_⟩
  exact Option.not_isSome_iff_eq_none.1 (mt isMark_iff.1 hmark)

theorem isNumeralChar_of_mem_chars {n : Numeral} (h : n.IsWellFormed) :
    ∀ c ∈ n.chars, IsNumeralChar c := by
  have hfraction : ∀ c ∈ Numeral.fractionChars n.fraction, IsNumeralChar c := by
    cases hn : n.fraction with
    | none => exact nofun
    | some ds =>
      exact List.forall_mem_cons.2 ⟨by decide, fun c hc => Or.inl ((h.fraction ds hn).2 c hc)⟩
  have hexponent : ∀ c ∈ Numeral.exponentChars n.exponent, IsNumeralChar c := by
    cases hn : n.exponent with
    | none => exact nofun
    | some e =>
      refine List.forall_mem_cons.2 ⟨by decide, List.forall_mem_cons.2 ⟨?_, ?_⟩⟩
      · split <;> decide
      · exact fun c hc => Or.inl ((h.exponent e hn).2 c hc)
  have hunsigned : ∀ c ∈ n.unsigned, IsNumeralChar c :=
    List.forall_mem_append.2 ⟨fun c hc => Or.inl (h.whole.2 c hc),
      List.forall_mem_append.2 ⟨hfraction, hexponent⟩⟩
  unfold Numeral.chars
  split
  · exact List.forall_mem_cons.2 ⟨by decide, hunsigned⟩
  · exact hunsigned

/-- **A numeral is read as itself.** -/
theorem readAs_numeral {n : Numeral} (h : n.IsWellFormed) : ReadAs n.chars [.number n] := by
  have hchars := isNumeralChar_of_mem_chars h
  refine readAs_word ?_ (fun c hc => (hchars c hc).isWordChar) ?_
  · unfold Numeral.chars Numeral.unsigned
    split
    · exact List.cons_ne_nil _ _
    · exact List.append_ne_nil_of_left_ne_nil h.whole.1 _
  · -- the words for null and the truth values have letters that no numeral has
    have hword : ∀ c, ¬ IsNumeralChar c → ∀ w, c ∈ w → n.chars ≠ w := fun c hc w hmem heq =>
      hc (hchars c (heq ▸ hmem))
    rw [Token.ofWord?, if_neg (hword 'n' (by decide) _ (by decide)),
      if_neg (hword 't' (by decide) _ (by decide)), if_neg (hword 'f' (by decide) _ (by decide)),
      Numeral.ofChars?_chars h]
    rfl

end QuerySql.Json
