/-
  JSON text and back.

  * `source` is the tree that a JSON value is printed as, and the printed
    characters are read as the tokens of the tree (`readAs_chars`);
  * `IsReadable depth` says that a value can be read: it has at most `depth` levels,
    its integers fit 64 bits, its objects have distinct keys, and its floats read
    back from their own digits (`ReadsBack`).  A readable value is read back from
    its text (`ofText?_text`);
  * no object in a value that is read repeats a key (`hasDistinctKeys_of_ofText?`).
-/
import QuerySql.Json.Source
import QuerySql.Proofs.Entries
import QuerySql.Proofs.Json.Source
import QuerySql.Proofs.Json.Token

namespace QuerySql.Json

/-! ## Parts -/

/-- Induction on a JSON value: an array or object inherits what holds of the values in it. -/
@[elab_as_elim, induction_eliminator]
theorem induction {motive : Json → Prop} (null : motive .null) (bool : ∀ b, motive (.bool b))
    (integer : ∀ n, motive (.integer n)) (float : ∀ x, motive (.float x))
    (string : ∀ text, motive (.string text))
    (array : ∀ items, (∀ j ∈ items, motive j) → motive (.array items))
    (object : ∀ entries, (∀ e ∈ entries, motive e.2) → motive (.object entries)) (j : Json) :
    motive j :=
  match j with
  | .null => null
  | .bool b => bool b
  | .integer n => integer n
  | .float x => float x
  | .string text => string text
  | .array items => array items fun i hi =>
    have := List.sizeOf_lt_of_mem hi
    induction null bool integer float string array object i
  | .object entries => object entries fun (key, i) he =>
    have := List.sizeOf_lt_of_mem he
    induction null bool integer float string array object i
termination_by sizeOf j
decreasing_by
  all_goals
    simp only [Json.array.sizeOf_spec, Json.object.sizeOf_spec, Prod.mk.sizeOf_spec] at *
    omega

/-- No object in the value repeats a key. -/
inductive HasDistinctKeys : Json → Prop
  | null : HasDistinctKeys .null
  | bool (b) : HasDistinctKeys (.bool b)
  | integer (n) : HasDistinctKeys (.integer n)
  | float (x) : HasDistinctKeys (.float x)
  | string (text) : HasDistinctKeys (.string text)
  | array {items} (h : ∀ j ∈ items, HasDistinctKeys j) : HasDistinctKeys (.array items)
  | object {entries} (hkeys : (entries.map Prod.fst).Nodup)
    (h : ∀ e ∈ entries, HasDistinctKeys e.2) : HasDistinctKeys (.object entries)

/-! ## Trees -/

/-- The numeral that a float is printed as. -/
def floatNumeral (x : Binary64) : Numeral := (Numeral.ofChars? (floatChars x)).getD (.ofInt 0)

theorem floatNumeral_spec (x : Binary64) : (floatNumeral x).IsWellFormed ∧
    (floatNumeral x).HasPoint ∧ (floatNumeral x).chars = floatChars x := by
  obtain ⟨n, hn, hpoint, hchars⟩ := Numeral.exists_floatChars x
  have hsame : floatNumeral x = n := by
    rw [floatNumeral, ← hchars, Numeral.ofChars?_chars hn, Option.getD_some]
  rw [hsame]
  exact ⟨hn, hpoint, hchars⟩

mutual

/-- The tree that a value is printed as. -/
def source : Json → Source
  | .null => .null
  | .bool b => .bool b
  | .integer n => .number (.ofInt n)
  | .float x => .number (floatNumeral x)
  | .string text => .string (some text)
  | .array items => .array (itemSources items)
  | .object entries => .object (entrySources entries)

/-- The trees of the items of an array. -/
def itemSources : List Json → List Source
  | [] => []
  | v :: rest => source v :: itemSources rest

/-- The trees of the entries of an object. -/
def entrySources : List (String × Json) → List (Option String × Source)
  | [] => []
  | (key, v) :: rest => (some key, source v) :: entrySources rest

end

/-! ## Tokens -/

theorem itemsTokens_sources (items : List Json) : Source.itemsTokens (itemSources items) =
    items.flatMap fun j => Token.comma :: j.source.tokens := by
  induction items with
  | nil => rfl
  | cons j items ih => simp [itemSources, Source.itemsTokens, ih]

theorem entriesTokens_sources (entries : List (String × Json)) :
    Source.entriesTokens (entrySources entries) =
      entries.flatMap fun e => Token.comma :: .string (some e.1) :: .colon :: e.2.source.tokens := by
  induction entries with
  | nil => rfl
  | cons e entries ih => simp [entrySources, Source.entriesTokens, ih]

/-- Parts with a comma before each. -/
theorem readAs_commas {α : Type} {l : List α} {f : α → List Char} {g : α → List Token}
    (h : ∀ a ∈ l, ReadAs (f a) (g a)) {cs : List Char} {ts : List Token} (hcs : ReadAs cs ts)
    (hstart : ∃ c ∈ cs.head?, EndsWord c) :
    ReadAs (l.flatMap (fun a => ',' :: f a) ++ cs) (l.flatMap (fun a => .comma :: g a) ++ ts) ∧
    ∃ c ∈ (l.flatMap (fun a => ',' :: f a) ++ cs).head?, EndsWord c := by
  induction l with
  | nil => exact ⟨hcs, hstart⟩
  | cons a l ih =>
    obtain ⟨ha, hl⟩ := List.forall_mem_cons.1 h
    obtain ⟨hrest, hnext⟩ := ih hl
    have hall := (ha.append hrest hnext).mark_cons (c := ',') (t := .comma) rfl
    refine ⟨?_, ',', rfl, Or.inl rfl⟩
    simpa using hall

section

variable {close : List Char} {t : Token} (hclose : ReadAs close [t])
  (hstart : ∃ c ∈ close.head?, EndsWord c)
include hclose hstart

/-- An array whose items are written by `f` and that is closed by `close`. -/
theorem readAs_array {f : Json → List Char} {j : Json} {items : List Json} (ht : t = .closeArray)
    (h : ∀ i ∈ j :: items, ReadAs (f i) i.source.tokens) :
    ReadAs ('[' :: (f j ++ (items.flatMap (fun i => ',' :: f i) ++ close)))
      (source (.array (j :: items))).tokens := by
  subst ht
  obtain ⟨hj, hitems⟩ := List.forall_mem_cons.1 h
  obtain ⟨hrest, hnext⟩ := readAs_commas hitems hclose hstart
  have hall := (hj.append hrest hnext).mark_cons (c := '[') rfl
  rwa [← itemsTokens_sources] at hall

/-- An object whose entries are written by `f` and that is closed by `close`. -/
theorem readAs_object {f : String × Json → List Char} {e : String × Json}
    {entries : List (String × Json)} (ht : t = .closeObject)
    (h : ∀ d ∈ e :: entries, ReadAs (f d) (.string (some d.1) :: .colon :: d.2.source.tokens)) :
    ReadAs ('\x7b' :: (f e ++ (entries.flatMap (fun d => ',' :: f d) ++ close)))
      (source (.object (e :: entries))).tokens := by
  subst ht
  obtain ⟨he, hentries⟩ := List.forall_mem_cons.1 h
  obtain ⟨hrest, hnext⟩ := readAs_commas hentries hclose hstart
  have hall := (he.append hrest hnext).mark_cons (c := '\x7b') rfl
  rwa [← entriesTokens_sources] at hall

end

/-- A key, a colon and what is written behind it. -/
theorem readAs_entry (key : String) {cs : List Char} {ts : List Token} (h : ReadAs cs ts) :
    ReadAs (stringChars key ++ ':' :: cs) (.string (some key) :: .colon :: ts) :=
  (readAs_string key).append (h.mark_cons rfl) ⟨':', rfl, Or.inl rfl⟩

/-! ## Compact text -/

theorem itemsChars_eq (items : List Json) :
    itemsChars items = items.flatMap fun j => ',' :: j.chars := by
  induction items with
  | nil => rfl
  | cons j items ih => simp [itemsChars, ih]

theorem entriesChars_eq (entries : List (String × Json)) :
    entriesChars entries = entries.flatMap fun e => ',' :: (stringChars e.1 ++ ':' :: e.2.chars) := by
  induction entries with
  | nil => rfl
  | cons e entries ih => simp [entriesChars, ih]

/-- **The text of a value is read as the tokens of its tree.** -/
theorem readAs_chars (j : Json) : ReadAs j.chars j.source.tokens := by
  induction j with
  | null => exact readAs_word (by simp [chars]) (List.all_iff_forall_prop.1 rfl) rfl
  | bool b => cases b <;> exact readAs_word (by simp [chars]) (List.all_iff_forall_prop.1 rfl) rfl
  | integer n =>
    rw [chars, ← Numeral.chars_ofInt]
    exact readAs_numeral (Numeral.isWellFormed_ofInt n)
  | float x =>
    obtain ⟨hn, -, hchars⟩ := floatNumeral_spec x
    rw [chars, ← hchars]
    exact readAs_numeral hn
  | string text => exact readAs_string text
  | array items ih =>
    cases items with
    | nil => exact (readAs_nil.mark_cons rfl).mark_cons rfl
    | cons j items =>
      rw [chars, itemsChars_eq]
      exact readAs_array (readAs_nil.mark_cons rfl) ⟨']', rfl, Or.inl rfl⟩ rfl ih
  | object entries ih =>
    cases entries with
    | nil => exact (readAs_nil.mark_cons rfl).mark_cons rfl
    | cons e entries =>
      have hentries := readAs_object (readAs_nil.mark_cons rfl) ⟨'\x7d', rfl, Or.inl rfl⟩ rfl
        fun d hd => readAs_entry d.1 (ih d hd)
      rw [chars, entriesChars_eq]
      simpa using hentries

/-- What is read as the tokens of a tree is read as the tree. -/
theorem sourceOfText?_of_readAs {text : String} {s : Source} (h : ReadAs text.toList s.tokens) :
    Source.ofText? text = some s := by
  have htokens := h [] nofun
  rw [List.append_nil, show tokens? [] = some [] from rfl, Option.map_some, List.append_nil] at htokens
  rw [Source.ofText?, htokens]
  exact Source.ofTokens?_tokens s

/-! ## Values -/

/-- The digits of a float denote the float. -/
def ReadsBack (x : Binary64) : Prop :=
  ∀ n, Numeral.ofChars? (floatChars x) = some n → n.float? = some x

/-- A value of at most `depth` levels that can be read. -/
inductive IsReadable : Nat → Json → Prop
  | null {depth} : IsReadable depth .null
  | bool {depth} (b) : IsReadable depth (.bool b)
  | integer {depth n} (h : -2 ^ 63 ≤ n ∧ n < 2 ^ 64) : IsReadable depth (.integer n)
  | float {depth x} (h : ReadsBack x) : IsReadable depth (.float x)
  | string {depth} (text) : IsReadable depth (.string text)
  | array {depth items} (h : ∀ j ∈ items, IsReadable depth j) : IsReadable (depth + 1) (.array items)
  | object {depth entries} (hkeys : (entries.map Prod.fst).Nodup)
    (h : ∀ e ∈ entries, IsReadable depth e.2) : IsReadable (depth + 1) (.object entries)

theorem itemsWithin?_sources {depth : Nat} {items : List Json}
    (h : ∀ j ∈ items, ofSourceWithin? depth j.source = some j) :
    itemsWithin? depth (itemSources items) = some items := by
  induction items with
  | nil => rfl
  | cons j items ih =>
    obtain ⟨hj, hitems⟩ := List.forall_mem_cons.1 h
    rw [itemSources, itemsWithin?, hj, ih hitems]
    rfl

theorem entriesWithin?_sources {depth : Nat} {entries : List (String × Json)}
    (h : ∀ e ∈ entries, ofSourceWithin? depth e.2.source = some e.2) :
    entriesWithin? depth (entrySources entries) = some entries := by
  induction entries with
  | nil => rfl
  | cons e entries ih =>
    obtain ⟨he, hentries⟩ := List.forall_mem_cons.1 h
    rw [entrySources, entriesWithin?, he, ih hentries]
    rfl

theorem ofSourceWithin?_source {depth : Nat} {j : Json} (h : j.IsReadable depth) :
    ofSourceWithin? depth j.source = some j := by
  induction h with
  | null | bool | string => rfl
  | integer h => exact Numeral.value?_ofInt h
  | @float depth x h =>
    obtain ⟨hn, hpoint, hchars⟩ := floatNumeral_spec x
    have hread : (floatNumeral x).float? = some x := by
      refine h _ ?_
      rw [← hchars, Numeral.ofChars?_chars hn]
    rw [source, ofSourceWithin?, Numeral.value?, hpoint.integer?_eq_none, hread]
    rfl
  | array _ ih => rw [source, ofSourceWithin?, itemsWithin?_sources ih]; rfl
  | object hkeys _ ih =>
    rw [source, ofSourceWithin?, entriesWithin?_sources ih, Option.map_some,
      Entries.distinct_of_nodup hkeys]

/-- What is read as the tokens of a readable value is read as the value. -/
theorem ofText?_of_readAs {text : String} {j : Json} (h : j.IsReadable maxDepth)
    (htokens : ReadAs text.toList j.source.tokens) : ofText? text = some j := by
  rw [ofText?, sourceOfText?_of_readAs htokens]
  exact ofSourceWithin?_source h

/-- **A readable value is read back from its text.** -/
theorem ofText?_text {j : Json} (h : j.IsReadable maxDepth) : ofText? j.text = some j :=
  ofText?_of_readAs h (by rw [text, String.toList_ofList]; exact readAs_chars j)

/-! ## What is read -/

theorem of_mem_itemsWithin? {depth : Nat} {sources : List Source} {items : List Json}
    (h : itemsWithin? depth sources = some items) :
    ∀ j ∈ items, ∃ s ∈ sources, ofSourceWithin? depth s = some j := by
  induction sources generalizing items with
  | nil => cases h; exact List.forall_mem_nil _
  | cons s sources ih =>
    simp only [itemsWithin?, Option.bind_eq_bind, Option.pure_def, Option.bind_eq_some_iff] at h
    obtain ⟨i, hi, is, his, hitems⟩ := h
    cases hitems
    refine List.forall_mem_cons.2 ⟨⟨s, List.mem_cons_self, hi⟩, fun j hj => ?_⟩
    obtain ⟨s', hs', hj⟩ := ih his j hj
    exact ⟨s', List.mem_cons_of_mem _ hs', hj⟩

theorem of_mem_entriesWithin? {depth : Nat} {sources : List (Option String × Source)}
    {entries : List (String × Json)} (h : entriesWithin? depth sources = some entries) :
    ∀ e ∈ entries, ∃ s ∈ sources, ofSourceWithin? depth s.2 = some e.2 := by
  induction sources generalizing entries with
  | nil => cases h; exact List.forall_mem_nil _
  | cons s sources ih =>
    simp only [entriesWithin?, Option.bind_eq_bind, Option.pure_def, Option.bind_eq_some_iff] at h
    obtain ⟨key, -, i, hi, es, hes, hentries⟩ := h
    cases hentries
    refine List.forall_mem_cons.2 ⟨⟨s, List.mem_cons_self, hi⟩, fun e he => ?_⟩
    obtain ⟨s', hs', he⟩ := ih hes e he
    exact ⟨s', List.mem_cons_of_mem _ hs', he⟩

theorem hasDistinctKeys_of_ofSourceWithin? {depth : Nat} {s : Source} {j : Json}
    (h : ofSourceWithin? depth s = some j) : j.HasDistinctKeys := by
  induction s generalizing depth j with
  | null => cases h; exact .null
  | bool b => cases h; exact .bool b
  | number n =>
    rw [ofSourceWithin?, Numeral.value?] at h
    split at h
    · cases h; exact .integer _
    · obtain ⟨x, -, rfl⟩ := Option.map_eq_some_iff.1 h
      exact .float x
  | string text =>
    obtain ⟨text, -, rfl⟩ := Option.map_eq_some_iff.1 h
    exact .string text
  | array sources ih =>
    cases depth with
    | zero => cases h
    | succ depth =>
      obtain ⟨items, hitems, rfl⟩ := Option.map_eq_some_iff.1 h
      refine .array fun j hj => ?_
      obtain ⟨s, hs, hread⟩ := of_mem_itemsWithin? hitems j hj
      exact ih s hs hread
  | object sources ih =>
    cases depth with
    | zero => cases h
    | succ depth =>
      obtain ⟨entries, hentries, rfl⟩ := Option.map_eq_some_iff.1 h
      refine .object (Entries.nodup_distinct entries) fun e he => ?_
      obtain ⟨s, hs, hread⟩ := of_mem_entriesWithin? hentries e (Entries.mem_of_mem_distinct he)
      exact ih s hs hread

/-- **No object that is read from a text repeats a key**, whatever the text repeats. -/
theorem hasDistinctKeys_of_ofText? {text : String} {j : Json} (h : ofText? text = some j) :
    j.HasDistinctKeys := by
  obtain ⟨s, -, hread⟩ := Option.bind_eq_some_iff.1 h
  exact hasDistinctKeys_of_ofSourceWithin? hread

/-! ## Zeros -/

/-- The two zeros read back, each with its sign. -/
theorem readsBack_of_isZero {x : Binary64} (h : x.isZero = true) : ReadsBack x := by
  intro n hn
  obtain rfl | rfl := Binary64.eq_of_isZero h
  · have hzero : Numeral.ofChars? (floatChars ⟨0⟩) = some ⟨false, ['0'], some ['0'], none⟩ := by
      decide
    cases hzero.symm.trans hn
    decide
  · have hzero : Numeral.ofChars? (floatChars ⟨0x8000000000000000⟩) =
        some ⟨true, ['0'], some ['0'], none⟩ := by
      decide
    cases hzero.symm.trans hn
    decide

end QuerySql.Json
