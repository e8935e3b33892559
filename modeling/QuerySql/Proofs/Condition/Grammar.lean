/-
  Conditions as a grammar.

  ```text
  alternatives := terms (' OR ' terms)*
  terms        := term (' AND ' term)*
  term         := test | '(' alternatives ')'
  ```

  * `Derives` is this grammar, with the tests of some columns;
  * a list of tokens is `Complete` if no AND, OR or parenthesis in it lacks what
    should stand beside it.  Every text that can be derived is
    (`Derives.complete`), and so is the text of a filter only if it is solid;
  * `Filter.derives_condition_iff`: the condition of a filter that has been read
    can be derived if and only if members and like groups have entries
    everywhere.
-/
import QuerySql.Proofs.Condition.Text
import QuerySql.Proofs.Filter.Reading
import QuerySql.Proofs.Sql.Expression

namespace QuerySql

open Sql (Connective Token)

namespace Sql

/-- What a text is derived from. -/
inductive Nonterminal where
  | term
  | terms
  | alternatives

/-- The texts that the grammar derives, with tests of the columns. -/
inductive Derives (columns : List String) : Nonterminal → String → Prop
  | test (t : Test) (h : t.column ∈ columns) : Derives columns .term t.text
  | enclosed {s} (h : Derives columns .alternatives s) : Derives columns .term ("(" ++ s ++ ")")
  | single {s} (h : Derives columns .term s) : Derives columns .terms s
  | and {s t} (h : Derives columns .term s) (h' : Derives columns .terms t) :
    Derives columns .terms (s ++ " AND " ++ t)
  | alternative {s} (h : Derives columns .terms s) : Derives columns .alternatives s
  | or {s t} (h : Derives columns .terms s) (h' : Derives columns .alternatives t) :
    Derives columns .alternatives (s ++ " OR " ++ t)

namespace Derives
variable {columns : List String}

/-- Terms may be appended to terms. -/
theorem append {s t : String} (h : Derives columns .terms s) (h' : Derives columns .terms t) :
    Derives columns .terms (s ++ " AND " ++ t) := by
  generalize hn : Nonterminal.terms = n at h
  induction h with
  | test | enclosed | alternative | or => cases hn
  | single h => exact .and h h'
  | and h _ _ ih =>
    have := Derives.and h (ih rfl)
    simpa [String.append_assoc] using this

theorem join_and {texts : List String} (hne : texts ≠ [])
    (h : ∀ s ∈ texts, Derives columns .terms s) :
    Derives columns .terms (Connective.and.joiner.intercalate texts) := by
  induction texts with
  | nil => exact absurd rfl hne
  | cons s texts ih =>
    obtain ⟨hs, htexts⟩ := List.forall_mem_cons.1 h
    cases texts with
    | nil => simpa using hs
    | cons t texts =>
      rw [String.intercalate_cons_cons]
      exact hs.append (ih (List.cons_ne_nil _ _) htexts)

theorem join_or {texts : List String} (hne : texts ≠ [])
    (h : ∀ s ∈ texts, Derives columns .terms s) :
    Derives columns .alternatives (Connective.or.joiner.intercalate texts) := by
  induction texts with
  | nil => exact absurd rfl hne
  | cons s texts ih =>
    obtain ⟨hs, htexts⟩ := List.forall_mem_cons.1 h
    cases texts with
    | nil => simpa using hs.alternative
    | cons t texts =>
      rw [String.intercalate_cons_cons]
      exact .or hs (ih (List.cons_ne_nil _ _) htexts)

theorem group (k : Connective) {texts : List String} (hne : texts ≠ [])
    (h : ∀ s ∈ texts, Derives columns .terms s) :
    Derives columns .terms ("(" ++ k.joiner.intercalate texts ++ ")") := by
  cases k with
  | and => exact .single (.enclosed (.alternative (join_and hne h)))
  | or => exact .single (.enclosed (join_or hne h))

end Derives

/-! ## Complete token lists -/

/-- Behind the token a term must stand. -/
def Token.startsTerm (t : Token) : Bool :=
  t = .keyword "AND" || t = .keyword "OR" || t = .mark '('

/-- No term is missing between the tokens. -/
def Adjoins (t u : Token) : Prop := ¬ (t.startsTerm = true ∧ u.endsTerm = true)

/-- Between parentheses, no term is missing anywhere. -/
def Complete (ts : List Token) : Prop := List.IsChain Adjoins (.mark '(' :: (ts ++ [.mark ')']))

theorem isChain_cons_congr {a b : Token} {ts : List Token} (h : a.startsTerm = b.startsTerm) :
    List.IsChain Adjoins (a :: ts) ↔ List.IsChain Adjoins (b :: ts) := by
  simp [List.isChain_cons, Adjoins, h]

theorem isChain_concat_congr {a b : Token} {ts : List Token} (h : a.endsTerm = b.endsTerm) :
    List.IsChain Adjoins (ts ++ [a]) ↔ List.IsChain Adjoins (ts ++ [b]) := by
  simp [List.isChain_append, Adjoins, h]

theorem not_complete_nil : ¬ Complete [] := by
  intro h
  exact (List.isChain_pair.1 h) ⟨rfl, rfl⟩

theorem complete_append (k : Connective) (ts us : List Token) :
    Complete (ts ++ .keyword k.word :: us) ↔ Complete ts ∧ Complete us := by
  have hstart : (Token.keyword k.word).startsTerm = (Token.mark '(').startsTerm := by
    cases k <;> rfl
  have hend : (Token.keyword k.word).endsTerm = (Token.mark ')').endsTerm := by cases k <;> rfl
  rw [Complete, List.append_assoc, List.cons_append, List.isChain_cons_split,
    isChain_cons_congr hstart, ← List.cons_append, isChain_concat_congr hend]
  exact Iff.rfl

theorem complete_enclosed {ts : List Token} :
    Complete (.mark '(' :: (ts ++ [.mark ')'])) ↔ Complete ts := by
  have hopen : Adjoins (.mark '(') (.mark '(') := fun h => by cases h.2
  have hclose : Adjoins (.mark ')') (.mark ')') := fun h => by cases h.1
  rw [Complete, List.cons_append, List.isChain_cons_cons, List.append_assoc, List.cons_append,
    List.isChain_cons_split]
  exact ⟨fun h => h.2.1, fun h => ⟨hopen, h, List.isChain_pair.2 hclose⟩⟩

theorem isChain_of_not_startsTerm {ts us : List Token} (hts : ∀ t ∈ ts, t.startsTerm = false)
    (hus : List.IsChain Adjoins us) : List.IsChain Adjoins (ts ++ us) := by
  induction ts with
  | nil => exact hus
  | cons t ts ih =>
    obtain ⟨ht, hts⟩ := List.forall_mem_cons.1 hts
    rw [List.cons_append, List.isChain_cons]
    refine ⟨fun u _ h => ?_, ih hts⟩
    rw [ht] at h
    cases h.1

/-- Where a name stands first and nothing starts a term, none is missing. -/
theorem isChain_name {n : List Char} {ts us : List Token} (hts : ∀ t ∈ ts, t.startsTerm = false)
    (hus : List.IsChain Adjoins us) :
    List.IsChain Adjoins (.mark '(' :: (.name n :: ts ++ us)) := by
  have hname : Adjoins (.mark '(') (.name n) := fun h => by cases h.2
  rw [List.cons_append, List.isChain_cons_cons, ← List.cons_append]
  exact ⟨hname, isChain_of_not_startsTerm (List.forall_mem_cons.2 ⟨rfl, hts⟩) hus⟩

theorem Literal.not_startsTerm (l : Literal) : l.token.startsTerm = false := by
  have hplain := Expression.plain_of_isOperand l.isOperand_token
  simp only [Token.endsTerm, Token.startsTerm, Bool.or_eq_false_iff, decide_eq_false_iff_not]
    at hplain ⊢
  exact ⟨hplain.1.1, hplain.2⟩

theorem Test.complete_tokens (t : Test) : Complete t.tokens := by
  have hlast : List.IsChain Adjoins [.mark ')'] := List.isChain_singleton _
  cases t with
  | isNull c negated => exact isChain_name (by cases negated <;> decide) hlast
  | compares c op l =>
    refine isChain_name (List.forall_mem_append.2 ⟨by cases op <;> decide, ?_⟩) hlast
    exact List.forall_mem_singleton.2 l.not_startsTerm
  | isIn c negated l ls =>
    have hitems : ∀ t ∈ operandTokens (l :: ls), t.startsTerm = false := by
      refine forall_mem_intercalate (by decide) fun x hx => ?_
      obtain ⟨l', -, rfl⟩ := List.mem_map.1 hx
      exact List.forall_mem_singleton.2 l'.not_startsTerm
    have hfirst : Adjoins (.mark '(') l.token := fun h => by
      have hplain := Expression.plain_of_isOperand l.isOperand_token
      rw [hplain.1] at h
      cases h.2
    have hlist : List.IsChain Adjoins
        (.mark '(' :: (operandTokens (l :: ls) ++ [.mark ')', .mark ')'])) := by
      have hclose : List.IsChain Adjoins [Token.mark ')', .mark ')'] :=
        List.isChain_pair.2 fun h => by cases h.1
      obtain ⟨ts, hts⟩ := operandTokens_cons l ls
      have hrest := isChain_of_not_startsTerm hitems hclose
      rw [hts] at hrest ⊢
      exact List.isChain_cons_cons.2 ⟨hfirst, hrest⟩
    have hwords : ∀ t ∈ listWords negated, t.startsTerm = false := by cases negated <;> decide
    have hall := isChain_name (n := Text.doubleQuotes c.toList) hwords hlist
    simpa [Complete, tokens, columnToken, listTokens] using hall

/-- **What the grammar derives is complete.** -/
theorem Derives.complete {columns : List String} {n : Nonterminal} {s : String}
    (h : Derives columns n s) (hcolumn : ∀ c ∈ columns, ']' ∉ c.toList) :
    ∃ ts, tokens? s.toList = some ts ∧ Complete ts := by
  induction h with
  | test t h => exact ⟨t.tokens, t.tokens?_text (hcolumn _ h), t.complete_tokens⟩
  | enclosed _ ih =>
    obtain ⟨ts, hts, hcomplete⟩ := ih
    exact ⟨_, tokens?_enclosed hts, complete_enclosed.2 hcomplete⟩
  | single _ ih | alternative _ ih => exact ih
  | and _ _ ih ih' =>
    obtain ⟨ts, hts, hcomplete⟩ := ih
    obtain ⟨us, hus, hcomplete'⟩ := ih'
    exact ⟨_, Connective.and.tokens?_between hts hus,
      (complete_append .and ts us).2 ⟨hcomplete, hcomplete'⟩⟩
  | or _ _ ih ih' =>
    obtain ⟨ts, hts, hcomplete⟩ := ih
    obtain ⟨us, hus, hcomplete'⟩ := ih'
    exact ⟨_, Connective.or.tokens?_between hts hus,
      (complete_append .or ts us).2 ⟨hcomplete, hcomplete'⟩⟩

theorem complete_joinTokens {k : Connective} {parts : List (List Token)}
    (h : Complete (k.joinTokens parts)) : parts ≠ [] ∧ ∀ ts ∈ parts, Complete ts := by
  induction parts with
  | nil => exact absurd h not_complete_nil
  | cons ts parts ih =>
    refine ⟨List.cons_ne_nil _ _, ?_⟩
    cases parts with
    | nil => simpa [Connective.joinTokens] using h
    | cons us parts =>
      rw [Connective.joinTokens_cons_cons, complete_append] at h
      exact List.forall_mem_cons.2 ⟨h.1, (ih h.2).2⟩

end Sql

/-! ## Filters -/

open Sql (Complete Derives)

/-- The columns of the leaves of a filter. -/
abbrev Filter.columns (f : Filter) : List String := (f.render .leaves).map Leaf.column

/-- **The text of a solid filter can be derived.** -/
theorem Filter.derives_text {f : Filter} (h : f.render .solidity) :
    Derives f.columns .terms (f.render .text) := by
  have hsolid : False ∨ f.render .solidity := Or.inr h
  refine f.render_of_parts (L := .text) (P := Derives f.columns .terms) hsolid
    ?joined ?group ?leaf
  case joined =>
    intro texts hne h
    exact Derives.join_and hne h
  case group =>
    intro k texts hne h
    exact Derives.group k hne h
  case leaf =>
    intro l hl
    refine .single (.test l.test ?_)
    rw [Leaf.column_test]
    exact List.mem_map_of_mem hl

/-- **Only a solid filter has complete tokens.** -/
theorem Filter.solidity_of_complete {f : Filter} (h : Complete (f.render .tokens)) :
    f.render .solidity := by
  have hparts : ∀ {ps : List Prop} {k : Connective} {xs : List (List Token)},
      List.Forall₂ (fun p ts => Complete ts → p) ps xs → Complete (k.joinTokens xs) →
      ps ≠ [] ∧ ∀ p ∈ ps, p := by
    intro ps k xs h hcomplete
    obtain ⟨hne, hxs⟩ := Sql.complete_joinTokens hcomplete
    refine ⟨?_, ?_⟩
    · rintro rfl
      cases h
      exact hne rfl
    · clear hcomplete hne
      induction h with
      | nil => exact List.forall_mem_nil _
      | cons hp _ ih =>
        obtain ⟨hx, hxs⟩ := List.forall_mem_cons.1 hxs
        exact List.forall_mem_cons.2 ⟨hp hx, ih hxs⟩
  have hrelated : Layout.solidity.Related True Layout.tokens fun p ts => Complete ts → p := by
    constructor
    · intro ps xs _ h hcomplete
      exact hparts h hcomplete
    · intro k ps xs _ h hcomplete
      exact hparts h (Sql.complete_enclosed.1 hcomplete)
  exact f.related hrelated (Or.inl trivial) (fun _ _ _ => trivial) h

/-- Members are solid if they have predicates and these are filled. -/
theorem Filter.members_solidity_iff {members : List Filter} (hne : members ≠ [])
    (h : ∀ f ∈ members, ∀ p ∈ f, p.render .solidity ↔ p.Everywhere Predicate.IsFilled) :
    (members ≠ [] ∧ ∀ f ∈ members, f.render .solidity) ↔
      (∀ f ∈ members, f ≠ []) ∧ ∀ f ∈ members, ∀ p ∈ f, p.Everywhere Predicate.IsFilled := by
  constructor
  · rintro ⟨-, hs⟩
    constructor
    · intro f hf
      exact (solidity_iff.1 (hs f hf)).1
    · intro f hf p hp
      exact (h f hf p hp).1 ((solidity_iff.1 (hs f hf)).2 p hp)
  · rintro ⟨hpredicates, hfilled⟩
    refine ⟨hne, ?_⟩
    intro f hf
    refine solidity_iff.2 ⟨hpredicates f hf, ?_⟩
    intro p hp
    exact (h f hf p hp).2 (hfilled f hf p hp)

/-- A checked predicate is solid if it is filled everywhere. -/
theorem Predicate.solidity_iff {p : Predicate} (h : p.Everywhere IsChecked) :
    p.render .solidity ↔ p.Everywhere IsFilled := by
  induction p with
  | equals | isIn => exact iff_of_true trivial (.intro trivial nofun)
  | compares c tests =>
    obtain ⟨hne, -⟩ := everywhere_iff.1 h
    refine iff_of_true ?_ (.intro trivial nofun)
    exact Layout.solidity_map.2 ⟨hne, fun _ _ => trivial⟩
  | like patterns =>
    rw [everywhere_iff]
    exact Layout.solidity_map.trans
      ⟨fun h => ⟨h.1, nofun⟩, fun h => ⟨h.1, fun _ _ => trivial⟩⟩
  | all members ih | any members ih =>
    obtain ⟨hne, hinside⟩ := everywhere_iff.1 h
    rw [everywhere_iff, render, solidity_group]
    exact Filter.members_solidity_iff hne fun f hf p hp => ih f hf p hp (hinside f hf p hp)

/-- **Exactly the filters without empty members and empty like groups have
    conditions that can be derived.**  The condition of a filter that has been
    read from an object with entries can be derived if the members of its groups
    and the objects under `like` have entries.  If they do not, it cannot be
    derived with tests of the same columns, as long as these have no closing
    bracket. -/
theorem Filter.derives_condition_iff {entries : List (String × Value)} (hentries : entries ≠ [])
    {f : Filter} (hread : ofValue (.object entries) = .ok f) {r s : Recorder} {text : String}
    (htext : f.condition.outcome r = (.ok text, s)) :
    ((∀ p ∈ f, p.Everywhere Predicate.IsFilled) → Derives f.columns .alternatives text) ∧
    ((∀ c ∈ f.columns, ']' ∉ c.toList) → Derives f.columns .alternatives text →
      ∀ p ∈ f, p.Everywhere Predicate.IsFilled) := by
  obtain ⟨-, rfl⟩ := f.condition_settles.of_outcome_eq htext
  have hchecked := (Predicate.everywhere_isChecked (.object entries)).2 f hread
  have hne : f ≠ [] := by
    rintro rfl
    exact hentries (List.length_eq_zero_iff.1 (length_ofValue hread).symm)
  constructor
  · intro hfilled
    have hsolid : f.render .solidity := by
      refine solidity_iff.2 ⟨hne, ?_⟩
      intro p hp
      exact (Predicate.solidity_iff (hchecked p hp)).2 (hfilled p hp)
    exact (derives_text hsolid).alternative
  · intro hcolumn hderives p hp
    obtain ⟨ts, hts, hcomplete⟩ := hderives.complete hcolumn
    have htokens := tokens?_text (f := f) fun l hl => hcolumn _ (List.mem_map_of_mem hl)
    rw [hts] at htokens
    cases htokens
    have hsolid := solidity_of_complete hcomplete
    exact (Predicate.solidity_iff (hchecked p hp)).1 ((solidity_iff.1 hsolid).2 p hp)

/-- An empty member of a group is written as nothing between parentheses. -/
theorem Filter.derives_condition_iff_empty_member :
    ofValue (.object [("or", .array [.object []])]) = .ok [.any [[]]] ∧
    (condition [.any [[]]]).outcome {} = (.ok "()", {}) ∧ ¬ Derives [] .alternatives "()" := by
  have hread : ofValue (.object [("or", .array [.object []])]) = .ok [.any [[]]] := by rfl
  have htext : (condition [.any [[]]]).outcome {} = (.ok "()", {}) := by rfl
  refine ⟨hread, htext, fun h => ?_⟩
  have hfilled := (derives_condition_iff (List.cons_ne_nil _ _) hread htext).2 nofun h
  obtain ⟨hmembers, -⟩ := Predicate.everywhere_iff.1 (hfilled _ List.mem_cons_self)
  exact hmembers [] List.mem_cons_self rfl

end QuerySql
