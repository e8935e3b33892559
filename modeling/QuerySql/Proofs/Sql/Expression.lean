/-
  Boolean expressions read from tokens.

  ```text
  expression := terms (OR terms)*
  terms      := term (AND term)*
  term       := test | ( expression )
  ```

  The tokens are read from left to right (`Expression.step`).  Parentheses are
  kept on a stack of levels, and each `Level` holds the alternatives that are
  complete and the terms that have been read since.  The parentheses around the
  list of a test belong to the test.

  * `isTest` says which tokens make up a test; those of `Test.tokens` do;
  * `Expression.parse?` is the expression that the tokens are read as;
  * `Expression.fold` follows an expression, and with it `Expression.tests` are
    its tests in order and `Expression.meaning` is what it means.
-/
import QuerySql.Proofs.Sql.Test
import QuerySql.Proofs.Sql.Connective

namespace QuerySql.Sql

/-- A part of a boolean expression: a test, or alternatives in parentheses, each
    of them a list of terms that must all hold. -/
inductive Term where
  | test (tokens : List Token)
  | group (alternatives : List (List Term))

/-- Alternatives, each of them a list of terms that must all hold. -/
abbrev Expression := List (List Term)

/-! ## Folds -/

section

variable {β : Type} (leaf : List Token → β) (join : Connective → List β → β)

mutual

/-- What is made of a term, its tests first. -/
def Term.fold : Term → β
  | .test ts => leaf ts
  | .group alternatives => join .or (Term.foldAlternatives alternatives)

/-- What is made of the alternatives of an expression. -/
def Term.foldAlternatives : List (List Term) → List β
  | [] => []
  | terms :: rest => join .and (Term.foldTerms terms) :: Term.foldAlternatives rest

/-- What is made of each of several terms. -/
def Term.foldTerms : List Term → List β
  | [] => []
  | t :: rest => t.fold :: Term.foldTerms rest

end

/-- What is made of an expression. -/
def Expression.fold (e : Expression) : β := join .or (Term.foldAlternatives leaf join e)

theorem Term.foldTerms_eq (terms : List Term) :
    Term.foldTerms leaf join terms = terms.map (Term.fold leaf join) := by
  induction terms with
  | nil => rfl
  | cons t terms ih => rw [Term.foldTerms, ih, List.map_cons]

theorem Term.foldAlternatives_eq (alternatives : List (List Term)) :
    Term.foldAlternatives leaf join alternatives =
      alternatives.map fun terms => join .and (terms.map (Term.fold leaf join)) := by
  induction alternatives with
  | nil => rfl
  | cons terms rest ih => rw [Term.foldAlternatives, ih, Term.foldTerms_eq, List.map_cons]

end

/-- The tests of an expression, in order. -/
def Expression.tests (e : Expression) : List (List Token) :=
  e.fold (fun ts => [ts]) fun _ => List.flatten

/-- What an expression means. -/
def Expression.meaning (e : Expression) : Meaning := e.fold (fun _ => .leaf) Meaning.join

/-! ## Tests -/

/-- Words with a meaning of their own. -/
def reservedWords : List (List Char) :=
  ["AND", "OR", "NOT", "IN", "IS", "LIKE"].map String.toList

/-- A value in T-SQL: a string, or any word that is not reserved. -/
def Token.isOperand : Token → Bool
  | .string _ => true
  | .word w => !reservedWords.contains w
  | .name _ | .mark _ => false

/-- Values with commas between them, and a closing parenthesis. -/
def isOperandList : List Token → Bool
  | [t, .mark ')'] => t.isOperand
  | t :: .mark ',' :: rest => t.isOperand && isOperandList rest
  | _ => false

/-- The tokens are a single value. -/
def isOperand : List Token → Bool
  | [t] => t.isOperand
  | _ => false

/-- The operators that a test may have. -/
def Operator.all : List Operator :=
  [.equal, .less, .lessOrEqual, .greater, .greaterOrEqual, .different, .like]

/-- The tokens are `first` and what `rest` accepts behind it. -/
def startsWith (first : List Token) (rest : List Token → Bool) (ts : List Token) : Bool :=
  first.isPrefixOf ts && rest (ts.drop first.length)

/-- The tokens make up a test of a column. -/
def isTest : List Token → Bool
  | .name _ :: ts =>
    [false, true].any (fun negated => ts == Test.nullTokens negated)
      || [false, true].any (fun negated => startsWith (Test.listTokens negated) isOperandList ts)
      || Operator.all.any fun op => startsWith op.tokens isOperand ts
  | _ => false

theorem startsWith_append (first : List Token) {rest : List Token → Bool} {ts : List Token}
    (h : rest ts = true) :
    startsWith first rest (first ++ ts) = true := by
  simp [startsWith, h]

theorem Literal.isOperand_token (l : Literal) : l.token.isOperand = true := by
  cases l with
  | word w bare =>
    have hw : w ∉ reservedWords := by
      intro hw
      have hkey : ∀ k ∈ reservedWords, k ∉ specialWords ∧ ∀ c ∈ k.head?, isNumeric c = false := by
        simp [reservedWords, specialWords, isNumeric]
      exact bare.ne_keyword (hkey w hw).1 (hkey w hw).2 rfl
    simpa [token, Token.isOperand] using hw
  | string s => rfl

theorem isOperandList_operandTokens (l : Literal) (ls : List Literal) :
    isOperandList (Test.operandTokens (l :: ls) ++ [.mark ')']) = true := by
  induction ls generalizing l with
  | nil => simpa [Test.operandTokens, isOperandList] using l.isOperand_token
  | cons l' ls ih =>
    have hrest := ih l'
    simp only [Test.operandTokens, List.map_cons, List.intercalate_cons_cons] at hrest ⊢
    simpa [isOperandList, l.isOperand_token] using hrest

/-- **The tokens of a test make up a test.** -/
theorem Test.isTest_tokens (t : Test) : isTest t.tokens = true := by
  cases t with
  | isNull c negated => cases negated <;> simp [tokens, columnToken, isTest]
  | compares c op l =>
    have hoperand : isOperand [l.token] = true := l.isOperand_token
    have h := startsWith_append op.tokens hoperand
    have hop : op ∈ Operator.all := by cases op <;> decide
    simp only [tokens, columnToken, isTest, Bool.or_eq_true, List.any_eq_true]
    exact Or.inr ⟨op, hop, h⟩
  | isIn c negated l ls =>
    have h := startsWith_append (listTokens negated) (isOperandList_operandTokens l ls)
    simp only [tokens, columnToken, isTest, Bool.or_eq_true, List.any_eq_true]
    exact Or.inl (Or.inr ⟨negated, by cases negated <;> decide, by simpa using h⟩)

/-! ## Reading -/

/-- What has been read between two parentheses. -/
structure Level where
  alternatives : List (List Term) := []
  /-- the terms behind the last OR -/
  terms : List Term := []

/-- The expression of a level that is complete. -/
def Level.expression (l : Level) : Expression := l.alternatives ++ [l.terms]

/-- What has been read of an expression, in open parentheses. -/
structure Stack where
  level : Level := {}
  outer : List Level := []

namespace Stack

/-- The stack after more terms. -/
def push (s : Stack) (terms : List Term) : Stack :=
  { s with level := { s.level with terms := s.level.terms ++ terms } }

/-- The stack after an OR. -/
def next (s : Stack) : Stack := { s with level := ⟨s.level.expression, []⟩ }

/-- The stack after an opening parenthesis. -/
def enter (s : Stack) : Stack := ⟨{}, s.level :: s.outer⟩

/-- The stack after a closing parenthesis, if it closes an open one. -/
def leave? (s : Stack) : Option Stack :=
  match s.outer with
  | [] => none
  | level :: outer => some (push ⟨level, outer⟩ [.group s.level.expression])

@[simp] theorem push_outer (s : Stack) (terms : List Term) : (s.push terms).outer = s.outer := rfl

@[simp] theorem push_expression (s : Stack) (terms : List Term) :
    (s.push terms).level.expression = s.level.alternatives ++ [s.level.terms ++ terms] := rfl

@[simp] theorem next_outer (s : Stack) : s.next.outer = s.outer := rfl

@[simp] theorem next_alternatives (s : Stack) : s.next.level.alternatives = s.level.expression :=
  rfl

@[simp] theorem next_terms (s : Stack) : s.next.level.terms = [] := rfl

theorem push_push (s : Stack) (xs ys : List Term) : (s.push xs).push ys = s.push (xs ++ ys) := by
  simp [push]

end Stack

/-- What is read next. -/
inductive Phase where
  /-- the start of a term -/
  | term
  /-- the rest of a test, with what has been read of it -/
  | test (read : List Token)
  /-- the rest of the list of a test -/
  | list (read : List Token)
  /-- what follows a term -/
  | connective

/-- Tokens behind a term. -/
def Token.endsTerm (t : Token) : Bool :=
  t = .keyword "AND" || t = .keyword "OR" || t = .mark ')'

namespace Expression

/-- The stack with one more test. -/
def pushTest? (s : Stack) (read : List Token) : Option Stack :=
  if isTest read then some (s.push [.test read]) else none

/-- What a token behind a term does. -/
def afterTerm (s : Stack) (t : Token) : Option (Phase × Stack) :=
  if t = .keyword "AND" then some (.term, s)
  else if t = .keyword "OR" then some (.term, s.next)
  else if t = .mark ')' then s.leave?.map (.connective, ·)
  else none

/-- What a token does. -/
def step : Phase × Stack → Token → Option (Phase × Stack)
  | (.term, s), .mark '(' => some (.term, s.enter)
  | (.term, s), .name n => some (.test [.name n], s)
  | (.term, _), _ => none
  | (.test read, s), t =>
    if t.endsTerm then (pushTest? s read).bind (afterTerm · t)
    else if t = .mark '(' then some (.list (read ++ [t]), s)
    else some (.test (read ++ [t]), s)
  | (.list read, s), t =>
    if t = .mark ')' then (pushTest? s (read ++ [t])).map (.connective, ·)
    else some (.list (read ++ [t]), s)
  | (.connective, s), t => afterTerm s t

/-- The stack if a term may end here. -/
def settle? : Phase × Stack → Option Stack
  | (.test read, s) => pushTest? s read
  | (.connective, s) => some s
  | (.term, _) | (.list _, _) => none

/-- The expression that the tokens are read as. -/
def parse? (ts : List Token) : Option Expression :=
  (ts.foldlM step (.term, {})).bind settle? |>.bind fun s =>
    if s.outer.isEmpty then some s.level.expression else none

/-- Reading the tokens where a term may start leads to `s'`, where a term may end. -/
def Reads (s : Stack) (ts : List Token) (s' : Stack) : Prop :=
  (ts.foldlM step (.term, s)).bind settle? = some s'

theorem step_of_settles {q : Phase × Stack} {s : Stack} {t : Token} (hq : settle? q = some s)
    (ht : t.endsTerm = true) : step q t = afterTerm s t := by
  obtain ⟨phase, s₀⟩ := q
  cases phase with
  | term | list => simp [settle?] at hq
  | test read =>
    have hpush : pushTest? s₀ read = some s := hq
    simp [step, ht, hpush]
  | connective => cases hq; rfl

/-- Reading goes on behind a term. -/
theorem Reads.foldlM_append {s s' : Stack} {ts us : List Token} {t : Token} (h : Reads s ts s')
    (ht : t.endsTerm = true) :
    (ts ++ t :: us).foldlM step (.term, s) = (afterTerm s' t).bind fun q => us.foldlM step q := by
  obtain ⟨q, hq, hs⟩ := Option.bind_eq_some_iff.1 h
  rw [List.foldlM_append, hq, ← step_of_settles hs ht]
  rfl

/-! ### Tests -/

theorem foldlM_test {read ts : List Token} {s : Stack}
    (h : ∀ t ∈ ts, t.endsTerm = false ∧ t ≠ .mark '(') :
    ts.foldlM step (.test read, s) = some (.test (read ++ ts), s) := by
  induction ts generalizing read with
  | nil => simp
  | cons t ts ih =>
    obtain ⟨⟨hends, hopen⟩, hts⟩ := List.forall_mem_cons.1 h
    have hstep : step (.test read, s) t = some (.test (read ++ [t]), s) := by
      simp [step, hends, hopen]
    simp [List.foldlM_cons, hstep, ih hts]

theorem foldlM_list {read ts : List Token} {s : Stack} (h : ∀ t ∈ ts, t ≠ .mark ')') :
    ts.foldlM step (.list read, s) = some (.list (read ++ ts), s) := by
  induction ts generalizing read with
  | nil => simp
  | cons t ts ih =>
    obtain ⟨hclose, hts⟩ := List.forall_mem_cons.1 h
    have hstep : step (.list read, s) t = some (.list (read ++ [t]), s) := by
      simp [step, hclose]
    simp [List.foldlM_cons, hstep, ih hts]

theorem plain_of_isOperand {t : Token} (h : t.isOperand = true) :
    t.endsTerm = false ∧ t ≠ .mark '(' := by
  cases t with
  | string s => simp [Token.endsTerm, Token.keyword]
  | word w =>
    have hw : w ∉ reservedWords := by simpa [Token.isOperand] using h
    have hne : ∀ k ∈ reservedWords, w ≠ k := fun k hk hwk => hw (hwk ▸ hk)
    have hand : w ≠ ['A', 'N', 'D'] := hne _ (by decide)
    have hor : w ≠ ['O', 'R'] := hne _ (by decide)
    simp [Token.endsTerm, Token.keyword, hand, hor]
  | name | mark => cases h

/-- A test without a list ends where its term ends. -/
theorem reads_plain {n : List Char} {ts : List Token} (htest : isTest (.name n :: ts) = true)
    (h : ∀ t ∈ ts, t.endsTerm = false ∧ t ≠ .mark '(') (s : Stack) :
    Reads s (.name n :: ts) (s.push [.test (.name n :: ts)]) := by
  have hrun : (Token.name n :: ts).foldlM step (.term, s) = some (.test (.name n :: ts), s) :=
    foldlM_test h
  simp [Reads, hrun, settle?, pushTest?, htest]

/-- A test with a list ends at the parenthesis that closes the list. -/
theorem reads_list {n : List Char} {ts us : List Token}
    (htest : isTest (.name n :: (ts ++ [.mark '('] ++ us ++ [.mark ')'])) = true)
    (hts : ∀ t ∈ ts, t.endsTerm = false ∧ t ≠ .mark '(') (hus : ∀ t ∈ us, t ≠ .mark ')')
    (s : Stack) :
    Reads s (.name n :: (ts ++ [.mark '('] ++ us ++ [.mark ')']))
      (s.push [.test (.name n :: (ts ++ [.mark '('] ++ us ++ [.mark ')']))]) := by
  have hhead : (Token.name n :: (ts ++ [.mark '('])).foldlM step (.term, s) =
      some (.list (.name n :: (ts ++ [.mark '('])), s) := by
    have htests : (Token.name n :: ts).foldlM step (.term, s) = some (.test (.name n :: ts), s) :=
      foldlM_test hts
    rw [← List.cons_append, List.foldlM_append, htests]
    rfl
  have hclose : step (.list (.name n :: (ts ++ [.mark '('] ++ us)), s) (.mark ')') =
      some (.connective, s.push [.test (.name n :: (ts ++ [.mark '('] ++ us ++ [.mark ')']))]) := by
    simp only [step, if_pos, pushTest?, List.cons_append, htest]
    rfl
  have hrun : (Token.name n :: (ts ++ [.mark '('] ++ us ++ [.mark ')'])).foldlM step (.term, s) =
      some (.connective, s.push [.test (.name n :: (ts ++ [.mark '('] ++ us ++ [.mark ')']))]) := by
    rw [← List.cons_append, ← List.cons_append, List.foldlM_append, List.foldlM_append, hhead]
    simpa [foldlM_list hus] using hclose
  rw [Reads, hrun]
  rfl

theorem reads_test (t : Test) (s : Stack) : Reads s t.tokens (s.push [.test t.tokens]) := by
  have htest := t.isTest_tokens
  cases t with
  | isNull c negated =>
    refine reads_plain htest (fun t ht => ?_) s
    revert t
    cases negated <;> decide
  | compares c op l =>
    refine reads_plain htest (List.forall_mem_append.2 ⟨by cases op <;> decide, ?_⟩) s
    exact List.forall_mem_singleton.2 (plain_of_isOperand l.isOperand_token)
  | isIn c negated l ls =>
    have hwords : ∀ t ∈ Test.listWords negated, t.endsTerm = false ∧ t ≠ .mark '(' := by
      cases negated <;> decide
    have hitems : ∀ t ∈ Test.operandTokens (l :: ls), t ≠ .mark ')' := by
      refine forall_mem_intercalate (by decide) fun x hx => ?_
      obtain ⟨l', -, rfl⟩ := List.mem_map.1 hx
      refine List.forall_mem_singleton.2 ?_
      cases l' <;> simp [Literal.token]
    exact reads_list htest hwords hitems s

/-! ### Terms -/

/-- The tokens are read as the terms wherever a term may start. -/
def ReadAs (ts : List Token) (terms : List Term) : Prop := ∀ s, Reads s ts (s.push terms)

theorem Reads.trans {s s' s'' : Stack} {ts us : List Token} {t : Token} (h : Reads s ts s')
    (ht : t.endsTerm = true) (hstep : afterTerm s' t = some (.term, s''))
    {s₃ : Stack} (h' : Reads s'' us s₃) : Reads s (ts ++ t :: us) s₃ := by
  rw [Reads, h.foldlM_append ht, hstep]
  exact h'

theorem readAs_join_and {xs : List (List Token)} {ys : List (List Term)}
    (h : List.Forall₂ ReadAs xs ys) (hne : xs ≠ []) :
    ReadAs (Connective.and.joinTokens xs) ys.flatten := by
  induction h with
  | nil => exact absurd rfl hne
  | cons hfirst hrest ih =>
    intro s
    cases hrest with
    | nil => simpa [Connective.joinTokens] using hfirst s
    | cons hsecond hrest =>
      have htail := ih (List.cons_ne_nil _ _)
      rw [Connective.joinTokens_cons_cons, List.flatten_cons, ← Stack.push_push]
      exact (hfirst s).trans rfl rfl (htail _)

/-- Alternatives are added to those of the level. -/
theorem reads_join_or {xs : List (List Token)} {ys : List (List Term)}
    (h : List.Forall₂ ReadAs xs ys) (hne : xs ≠ []) {s : Stack} (hs : s.level.terms = []) :
    ∃ s', Reads s (Connective.or.joinTokens xs) s' ∧ s'.outer = s.outer ∧
      s'.level.expression = s.level.alternatives ++ ys := by
  induction h generalizing s with
  | nil => exact absurd rfl hne
  | @cons x y xs ys hfirst hrest ih =>
    cases hrest with
    | nil => exact ⟨s.push y, by simpa [Connective.joinTokens] using hfirst s, by simp [hs]⟩
    | cons hsecond hrest =>
      obtain ⟨s', htail, houter, hexpression⟩ :=
        ih (List.cons_ne_nil _ _) (s := (s.push y).next) rfl
      rw [Connective.joinTokens_cons_cons]
      exact ⟨s', (hfirst s).trans rfl rfl htail, houter, by simp [hexpression, hs]⟩

/-- The expression between the parentheses of a group. -/
def ofGroup : Connective → List (List Term) → Expression
  | .and, parts => [parts.flatten]
  | .or, parts => parts

/-- **A group is read as a single term.** -/
theorem readAs_group (k : Connective) {xs : List (List Token)} {ys : List (List Term)}
    (h : List.Forall₂ ReadAs xs ys) (hne : xs ≠ []) :
    ReadAs (.mark '(' :: (k.joinTokens xs ++ [.mark ')'])) [.group (ofGroup k ys)] := by
  intro s
  have hinner : ∃ s', Reads s.enter (k.joinTokens xs) s' ∧ s'.outer = s.level :: s.outer ∧
      s'.level.expression = ofGroup k ys := by
    cases k with
    | and => exact ⟨_, readAs_join_and h hne s.enter, rfl, rfl⟩
    | or => exact reads_join_or h hne (s := s.enter) rfl
  obtain ⟨s', hread, houter, hexpression⟩ := hinner
  have hleave : afterTerm s' (.mark ')') = some (.connective, s.push [.group (ofGroup k ys)]) := by
    have hmark : afterTerm s' (.mark ')') = s'.leave?.map (.connective, ·) := rfl
    rw [hmark, Stack.leave?, houter, hexpression]
    rfl
  have hrun : (k.joinTokens xs ++ [Token.mark ')']).foldlM step (.term, s.enter) =
      some (.connective, s.push [.group (ofGroup k ys)]) := by
    rw [hread.foldlM_append rfl, hleave]
    rfl
  have henter : (Token.mark '(' :: (k.joinTokens xs ++ [.mark ')'])).foldlM step (.term, s) =
      (k.joinTokens xs ++ [Token.mark ')']).foldlM step (.term, s.enter) := rfl
  rw [Reads, henter, hrun]
  rfl

/-- Tokens that are read as terms are read as the expression of these terms alone. -/
theorem parse?_of_readAs {ts : List Token} {terms : List Term} (h : ReadAs ts terms) :
    parse? ts = some [terms] := by
  have hread : (ts.foldlM step (.term, {})).bind settle? = some (Stack.push {} terms) := h {}
  rw [parse?, hread]
  rfl

/-- AND binds tighter than OR. -/
example : ((tokens? "[a]=1 AND [b]=2 OR [c]=3".toList).bind parse?).map (List.map List.length) =
    some [2, 1] := by rfl

end Expression

end QuerySql.Sql
