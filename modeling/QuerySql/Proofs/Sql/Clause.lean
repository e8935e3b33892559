/-
  The clauses of a SELECT.

  Each clause starts with a word of its own.  `clauses?` splits the tokens of a
  statement at these words, wherever they stand outside of names and strings, and
  `clauseTokens` puts the clauses one behind the other (`clauses?_clauseTokens`).
-/
import QuerySql.Proofs.Sql.Token

namespace QuerySql.Sql

/-- The clauses of a SELECT, in order. -/
inductive Clause where
  | selection
  | source
  | restriction
  | grouping
  | order
  | offset
  | fetch
deriving DecidableEq, Repr

namespace Clause

/-- The word that a clause starts with. -/
def word : Clause → String
  | selection => "SELECT"
  | source => "FROM"
  | restriction => "WHERE"
  | grouping => "GROUP"
  | order => "ORDER"
  | offset => "OFFSET"
  | fetch => "FETCH"

/-- The clauses in the order of a statement. -/
def all : List Clause := [selection, source, restriction, grouping, order, offset, fetch]

/-- The clause that a token starts. -/
def ofToken? (t : Token) : Option Clause := all.find? fun k => t = .keyword k.word

theorem mem_all (k : Clause) : k ∈ all := by cases k <;> decide

theorem ofToken?_keyword (k : Clause) : ofToken? (.keyword k.word) = some k := by
  cases k <;> decide

theorem ofToken?_eq_none {t : Token} : ofToken? t = none ↔ ∀ k : Clause, t ≠ .keyword k.word := by
  simp [ofToken?, mem_all]

end Clause

/-! ## Splitting -/

/-- The tokens in front of the first clause, and the clauses with what stands behind
    their words. -/
def splitClauses : List Token → List Token × List (Clause × List Token)
  | [] => ([], [])
  | t :: ts =>
    match Clause.ofToken? t with
    | none => (t :: (splitClauses ts).1, (splitClauses ts).2)
    | some k => ([], (k, (splitClauses ts).1) :: (splitClauses ts).2)

/-- The clauses of a statement that starts with one. -/
def clauses? (ts : List Token) : Option (List (Clause × List Token)) :=
  if (splitClauses ts).1.isEmpty then some (splitClauses ts).2 else none

/-- Clauses one behind the other. -/
def clauseTokens (parts : List (Clause × List Token)) : List Token :=
  parts.flatMap fun p => .keyword p.1.word :: p.2

theorem splitClauses_append {ts : List Token} (h : ∀ t ∈ ts, Clause.ofToken? t = none)
    (us : List Token) :
    splitClauses (ts ++ us) = (ts ++ (splitClauses us).1, (splitClauses us).2) := by
  induction ts with
  | nil => rfl
  | cons t ts ih =>
    obtain ⟨ht, hts⟩ := List.forall_mem_cons.1 h
    simp [splitClauses, ht, ih hts]

theorem splitClauses_clauseTokens {parts : List (Clause × List Token)}
    (h : ∀ p ∈ parts, ∀ t ∈ p.2, Clause.ofToken? t = none) :
    splitClauses (clauseTokens parts) = ([], parts) := by
  induction parts with
  | nil => rfl
  | cons p parts ih =>
    obtain ⟨hp, hparts⟩ := List.forall_mem_cons.1 h
    have hrest := ih hparts
    rw [clauseTokens] at hrest ⊢
    rw [List.flatMap_cons, List.cons_append, splitClauses, Clause.ofToken?_keyword,
      splitClauses_append hp, hrest]
    simp

/-- **Clauses are found again behind their words.** -/
theorem clauses?_clauseTokens {parts : List (Clause × List Token)}
    (h : ∀ p ∈ parts, ∀ t ∈ p.2, Clause.ofToken? t = none) :
    clauses? (clauseTokens parts) = some parts := by
  rw [clauses?, splitClauses_clauseTokens h]
  rfl

/-- A name and a string do not start a clause. -/
example : (tokens? "SELECT [FROM] FROM [t] WHERE [a]='GROUP'".toList).bind clauses? =
    some [(.selection, [.name "FROM".toList]), (.source, [.name ['t']]),
      (.restriction, [.name ['a'], .mark '=', .string "GROUP".toList])] := by decide +kernel

/-! ## Clauses in order -/

section

variable (part : Clause → List Token)

/-- The clauses that have tokens, in order. -/
def orderedClauses : List (Clause × List Token) :=
  (Clause.all.filter fun k => !(part k).isEmpty).map fun k => (k, part k)

/-- The tokens of a clause with its word, if it has any. -/
def worded (k : Clause) : List Token :=
  if (part k).isEmpty then [] else .keyword k.word :: part k

variable {part}

theorem worded_of_eq_nil {k : Clause} (h : part k = []) : worded part k = [] := by
  simp [worded, h]

theorem worded_of_ne_nil {k : Clause} (h : part k ≠ []) :
    worded part k = .keyword k.word :: part k := by
  simp [worded, h]

variable (part)

/-- What stands behind the word of a clause is found under the clause. -/
theorem lookup_orderedClauses (k : Clause) : ((orderedClauses part).lookup k).getD [] = part k := by
  have hlookup : ∀ ks : List Clause,
      (((ks.filter fun k => !(part k).isEmpty).map fun k => (k, part k)).lookup k).getD [] =
        if k ∈ ks then part k else [] := by
    intro ks
    induction ks with
    | nil => rfl
    | cons k' ks ih =>
      by_cases hempty : (part k').isEmpty
      · rw [List.filter_cons_of_neg (by simp [hempty]), ih]
        by_cases hk : k = k'
        · have hnil : part k = [] := by rw [hk]; exact List.isEmpty_iff.1 hempty
          simp [hnil]
        · simp [hk]
      · rw [List.filter_cons_of_pos (by simp [hempty]), List.map_cons, List.lookup_cons]
        by_cases hk : k = k'
        · simp [hk]
        · rw [beq_eq_false_iff_ne.2 hk, ih]
          simp [hk]
  rw [orderedClauses, hlookup, if_pos k.mem_all]

theorem clauseTokens_orderedClauses :
    clauseTokens (orderedClauses part) = Clause.all.flatMap (worded part) := by
  rw [clauseTokens, orderedClauses, List.flatMap_map]
  induction Clause.all with
  | nil => rfl
  | cons k ks ih =>
    by_cases hempty : (part k).isEmpty <;> simp [worded, hempty, ih]

theorem map_fst_orderedClauses :
    (orderedClauses part).map Prod.fst = Clause.all.filter fun k => !(part k).isEmpty := by
  simp [orderedClauses, Function.comp_def]

end

end QuerySql.Sql
