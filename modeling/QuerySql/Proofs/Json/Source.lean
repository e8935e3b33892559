/-
  Trees of JSON text and their tokens.

  `Source.tokens` are the tokens that a tree is written as.  Reading them completes
  the tree, whatever arrays and objects are open before it
  (`Source.foldlM_tokens`), so the tree is read back (`Source.ofTokens?_tokens`).
-/
import QuerySql.Json.Source
import Mathlib.Data.List.Basic

namespace QuerySql.Json.Source

/-- Induction on a tree: an array or object inherits what holds of the trees in it. -/
@[elab_as_elim, induction_eliminator]
theorem induction {motive : Source → Prop} (null : motive .null) (bool : ∀ b, motive (.bool b))
    (number : ∀ n, motive (.number n)) (string : ∀ text, motive (.string text))
    (array : ∀ items, (∀ s ∈ items, motive s) → motive (.array items))
    (object : ∀ entries, (∀ e ∈ entries, motive e.2) → motive (.object entries)) (s : Source) :
    motive s :=
  match s with
  | .null => null
  | .bool b => bool b
  | .number n => number n
  | .string text => string text
  | .array items => array items fun i hi =>
    have := List.sizeOf_lt_of_mem hi
    induction null bool number string array object i
  | .object entries => object entries fun (key, i) he =>
    have := List.sizeOf_lt_of_mem he
    induction null bool number string array object i
termination_by sizeOf s
decreasing_by
  all_goals
    simp only [Source.array.sizeOf_spec, Source.object.sizeOf_spec, Prod.mk.sizeOf_spec] at *
    omega

/-! ## Tokens -/

mutual

/-- The tokens that a tree is written as. -/
def tokens : Source → List Token
  | .null => [.null]
  | .bool b => [.bool b]
  | .number n => [.number n]
  | .string text => [.string text]
  | .array [] => [.openArray, .closeArray]
  | .array (v :: rest) => .openArray :: (tokens v ++ (itemsTokens rest ++ [.closeArray]))
  | .object [] => [.openObject, .closeObject]
  | .object ((key, v) :: rest) =>
    .openObject :: .string key :: .colon :: (tokens v ++ (entriesTokens rest ++ [.closeObject]))

/-- Further items of an array, a comma before each. -/
def itemsTokens : List Source → List Token
  | [] => []
  | v :: rest => .comma :: (tokens v ++ itemsTokens rest)

/-- Further entries of an object, a comma before each. -/
def entriesTokens : List (Option String × Source) → List Token
  | [] => []
  | (key, v) :: rest => .comma :: .string key :: .colon :: (tokens v ++ entriesTokens rest)

end

theorem tokens_eq_cons (s : Source) : ∃ t ts, s.tokens = t :: ts ∧ t ≠ .closeArray := by
  match s with
  | .null | .bool _ | .number _ | .string _ | .array [] | .array (_ :: _) | .object []
  | .object ((_, _) :: _) => exact ⟨_, _, rfl, nofun⟩

/-! ## Reading -/

/-- Tokens are read from where those before them stop. -/
theorem foldlM_append_of_eq {a : List Token} {s s' : State} (h : a.foldlM step s = some s')
    (b : List Token) : (a ++ b).foldlM step s = b.foldlM step s' := by
  rw [List.foldlM_append, h]
  rfl

/-- The first item of an array is read like any value. -/
theorem foldlM_firstItem (s : Source) (frames : List Frame) :
    s.tokens.foldlM step (.firstItem frames) =
      s.tokens.foldlM step (.value (.array [] :: frames)) := by
  obtain ⟨t, ts, hts, ht⟩ := s.tokens_eq_cons
  have hstep : step (.firstItem frames) t = step (.value (.array [] :: frames)) t := by
    cases t with
    | closeArray => exact absurd rfl ht
    | _ => rfl
  rw [hts, List.foldlM_cons, List.foldlM_cons, hstep]

theorem foldlM_items {items : List Source}
    (h : ∀ s ∈ items, ∀ frames, s.tokens.foldlM step (.value frames) = some (complete s frames))
    (before : List Source) (frames : List Frame) :
    (itemsTokens items ++ [Token.closeArray]).foldlM step (.moreItems before frames) =
      some (complete (.array (before.reverse ++ items)) frames) := by
  induction items generalizing before with
  | nil => rw [List.append_nil]; rfl
  | cons v items ih =>
    obtain ⟨hv, hitems⟩ := List.forall_mem_cons.1 h
    have hcomma : [Token.comma].foldlM step (.moreItems before frames) =
        some (.value (.array before :: frames)) := rfl
    have hsplit : itemsTokens (v :: items) ++ [Token.closeArray] =
        [Token.comma] ++ (v.tokens ++ (itemsTokens items ++ [.closeArray])) := by
      simp [itemsTokens]
    have hrest := ih hitems (v :: before)
    rw [List.reverse_cons, List.append_assoc, List.singleton_append] at hrest
    rw [hsplit, foldlM_append_of_eq hcomma, foldlM_append_of_eq (hv _)]
    exact hrest

theorem foldlM_entries {entries : List (Option String × Source)}
    (h : ∀ e ∈ entries, ∀ frames, e.2.tokens.foldlM step (.value frames) = some (complete e.2 frames))
    (before : List (Option String × Source)) (frames : List Frame) :
    (entriesTokens entries ++ [Token.closeObject]).foldlM step (.moreEntries before frames) =
      some (complete (.object (before.reverse ++ entries)) frames) := by
  induction entries generalizing before with
  | nil => rw [List.append_nil]; rfl
  | cons e entries ih =>
    obtain ⟨key, v⟩ := e
    obtain ⟨hv, hentries⟩ := List.forall_mem_cons.1 h
    have hkey : [Token.comma, .string key, .colon].foldlM step (.moreEntries before frames) =
        some (.value (.object before key :: frames)) := rfl
    have hsplit : entriesTokens ((key, v) :: entries) ++ [Token.closeObject] =
        [Token.comma, .string key, .colon] ++
          (v.tokens ++ (entriesTokens entries ++ [.closeObject])) := by
      simp [entriesTokens]
    have hrest := ih hentries ((key, v) :: before)
    rw [List.reverse_cons, List.append_assoc, List.singleton_append] at hrest
    rw [hsplit, foldlM_append_of_eq hkey, foldlM_append_of_eq (hv _)]
    exact hrest

/-- **The tokens of a tree complete the tree**, whatever is open before it. -/
theorem foldlM_tokens (s : Source) (frames : List Frame) :
    s.tokens.foldlM step (.value frames) = some (complete s frames) := by
  induction s generalizing frames with
  | null | bool | number | string => rfl
  | array items ih =>
    cases items with
    | nil => rfl
    | cons v items =>
      obtain ⟨hv, hitems⟩ := List.forall_mem_cons.1 ih
      have hopen : [Token.openArray].foldlM step (.value frames) = some (.firstItem frames) := rfl
      have hsplit : (array (v :: items)).tokens =
          [Token.openArray] ++ (v.tokens ++ (itemsTokens items ++ [.closeArray])) := by
        simp [tokens]
      have hfirst := (foldlM_firstItem v frames).trans (hv _)
      rw [hsplit, foldlM_append_of_eq hopen, foldlM_append_of_eq hfirst]
      exact foldlM_items hitems [v] frames
  | object entries ih =>
    cases entries with
    | nil => rfl
    | cons e entries =>
      obtain ⟨key, v⟩ := e
      obtain ⟨hv, hentries⟩ := List.forall_mem_cons.1 ih
      have hopen : [Token.openObject, .string key, .colon].foldlM step (.value frames) =
          some (.value (.object [] key :: frames)) := rfl
      have hsplit : (object ((key, v) :: entries)).tokens = [Token.openObject, .string key, .colon] ++
          (v.tokens ++ (entriesTokens entries ++ [.closeObject])) := by
        simp [tokens]
      rw [hsplit, foldlM_append_of_eq hopen, foldlM_append_of_eq (hv _)]
      exact foldlM_entries hentries [(key, v)] frames

/-- **A tree is read back from its tokens.** -/
theorem ofTokens?_tokens (s : Source) : ofTokens? s.tokens = some s := by
  rw [ofTokens?, foldlM_tokens]
  rfl

end QuerySql.Json.Source
