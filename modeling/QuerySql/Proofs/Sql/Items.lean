/-
  Lists with commas between their items.

  Items may hold commas of their own, in parentheses.  `splitItems` finds the items
  between the commas outside of parentheses (`splitItems_itemTokens`), and `list?`
  reads a list in parentheses up to the one that closes it (`list?_listed`).
-/
import QuerySql.Proofs.Sql.Token

namespace QuerySql.Sql

/-! ## Reading -/

/-- The number of parentheses that are open behind a token. -/
def Token.depth (depth : Nat) : Token → Nat
  | .mark c => if c = '(' then depth + 1 else if c = ')' then depth - 1 else depth
  | _ => depth

/-- The tokens between the commas that stand outside of parentheses, `depth` of
    which are open in front. -/
def splitItems : Nat → List Token → List (List Token)
  | _, [] => [[]]
  | depth, t :: ts =>
    if depth = 0 ∧ t = .mark ',' then [] :: splitItems 0 ts
    else (splitItems (t.depth depth) ts).modifyHead (t :: ·)

/-- The tokens up to the parenthesis that closes those around them, and the
    tokens behind it. -/
def enclosed? : Nat → List Token → Option (List Token × List Token)
  | _, [] => none
  | depth, t :: ts =>
    if depth = 0 ∧ t = .mark ')' then some ([], ts)
    else (enclosed? (t.depth depth) ts).map fun (inside, rest) => (t :: inside, rest)

/-- The items of a list in parentheses, and the tokens behind it. -/
def list? : List Token → Option (List (List Token) × List Token)
  | [] => none
  | t :: ts =>
    if t = .mark '(' then (enclosed? 0 ts).map fun (inside, rest) => (splitItems 0 inside, rest)
    else none

/-- What is written item by item is read item by item. -/
theorem mapM_read {α β : Type} {read : β → Option α} {write : α → β}
    (h : ∀ a, read (write a) = some a) (l : List α) : (l.map write).mapM read = some l := by
  induction l with
  | nil => rfl
  | cons a l ih => simp [h, ih]

/-! ## Writing -/

/-- The tokens of items with commas between them. -/
def itemTokens (items : List (List Token)) : List Token := [Token.mark ','].intercalate items

/-- A list in parentheses. -/
def listed (items : List (List Token)) : List Token :=
  .mark '(' :: (itemTokens items ++ [.mark ')'])

/-- The tokens close their parentheses, and neither a comma nor a closing
    parenthesis stands outside. -/
def isItem : Nat → List Token → Bool
  | depth, [] => depth = 0
  | depth, t :: ts => !(depth = 0 && (t = .mark ',' || t = .mark ')')) && isItem (t.depth depth) ts

theorem isItem_cons {depth : Nat} {t : Token} {ts : List Token}
    (h : isItem depth (t :: ts) = true) :
    ¬ (depth = 0 ∧ t = .mark ',') ∧ ¬ (depth = 0 ∧ t = .mark ')') ∧
      isItem (t.depth depth) ts = true := by
  simp only [isItem, Bool.and_eq_true, Bool.not_eq_true'] at h
  grind

theorem splitItems_of_isItem {depth : Nat} {item : List Token} (h : isItem depth item = true) :
    splitItems depth item = [item] := by
  induction item generalizing depth with
  | nil => rfl
  | cons t ts ih =>
    obtain ⟨hcomma, -, hts⟩ := isItem_cons h
    rw [splitItems, if_neg hcomma, ih hts, List.modifyHead_cons]

theorem splitItems_append {depth : Nat} {item : List Token} (h : isItem depth item = true)
    (rest : List Token) :
    splitItems depth (item ++ .mark ',' :: rest) = item :: splitItems 0 rest := by
  induction item generalizing depth with
  | nil =>
    have hdepth : depth = 0 := by simpa [isItem] using h
    rw [List.nil_append, splitItems, if_pos ⟨hdepth, rfl⟩]
  | cons t ts ih =>
    obtain ⟨hcomma, -, hts⟩ := isItem_cons h
    rw [List.cons_append, splitItems, if_neg hcomma, ih hts, List.modifyHead_cons]

theorem itemTokens_cons_cons (item next : List Token) (items : List (List Token)) :
    itemTokens (item :: next :: items) = item ++ .mark ',' :: itemTokens (next :: items) := by
  simp [itemTokens]

/-- **Items are found again between the commas.** -/
theorem splitItems_itemTokens {items : List (List Token)} (hne : items ≠ [])
    (h : ∀ item ∈ items, isItem 0 item = true) :
    splitItems 0 (itemTokens items) = items := by
  induction items with
  | nil => exact absurd rfl hne
  | cons item items ih =>
    obtain ⟨hitem, hitems⟩ := List.forall_mem_cons.1 h
    cases items with
    | nil => simpa [itemTokens] using splitItems_of_isItem hitem
    | cons next items =>
      rw [itemTokens_cons_cons, splitItems_append hitem, ih (List.cons_ne_nil _ _) hitems]

theorem enclosed?_append {depth : Nat} {item : List Token} (h : isItem depth item = true)
    (rest : List Token) :
    enclosed? depth (item ++ rest) = (enclosed? 0 rest).map fun (inside, rest) =>
      (item ++ inside, rest) := by
  induction item generalizing depth with
  | nil =>
    have hdepth : depth = 0 := by simpa [isItem] using h
    simp [hdepth]
  | cons t ts ih =>
    obtain ⟨-, hclose, hts⟩ := isItem_cons h
    rw [List.cons_append, enclosed?, if_neg hclose, ih hts, Option.map_map]
    rfl

/-- Items with commas between them end at the parenthesis behind them. -/
theorem enclosed?_itemTokens {items : List (List Token)}
    (h : ∀ item ∈ items, isItem 0 item = true) (rest : List Token) :
    enclosed? 0 (itemTokens items ++ .mark ')' :: rest) = some (itemTokens items, rest) := by
  induction items with
  | nil => rfl
  | cons item items ih =>
    obtain ⟨hitem, hitems⟩ := List.forall_mem_cons.1 h
    cases items with
    | nil =>
      rw [itemTokens, List.intercalate_singleton, enclosed?_append hitem]
      simp [enclosed?]
    | cons next items =>
      have hcomma : ∀ ts, enclosed? 0 (.mark ',' :: ts) =
          (enclosed? 0 ts).map fun (inside, rest) => (.mark ',' :: inside, rest) := fun _ => rfl
      rw [itemTokens_cons_cons, List.append_assoc, enclosed?_append hitem, List.cons_append,
        hcomma, ih hitems]
      simp

/-- **A list in parentheses is read as its items.** -/
theorem list?_listed {items : List (List Token)} (hne : items ≠ [])
    (h : ∀ item ∈ items, isItem 0 item = true) (rest : List Token) :
    list? (listed items ++ rest) = some (items, rest) := by
  have hinside := enclosed?_itemTokens h rest
  simp only [listed, list?, List.cons_append, List.append_assoc, List.nil_append, if_pos, hinside,
    Option.map_some, splitItems_itemTokens hne h]

/-- The text of a list in parentheses, behind a blank. -/
theorem continues_listed {α : Type} {l : List α} {text : α → String} {item : α → List Token}
    (h : ∀ a ∈ l, tokens? (text a).toList = some (item a)) :
    Continues (" " ++ ("(" ++ ", ".intercalate (l.map text) ++ ")")) (listed (l.map item)) :=
  continues_blank (tokens?_enclosed (tokens?_commas h))

theorem isInert_of_mem_listed {items : List (List Token)}
    (h : ∀ item ∈ items, ∀ t ∈ item, t.IsInert) : ∀ t ∈ listed items, t.IsInert := by
  have hinside : ∀ t ∈ itemTokens items, t.IsInert := forall_mem_intercalate (by decide) h
  exact List.forall_mem_cons.2 ⟨by decide, List.forall_mem_append.2 ⟨hinside, by decide⟩⟩

/-- A comma in parentheses does not end an item. -/
example : (tokens? "(f([a], 1), ',', [,])".toList).bind list? = some ([[.word ['f'], .mark '(',
    .name ['a'], .mark ',', .word ['1'], .mark ')'], [.string [',']], [.name [',']]], []) := by rfl

end QuerySql.Sql
