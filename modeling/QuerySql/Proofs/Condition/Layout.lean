/-
  Layouts: what is made of a filter, part by part.

  The condition of a filter is put together in three ways only.  A leaf is
  written as it is.  The predicates of a filter, the tests of a comparator
  object and the entries of a like group are joined with AND.  The members of a
  group are joined with AND or OR and put between parentheses.

  * A `Layout` says what to make of each, and `Filter.render` follows it through
    a filter;
  * `Layout.leaves` collects the leaves of a filter, and `Layout.solidity` says
    that all its lists of parts have members;
  * `Filter.related` compares what two layouts make of the same filter, part by
    part, and `Filter.render_of_parts` follows a property of one layout.
-/
import QuerySql.Proofs.Condition.Leaf
import QuerySql.Proofs.Filter.Parts
import QuerySql.Proofs.Sql.Connective
import QuerySql.Condition

namespace QuerySql

open Sql (Connective)

variable {β γ : Type}

/-- What to make of the parts of a filter. -/
structure Layout (β : Type) where
  leaf : Leaf → β
  /-- parts that must all hold -/
  joined : List β → β
  /-- parts between parentheses -/
  group : Connective → List β → β

/-! ## Rendering -/

mutual

/-- What a layout makes of a predicate. -/
def Predicate.render (L : Layout β) : Predicate → β
  | .equals c v => L.leaf (.equals c v)
  | .compares c tests => L.joined (tests.map fun t => L.leaf (.compares c t.1 t.2))
  | .isIn c vs => L.leaf (.isIn c vs)
  | .all members => L.group .and (Filter.memberRenders L members)
  | .any members => L.group .or (Filter.memberRenders L members)
  | .like patterns => L.joined (patterns.map fun p => L.leaf (.like p.1 p.2))

/-- What a layout makes of the predicates of a filter. -/
def Filter.renders (L : Layout β) : List Predicate → List β
  | [] => []
  | p :: rest => p.render L :: Filter.renders L rest

/-- What a layout makes of the members of a group. -/
def Filter.memberRenders (L : Layout β) : List (List Predicate) → List β
  | [] => []
  | f :: rest => L.joined (Filter.renders L f) :: Filter.memberRenders L rest

end

/-- What a layout makes of a filter. -/
def Filter.render (L : Layout β) (f : Filter) : β := L.joined (f.map (Predicate.render L))

@[simp] theorem Filter.renders_eq (L : Layout β) (f : Filter) :
    Filter.renders L f = f.map (Predicate.render L) := by
  induction f with
  | nil => rfl
  | cons p f ih => simp [Filter.renders, ih]

@[simp] theorem Filter.memberRenders_eq (L : Layout β) (members : List Filter) :
    Filter.memberRenders L members = members.map (Filter.render L) := by
  induction members with
  | nil => rfl
  | cons f members ih => simp [Filter.memberRenders, Filter.render, ih]

/-! ## Related layouts -/

/-- Parts that `R` relates are joined to parts that `R` relates; lists without
    parts only matter if `hollow` holds. -/
structure Layout.Related (hollow : Prop) (L : Layout β) (M : Layout γ) (R : β → γ → Prop) :
    Prop where
  joined : ∀ {xs ys}, (xs = [] → hollow) → List.Forall₂ R xs ys → R (L.joined xs) (M.joined ys)
  group : ∀ k {xs ys}, (xs = [] → hollow) → List.Forall₂ R xs ys →
    R (L.group k xs) (M.group k ys)

/-- The leaves of a filter, in order. -/
def Layout.leaves : Layout (List Leaf) where
  leaf l := [l]
  joined := List.flatten
  group _ := List.flatten

/-- What `g` says of the leaves of a filter, in order. -/
def Layout.collect (g : Leaf → β) : Layout (List β) where
  leaf l := [g l]
  joined := List.flatten
  group _ := List.flatten

/-- Every list of parts has members. -/
def Layout.solidity : Layout Prop where
  leaf _ := True
  joined ps := ps ≠ [] ∧ ∀ p ∈ ps, p
  group _ ps := ps ≠ [] ∧ ∀ p ∈ ps, p

@[simp] theorem Filter.mem_leaves {f : Filter} {l : Leaf} :
    l ∈ f.render .leaves ↔ ∃ p ∈ f, l ∈ p.render .leaves := by
  simp [Filter.render, Layout.leaves, List.mem_flatten]

theorem forall_mem_map_prop {α : Type} {f : α → Prop} {l : List α} :
    (∀ p ∈ l.map f, p) ↔ ∀ a ∈ l, f a := List.forall_mem_map

theorem Layout.solidity_map {α : Type} {f : α → Prop} {l : List α} :
    (l.map f ≠ [] ∧ ∀ p ∈ l.map f, p) ↔ l ≠ [] ∧ ∀ a ∈ l, f a :=
  and_congr (not_congr List.map_eq_nil_iff) forall_mem_map_prop

theorem Filter.solidity_iff {f : Filter} :
    f.render .solidity ↔ f ≠ [] ∧ ∀ p ∈ f, p.render .solidity := Layout.solidity_map

theorem Predicate.solidity_group {k : Connective} {members : List Filter} :
    Layout.solidity.group k (Filter.memberRenders .solidity members) ↔
      members ≠ [] ∧ ∀ f ∈ members, f.render .solidity := by
  rw [Filter.memberRenders_eq]
  exact Layout.solidity_map

section

variable {hollow : Prop} {L : Layout β} {M : Layout γ} {R : β → γ → Prop}

theorem map_eq_map_of_forall₂ {α : Type} {f : β → α} {g : γ → α} {xs : List β} {ys : List γ}
    (h : List.Forall₂ (fun x y => f x = g y) xs ys) : xs.map f = ys.map g := by
  rw [← List.forall₂_eq_eq_eq, List.forall₂_map_left_iff, List.forall₂_map_right_iff]
  exact h

/-- Parts without members are left to `hollow`. -/
theorem hollow_of_map_eq_nil {α : Type} {f : α → β} {l : List α} {p : Prop}
    (h : hollow ∨ l ≠ [] ∧ p) (hnil : l.map f = []) : hollow :=
  h.resolve_right fun hl => hl.1 (List.map_eq_nil_iff.1 hnil)

theorem Layout.Related.filter (h : L.Related hollow M R) {f : Filter}
    (hsolid : hollow ∨ f.render .solidity)
    (ih : ∀ p ∈ f, hollow ∨ p.render .solidity → R (p.render L) (p.render M)) :
    R (f.render L) (f.render M) := by
  rw [Filter.solidity_iff] at hsolid
  refine h.joined (hollow_of_map_eq_nil hsolid) (Sql.forall₂_map ?_)
  intro p hp
  exact ih p hp (hsolid.imp_right fun hs => hs.2 p hp)

theorem Layout.Related.members (h : L.Related hollow M R) {k : Connective} {members : List Filter}
    (hsolid : hollow ∨ members ≠ [] ∧ ∀ f ∈ members, f.render .solidity)
    (ih : ∀ f ∈ members, hollow ∨ f.render .solidity → R (f.render L) (f.render M)) :
    R (L.group k (members.map (Filter.render L))) (M.group k (members.map (Filter.render M))) := by
  refine h.group k (hollow_of_map_eq_nil hsolid) (Sql.forall₂_map ?_)
  intro f hf
  exact ih f hf (hsolid.imp_right fun hs => hs.2 f hf)

/-- The tests of a comparator object, or the entries of a like group. -/
theorem Layout.Related.leaves {α : Type} (h : L.Related hollow M R) {l : List α} {g : α → Leaf}
    (hsolid : hollow ∨ Layout.solidity.joined (l.map fun a => Layout.solidity.leaf (g a)))
    (hleaf : ∀ a ∈ l, R (L.leaf (g a)) (M.leaf (g a))) :
    R (L.joined (l.map fun a => L.leaf (g a))) (M.joined (l.map fun a => M.leaf (g a))) := by
  have hmembers := hsolid.imp_right Layout.solidity_map.1
  exact h.joined (hollow_of_map_eq_nil hmembers) (Sql.forall₂_map hleaf)

theorem Filter.mem_leaves_of_group {members : List Filter} {f : Filter} {p : Predicate} {l : Leaf}
    (hf : f ∈ members) (hp : p ∈ f) (hl : l ∈ p.render .leaves) :
    l ∈ (members.map (Filter.render .leaves)).flatten :=
  List.mem_flatten_of_mem (List.mem_map_of_mem hf) (Filter.mem_leaves.2 ⟨p, hp, hl⟩)

/-- **What two layouts make of a predicate is related** if what they make of its
    leaves is. -/
theorem Predicate.related (h : L.Related hollow M R) (p : Predicate)
    (hsolid : hollow ∨ p.render .solidity)
    (hleaf : ∀ l ∈ p.render .leaves, R (L.leaf l) (M.leaf l)) : R (p.render L) (p.render M) := by
  induction p with
  | equals c v => exact hleaf _ (List.mem_singleton_self _)
  | isIn c vs => exact hleaf _ (List.mem_singleton_self _)
  | compares | like =>
    refine h.leaves hsolid ?_
    intro t ht
    refine hleaf _ ?_
    exact List.mem_flatten_of_mem (List.mem_map_of_mem ht) (List.mem_singleton_self _)
  | all members ih | any members ih =>
    rw [render, Predicate.solidity_group] at hsolid
    simp only [render, Filter.memberRenders_eq] at hleaf ⊢
    refine h.members hsolid ?_
    intro f hf hs
    refine h.filter hs ?_
    intro p hp hs
    exact ih f hf p hp hs fun l hl => hleaf l (Filter.mem_leaves_of_group hf hp hl)

/-- **What two layouts make of a filter is related** if what they make of its
    leaves is. -/
theorem Filter.related (h : L.Related hollow M R) (f : Filter)
    (hsolid : hollow ∨ f.render .solidity)
    (hleaf : ∀ l ∈ f.render .leaves, R (L.leaf l) (M.leaf l)) : R (f.render L) (f.render M) := by
  refine h.filter hsolid ?_
  intro p hp hs
  exact p.related h hs fun l hl => hleaf l (Filter.mem_leaves.2 ⟨p, hp, hl⟩)

theorem Filter.render_collect (f : Filter) (g : Leaf → β) :
    f.render (Layout.collect g) = (f.render .leaves).map g := by
  have hflatten : ∀ {xs : List (List β)} {ys : List (List Leaf)},
      List.Forall₂ (fun x y => id x = y.map g) xs ys → xs.flatten = ys.flatten.map g := by
    intro xs ys h
    rw [List.map_flatten, ← map_eq_map_of_forall₂ h, List.map_id]
  have h : (Layout.collect g).Related True Layout.leaves fun x y => x = y.map g :=
    ⟨fun _ h => hflatten h, fun _ _ _ _ h => hflatten h⟩
  exact f.related h (Or.inl trivial) fun _ _ => rfl

/-- What a layout makes of a filter has a property that its parts pass on. -/
theorem Filter.render_of_parts {P : β → Prop} (f : Filter) (hsolid : hollow ∨ f.render .solidity)
    (joined : ∀ xs, (xs = [] → hollow) → (∀ x ∈ xs, P x) → P (L.joined xs))
    (group : ∀ k xs, (xs = [] → hollow) → (∀ x ∈ xs, P x) → P (L.group k xs))
    (leaf : ∀ l ∈ f.render .leaves, P (L.leaf l)) : P (f.render L) := by
  have hall : ∀ {xs ys : List β}, List.Forall₂ (fun x _ => P x ∧ True) xs ys → ∀ x ∈ xs, P x :=
    fun h => ((List.forall₂_and_left _ _).1 h).1
  -- the property is a relation that leaves out its second side
  have hrelated : L.Related hollow L fun x _ => P x ∧ True := by
    constructor
    · intro xs ys hne h
      exact ⟨joined xs hne (hall h), trivial⟩
    · intro k xs ys hne h
      exact ⟨group k xs hne (hall h), trivial⟩
  exact (f.related hrelated hsolid fun l hl => ⟨leaf l hl, trivial⟩).1

end

end QuerySql
