/-
  AND and OR: how they are written, and what they mean.

  * `Connective.joiner` is written between the parts of a condition, and the joined
    parts are read one by one (`Connective.tokens?_join`);
  * AND and OR of T-SQL take the `Truth` values true, false and unknown
    (`Connective.apply`);
  * a `Meaning` is the value of an expression as a function of the values of its
    leaves, which are numbered from left to right;
  * `Meaning.join` is the meaning of expressions joined with AND or OR.  It does
    not depend on how they are grouped (`Meaning.join_flatten`).
-/
import QuerySql.Proofs.Sql.Token

namespace QuerySql.Sql

/-! ## Texts -/

/-- What the parts of a condition are joined with. -/
inductive Connective where
  | and
  | or
deriving DecidableEq, Repr

namespace Connective

/-- The word for a connective. -/
def word : Connective → String
  | and => "AND"
  | or => "OR"

/-- What is written between two parts. -/
def joiner : Connective → String
  | and => " AND "
  | or => " OR "

/-- The tokens of the parts with the word between them. -/
def joinTokens (k : Connective) (parts : List (List Token)) : List Token :=
  [Token.keyword k.word].intercalate parts

theorem joinTokens_cons_cons (k : Connective) (x y : List Token) (parts : List (List Token)) :
    k.joinTokens (x :: y :: parts) = x ++ Token.keyword k.word :: k.joinTokens (y :: parts) := by
  simp [joinTokens]

theorem separates_joiner (k : Connective) : Separates k.joiner [.keyword k.word] := by
  cases k <;> exact ⟨rfl, ' ', rfl, rfl⟩

/-- Two texts with a connective between them are read one after the other. -/
theorem tokens?_between (k : Connective) {s t : String} {ts us : List Token}
    (hs : tokens? s.toList = some ts) (ht : tokens? t.toList = some us) :
    tokens? (s ++ k.joiner ++ t).toList = some (ts ++ .keyword k.word :: us) := by
  rw [String.append_assoc]
  exact (k.separates_joiner.continues ht).behind hs

/-- **Joined texts are read one by one.** -/
theorem tokens?_join (k : Connective) {texts : List String} {parts : List (List Token)}
    (h : List.Forall₂ (fun text ts => tokens? text.toList = some ts) texts parts) :
    tokens? (k.joiner.intercalate texts).toList = some (k.joinTokens parts) :=
  tokens?_intercalate k.separates_joiner h

theorem forall_mem_joinTokens {p : Token → Prop} (k : Connective) (hword : p (.keyword k.word))
    {parts : List (List Token)} (h : ∀ ts ∈ parts, ∀ t ∈ ts, p t) : ∀ t ∈ k.joinTokens parts, p t :=
  forall_mem_intercalate (List.forall_mem_singleton.2 hword) h

theorem redacted_joinTokens (k : Connective) {xs ys : List (List Token)}
    (h : xs.map (List.map Token.redacted) = ys.map (List.map Token.redacted)) :
    (k.joinTokens xs).map Token.redacted = (k.joinTokens ys).map Token.redacted := by
  rw [joinTokens, joinTokens, map_intercalate, map_intercalate, h]

end Connective

/-! ## Truth values -/

/-- A truth value of T-SQL. -/
inductive Truth where
  | false
  | unknown
  | true
deriving DecidableEq, Repr

/-- AND: false if one side is, true if both are. -/
def Truth.and : Truth → Truth → Truth
  | .false, _ | _, .false => .false
  | .true, .true => .true
  | _, _ => .unknown

/-- OR: true if one side is, false if both are. -/
def Truth.or : Truth → Truth → Truth
  | .true, _ | _, .true => .true
  | .false, .false => .false
  | _, _ => .unknown

namespace Connective

/-- The value of two conditions with a connective between them. -/
def apply : Connective → Truth → Truth → Truth
  | and => Truth.and
  | or => Truth.or

/-- The value of no conditions at all. -/
def neutral : Connective → Truth
  | and => .true
  | or => .false

@[simp] theorem neutral_apply (k : Connective) (v : Truth) : k.apply k.neutral v = v := by
  cases k <;> cases v <;> rfl

@[simp] theorem apply_neutral (k : Connective) (v : Truth) : k.apply v k.neutral = v := by
  cases k <;> cases v <;> rfl

theorem apply_assoc (k : Connective) (u v w : Truth) :
    k.apply (k.apply u v) w = k.apply u (k.apply v w) := by
  cases k <;> cases u <;> cases v <;> cases w <;> rfl

end Connective

/-! ## Meanings -/

/-- The meaning of an expression: the number of its leaves, and its value when
    they have the values `σ 0`, `σ 1` and so on. -/
@[ext]
structure Meaning where
  leaves : ℕ
  value : (ℕ → Truth) → Truth

namespace Meaning

/-- The meaning of a leaf. -/
def leaf : Meaning where
  leaves := 1
  value σ := σ 0

/-- The meaning of two expressions joined with `k`; the leaves of the second are
    numbered after those of the first. -/
def both (k : Connective) (m n : Meaning) : Meaning where
  leaves := m.leaves + n.leaves
  value σ := k.apply (m.value σ) (n.value fun i => σ (m.leaves + i))

/-- The meaning of expressions joined with `k`. -/
def join (k : Connective) : List Meaning → Meaning
  | [] => ⟨0, fun _ => k.neutral⟩
  | m :: ms => both k m (join k ms)

theorem both_nil (k : Connective) (m : Meaning) : both k m (join k []) = m := by
  ext <;> simp [both, join]

theorem nil_both (k : Connective) (m : Meaning) : both k (join k []) m = m := by
  ext <;> simp [both, join]

theorem both_assoc (k : Connective) (l m n : Meaning) :
    both k (both k l m) n = both k l (both k m n) := by
  ext <;> simp [both, k.apply_assoc, Nat.add_assoc]

@[simp] theorem join_singleton (k : Connective) (m : Meaning) : join k [m] = m := both_nil k m

theorem join_append (k : Connective) (ms ns : List Meaning) :
    join k (ms ++ ns) = both k (join k ms) (join k ns) := by
  induction ms with
  | nil => exact (nil_both k _).symm
  | cons m ms ih => rw [List.cons_append, join, join, ih, both_assoc]

/-- **How joined expressions are grouped makes no difference.** -/
theorem join_flatten (k : Connective) (mss : List (List Meaning)) :
    join k mss.flatten = join k (mss.map (join k)) := by
  induction mss with
  | nil => rfl
  | cons ms mss ih => rw [List.flatten_cons, join_append, ih, List.map_cons, join]

end Meaning

end QuerySql.Sql
