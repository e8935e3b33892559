/-
  The value of a test for a row.

  The column of a row has a content or is null.  `Test.truth` is the value of a test
  in three-valued logic: a comparison with null on either side is unknown, IN is
  the OR of the comparisons with the literals, and NOT IN its opposite.  Which
  contents and literals an operator relates is left open: `holds` decides it.

  A row is selected if the value is true.  Of a content IN and NOT IN are never both
  true, and one of them is iff the content equals a literal or no literal is null
  (`Test.isIn_complement_iff`).
-/
import QuerySql.Proofs.Sql.Test
import QuerySql.Proofs.Sql.Connective

namespace QuerySql.Sql

/-! ## Truth values -/

namespace Truth

/-- NOT: true and false change places. -/
def not : Truth → Truth
  | .false => .true
  | .unknown => .unknown
  | .true => .false

/-- The value of what is known. -/
def ofBool (b : Bool) : Truth := if b then .true else .false

/-- OR of several values. -/
def any (vs : List Truth) : Truth := vs.foldr or .false

@[simp] theorem not_eq_true {v : Truth} : v.not = .true ↔ v = .false := by
  cases v <;> simp [not]

theorem or_eq_true {u v : Truth} : or u v = .true ↔ u = .true ∨ v = .true := by
  cases u <;> cases v <;> simp [or]

theorem or_eq_false {u v : Truth} : or u v = .false ↔ u = .false ∧ v = .false := by
  cases u <;> cases v <;> simp [or]

theorem any_eq_true {vs : List Truth} : any vs = .true ↔ .true ∈ vs := by
  induction vs with
  | nil => exact iff_of_false nofun nofun
  | cons v vs ih =>
    rw [List.mem_cons, ← ih, eq_comm (a := Truth.true)]
    exact or_eq_true

theorem any_eq_false {vs : List Truth} : any vs = .false ↔ ∀ v ∈ vs, v = .false := by
  induction vs with
  | nil => exact iff_of_true rfl nofun
  | cons v vs ih =>
    rw [List.forall_mem_cons, ← ih]
    exact or_eq_false

end Truth

/-! ## Tests -/

/-- The literal is null. -/
def Literal.IsNull : Literal → Prop
  | word w _ => w = "NULL".toList
  | string _ => False

instance (l : Literal) : Decidable l.IsNull :=
  match l with
  | .word w _ => inferInstanceAs (Decidable (w = "NULL".toList))
  | .string _ => inferInstanceAs (Decidable False)

section

variable {α : Type} (holds : Operator → α → Literal → Bool)

/-- The comparison of what a column has with a literal. -/
def comparison (op : Operator) (content? : Option α) (l : Literal) : Truth :=
  match content? with
  | none => .unknown
  | some x => if l.IsNull then .unknown else .ofBool (holds op x l)

/-- The value of a test for a row. -/
def Test.truth (row : String → Option α) : Test → Truth
  | isNull c negated => .ofBool ((row c).isNone != negated)
  | compares c op l => comparison holds op (row c) l
  | isIn c negated l ls =>
    let inside := Truth.any ((l :: ls).map (comparison holds .equal (row c)))
    if negated then inside.not else inside

variable {holds} {x : α} {l : Literal} {ls : List Literal}

theorem comparison_eq_true {op : Operator} :
    comparison holds op (some x) l = .true ↔ ¬ l.IsNull ∧ holds op x l = true := by
  unfold comparison
  by_cases hnull : l.IsNull <;> cases h : holds op x l <;> simp [hnull, h, Truth.ofBool]

theorem comparison_eq_false {op : Operator} :
    comparison holds op (some x) l = .false ↔ ¬ l.IsNull ∧ holds op x l = false := by
  unfold comparison
  by_cases hnull : l.IsNull <;> cases h : holds op x l <;> simp [hnull, h, Truth.ofBool]

namespace Test

variable {row : String → Option α} {c : String} (hrow : row c = some x)
include hrow

theorem isIn_eq_true : (isIn c false l ls).truth holds row = .true ↔
    ∃ m ∈ l :: ls, ¬ m.IsNull ∧ holds .equal x m = true := by
  simp only [truth, hrow, Bool.false_eq_true, if_false, Truth.any_eq_true, List.mem_map,
    comparison_eq_true]

theorem notIn_eq_true : (isIn c true l ls).truth holds row = .true ↔
    ∀ m ∈ l :: ls, ¬ m.IsNull ∧ holds .equal x m = false := by
  simp only [truth, hrow, if_true, Truth.not_eq_true, Truth.any_eq_false, List.forall_mem_map,
    comparison_eq_false]

/-- A content that equals a literal does not differ from all of them. -/
theorem notIn_ne_true_of_isIn (h : (isIn c false l ls).truth holds row = .true) :
    (isIn c true l ls).truth holds row ≠ .true := by
  intro hnot
  obtain ⟨m, hm, -, hholds⟩ := (isIn_eq_true hrow).1 h
  have hdiffers := ((notIn_eq_true hrow).1 hnot m hm).2
  rw [hholds] at hdiffers
  cases hdiffers

/-- **NOT IN selects what IN does not** of a content, iff the content equals a literal
    or no literal is null. -/
theorem isIn_complement_iff :
    ((isIn c false l ls).truth holds row = .true ↔ (isIn c true l ls).truth holds row ≠ .true) ↔
      (∃ m ∈ l :: ls, ¬ m.IsNull ∧ holds .equal x m = true) ∨ ∀ m ∈ l :: ls, ¬ m.IsNull := by
  constructor
  · intro h
    by_cases hin : (isIn c false l ls).truth holds row = .true
    · exact Or.inl ((isIn_eq_true hrow).1 hin)
    · have hnot := (notIn_eq_true hrow).1 (not_not.1 (mt h.2 hin))
      exact Or.inr fun m hm => (hnot m hm).1
  · intro h
    refine ⟨notIn_ne_true_of_isIn hrow, fun hnot => ?_⟩
    by_contra hin
    rw [isIn_eq_true hrow] at hin
    have hnull := h.resolve_left hin
    refine hnot ((notIn_eq_true hrow).2 fun m hm => ⟨hnull m hm, ?_⟩)
    exact Bool.eq_false_iff.2 fun hholds => hin ⟨m, hm, hnull m hm, hholds⟩

end Test

end

end QuerySql.Sql
