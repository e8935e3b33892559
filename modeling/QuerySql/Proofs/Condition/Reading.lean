/-
  The condition of what stands under `where`.

  `Filter.conditionOfValue` reads a filter from a value and writes its condition.
  For an object with one entry that is read as a single requirement this is the text
  of the requirement (`conditionOfValue_concludes`).  Two computations agree if they
  return the same, or fail with errors of the same category (`Compile.Agrees`).
-/
import QuerySql.Proofs.Condition.Text
import QuerySql.Proofs.Filter.Reading

namespace QuerySql

/-! ## Agreement -/

section

variable {α : Type}

/-- The same value, or two errors of the same category. -/
def ResultsAgree : Except Error α → Except Error α → Prop
  | .ok a, .ok b => a = b
  | .error d, .error e => d.category = e.category
  | _, _ => False

/-- Whatever has been reported before, the computations have results that agree. -/
def Compile.Agrees (x y : Compile α) : Prop :=
  ∀ r, ResultsAgree (x.outcome r).1 (y.outcome r).1

/-- Of computations whose results are known, these decide. -/
theorem Compile.Concludes.agrees_iff {x y : Compile α} {c? d? : Option Error} {a b : α}
    {ds es : List Diagnostic} (hx : x.Concludes c? a ds) (hy : y.Concludes d? b es) :
    x.Agrees y ↔ ResultsAgree (c?.elim (.ok a) .error) (d?.elim (.ok b) .error) := by
  simp only [Agrees, hx.outcome_fst, hy.outcome_fst]
  exact ⟨fun h => h {}, fun h _ => h⟩

end

/-! ## Reading and writing -/

/-- The predicate of a single requirement. -/
def Leaf.predicate : Leaf → Predicate
  | equals c v => .equals c v
  | compares c op v => .compares c [(op, v)]
  | isIn c vs => .isIn c vs
  | like c v => .like [(c, v)]

namespace Filter

/-- The condition of a value under `where`. -/
def conditionOfValue (v : Value) : Compile String := do
  let f ← ofValue v
  f.condition

/-- What is not read has no condition. -/
theorem conditionOfValue_ends_error {v : Value} {e : Error} (h : ofValue v = .error e) :
    (conditionOfValue v).Ends (.error e) [] := by
  have hlift : (liftM (ofValue v) : Compile Filter).Ends (.error e) [] := by
    rw [← h]
    exact Compile.ends_ofExcept _
  exact hlift.bind_error _

theorem condition_concludes_leaf (l : Leaf) :
    (condition [l.predicate]).Concludes l.refusal? l.test.text l.reports := by
  have h := condition_concludes [l.predicate]
  have hrefusal : Filter.render .refusal [l.predicate] = l.refusal? := by
    cases l <;> simp [Filter.render, Leaf.predicate, Predicate.render, Layout.refusal]
  have htext : Filter.render .text [l.predicate] = l.test.text := by
    cases l <;> simp [Filter.render, Leaf.predicate, Predicate.render, Layout.text]
  have hreports : Filter.render .reports [l.predicate] = l.reports := by
    cases l <;> simp [Filter.render, Leaf.predicate, Predicate.render, Layout.reports]
  rwa [hrefusal, htext, hreports] at h

/-- **The condition of an entry that is read as one requirement** is the text of its
    test, unless this is refused. -/
theorem conditionOfValue_concludes {key : String} {v : Value} {l : Leaf}
    (h : Predicate.ofEntry key v = .ok l.predicate) :
    (conditionOfValue (.object [(key, v)])).Concludes l.refusal? l.test.text l.reports := by
  have hread : ofValue (.object [(key, v)]) = .ok [l.predicate] :=
    ofValue_eq_ok.2 ⟨_, rfl, .cons h .nil⟩
  have hlift : (liftM (ofValue (.object [(key, v)])) : Compile Filter).Concludes none
      [l.predicate] [] := by
    rw [hread]
    exact (Compile.ends_ofExcept _).concludes
  exact hlift.bind (condition_concludes_leaf l)

end Filter

end QuerySql
