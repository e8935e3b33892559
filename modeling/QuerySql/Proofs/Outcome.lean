/-
  Outcomes of computations that report and fail.

  `x.outcome r` is what the computation `x` returns when it starts with the
  recorder `r`, and the recorder after it.  None of the compiling functions
  looks at what has been reported: `x.Ends result ds` says that `x` always
  returns `result`, and adds the diagnostics `ds`; `x.Concludes cause? a ds` says
  that it returns `a` unless there is a cause to fail, and then fails for that
  cause.  Of two causes the first one counts.  The lemmas follow the ways in which
  computations are put together.  `x.Settles p a ds` leaves out the cause: `p`
  decides between returning `a` and failing.
-/
import QuerySql.Outcome
import Mathlib.Data.List.Basic

namespace QuerySql

variable {α β : Type}

/-- The recorder after several more reports. -/
def Recorder.append (r : Recorder) (ds : List Diagnostic) : Recorder := ⟨r.diagnostics ++ ds⟩

@[simp] theorem Recorder.append_nil (r : Recorder) : r.append [] = r := by simp [append]

@[simp] theorem Recorder.append_append (r : Recorder) (ds es : List Diagnostic) :
    (r.append ds).append es = r.append (ds ++ es) := by
  simp [append]

/-! ## Computations that report -/

namespace Report

/-- What is returned, and the recorder after it. -/
def outcome (x : Report α) (r : Recorder) : α × Recorder := (StateT.run x r).run

/-- The computation returns `a` and reports `ds`, whatever was reported before. -/
def Ends (x : Report α) (a : α) (ds : List Diagnostic) : Prop := ∀ r, x.outcome r = (a, r.append ds)

theorem ends_pure (a : α) : Ends (pure a) a [] := fun r => by
  simp [outcome]

theorem ends_report (d : Diagnostic) : Ends (report d) () [d] := fun _ => rfl

theorem Ends.bind {x : Report α} {f : α → Report β} {a : α} {b : β} {ds es : List Diagnostic}
    (hx : x.Ends a ds) (hf : (f a).Ends b es) : Ends (x >>= f) b (ds ++ es) := fun r => by
  have h := hf (r.append ds)
  have hx := hx r
  simp only [outcome] at h hx ⊢
  simp [StateT.run_bind, hx, h]

theorem Ends.map {x : Report α} {a : α} {ds : List Diagnostic} (hx : x.Ends a ds) (f : α → β) :
    Ends (do return f (← x)) (f a) ds := by
  simpa using hx.bind (f := fun a => pure (f a)) (ends_pure (f a))

theorem ends_mapM {l : List α} {f : α → Report β} {b : α → β} {ds : α → List Diagnostic}
    (h : ∀ a ∈ l, (f a).Ends (b a) (ds a)) : Ends (l.mapM f) (l.map b) (l.flatMap ds) := by
  induction l with
  | nil => exact ends_pure []
  | cons a l ih =>
    obtain ⟨ha, hl⟩ := List.forall_mem_cons.1 h
    rw [List.mapM_cons]
    exact ha.bind ((ih hl).map _)

end Report

/-! ## Computations that report and fail -/

namespace Compile

/-- What is returned, and the recorder after it. -/
def outcome (x : Compile α) (r : Recorder) : Except Error α × Recorder := Report.outcome x.run r

/-- The computation returns `result` and reports `ds`, whatever was reported before. -/
def Ends (x : Compile α) (result : Except Error α) (ds : List Diagnostic) : Prop :=
  Report.Ends x.run result ds

theorem Ends.outcome_eq {x : Compile α} {result : Except Error α} {ds : List Diagnostic}
    (h : x.Ends result ds) (r : Recorder) : x.outcome r = (result, r.append ds) := h r

/-- What follows a computation that returns a value starts where that one stopped. -/
theorem outcome_bind {x : Compile α} {a : α} {r s : Recorder} (hx : x.outcome r = (.ok a, s))
    (f : α → Compile β) : (x >>= f).outcome r = (f a).outcome s := by
  have hrun : Report.outcome x.run r = (.ok a, s) := hx
  simp only [outcome, Report.outcome, ExceptT.run_bind, StateT.run_bind] at hrun ⊢
  simp [hrun]

theorem ends_pure (a : α) : Ends (pure a) (.ok a) [] := Report.ends_pure _

theorem ends_throw (e : Error) : Ends (throw e : Compile α) (.error e) [] := Report.ends_pure _

theorem ends_lift {x : Report α} {a : α} {ds : List Diagnostic} (hx : x.Ends a ds) :
    Ends (liftM x : Compile α) (.ok a) ds := hx.map Except.ok

theorem ends_ofExcept (x : Except Error α) : Ends (liftM x : Compile α) x [] := Report.ends_pure x

theorem Ends.bind {x : Compile α} {f : α → Compile β} {a : α} {result : Except Error β}
    {ds es : List Diagnostic} (hx : x.Ends (.ok a) ds) (hf : (f a).Ends result es) :
    Ends (x >>= f) result (ds ++ es) :=
  Report.Ends.bind (f := ExceptT.bindCont f) hx hf

theorem Ends.bind_error {x : Compile α} {e : Error} {ds : List Diagnostic}
    (hx : x.Ends (.error e) ds) (f : α → Compile β) : Ends (x >>= f) (.error e) ds := by
  have h := Report.Ends.bind (f := ExceptT.bindCont f) hx (Report.ends_pure (Except.error e))
  rwa [List.append_nil] at h

theorem Ends.map {x : Compile α} {a : α} {ds : List Diagnostic} (hx : x.Ends (.ok a) ds)
    (f : α → β) : Ends (do return f (← x)) (.ok (f a)) ds := by
  simpa using hx.bind (f := fun a => pure (f a)) (ends_pure (f a))

/-- The computation returns `a` and reports `ds` unless there is a cause to fail,
    and fails for that cause. -/
structure Concludes (x : Compile α) (cause? : Option Error) (a : α) (ds : List Diagnostic) :
    Prop where
  ends : cause? = none → x.Ends (.ok a) ds
  fails : ∀ e, cause? = some e → ∃ es, x.Ends (.error e) es

theorem Ends.concludes {x : Compile α} {a : α} {ds : List Diagnostic} (hx : x.Ends (.ok a) ds) :
    x.Concludes none a ds :=
  ⟨fun _ => hx, nofun⟩

theorem concludes_throw (e : Error) (a : α) (ds : List Diagnostic) :
    Concludes (throw e) (some e) a ds :=
  ⟨nofun, fun _ h => Option.some.inj h ▸ ⟨[], ends_throw e⟩⟩

section

variable {x : Compile α} {cause? : Option Error} {a : α} {ds : List Diagnostic}

/-- A second computation that starts with what the first returns. -/
theorem Concludes.bind {f : α → Compile β} {second? : Option Error} {b : β}
    {es : List Diagnostic} (hx : x.Concludes cause? a ds) (hf : (f a).Concludes second? b es) :
    Concludes (x >>= f) (cause?.or second?) b (ds ++ es) := by
  cases cause? with
  | none =>
    have hx := hx.ends rfl
    constructor
    · intro h
      exact hx.bind (hf.ends h)
    · intro e h
      obtain ⟨es', he⟩ := hf.fails e h
      exact ⟨_, hx.bind he⟩
  | some e =>
    obtain ⟨es', he⟩ := hx.fails e rfl
    exact ⟨nofun, fun _ h => Option.some.inj h ▸ ⟨es', he.bind_error f⟩⟩

theorem Concludes.map (hx : x.Concludes cause? a ds) (f : α → β) :
    Concludes (do return f (← x)) cause? (f a) ds := by
  simpa using hx.bind (f := fun a => pure (f a)) (ends_pure (f a)).concludes

/-- What returns a value goes on behind its first part. -/
theorem Concludes.outcome_of_bind {f : α → Compile β} {b : β} {r s : Recorder}
    (hx : x.Concludes cause? a ds) (h : (x >>= f).outcome r = (.ok b, s)) :
    (f a).outcome (r.append ds) = (.ok b, s) := by
  cases cause? with
  | none => rwa [outcome_bind ((hx.ends rfl).outcome_eq r)] at h
  | some e =>
    obtain ⟨es, he⟩ := hx.fails e rfl
    rw [(he.bind_error f).outcome_eq] at h
    cases h

/-- What is returned, or the cause of failure. -/
theorem Concludes.outcome_fst (hx : x.Concludes cause? a ds) (r : Recorder) :
    (x.outcome r).1 = cause?.elim (.ok a) .error := by
  cases cause? with
  | none => rw [(hx.ends rfl).outcome_eq]; rfl
  | some e =>
    obtain ⟨es, he⟩ := hx.fails e rfl
    rw [he.outcome_eq]; rfl

end

theorem concludes_mapM {l : List α} {f : α → Compile β} {cause? : α → Option Error} {b : α → β}
    {ds : α → List Diagnostic} (h : ∀ a ∈ l, (f a).Concludes (cause? a) (b a) (ds a)) :
    (l.mapM f).Concludes (l.findSome? cause?) (l.map b) (l.flatMap ds) := by
  induction l with
  | nil => exact (ends_pure []).concludes
  | cons a l ih =>
    obtain ⟨ha, hl⟩ := List.forall_mem_cons.1 h
    have hcause : (a :: l).findSome? cause? = (cause? a).or (l.findSome? cause?) := by
      rw [List.findSome?_cons]; cases cause? a <;> rfl
    rw [List.mapM_cons, hcause]
    exact ha.bind ((ih hl).map _)

/-- A computation that fails. -/
def Fails (x : Compile α) : Prop := ∃ e ds, x.Ends (.error e) ds

/-- The computation returns `a` and reports `ds` if `p` holds, and fails otherwise. -/
structure Settles (x : Compile α) (p : Prop) (a : α) (ds : List Diagnostic) : Prop where
  ends : p → x.Ends (.ok a) ds
  fails : ¬ p → x.Fails

section

variable {x : Compile α} {cause? : Option Error} {p : Prop} {a : α} {ds : List Diagnostic}

theorem Concludes.settles (hx : x.Concludes cause? a ds) (h : cause? = none ↔ p) :
    x.Settles p a ds := by
  refine ⟨fun hp => hx.ends (h.2 hp), fun hp => ?_⟩
  obtain ⟨e, he⟩ := Option.ne_none_iff_exists'.1 (mt h.1 hp)
  exact ⟨e, hx.fails e he⟩

theorem Settles.map (hx : x.Settles p a ds) (f : α → β) :
    Settles (do return f (← x)) p (f a) ds := by
  refine ⟨fun hp => (hx.ends hp).map f, fun hp => ?_⟩
  obtain ⟨e, es, he⟩ := hx.fails hp
  exact ⟨e, es, he.bind_error _⟩

/-- Of a computation that settles, what it returns is known and so is that it returns. -/
theorem Settles.of_outcome_eq {b : α} {r s : Recorder} (hx : x.Settles p a ds)
    (h : x.outcome r = (.ok b, s)) : p ∧ b = a := by
  by_cases hp : p
  · have := (hx.ends hp).outcome_eq r
    rw [h] at this
    cases this
    exact ⟨hp, rfl⟩
  · obtain ⟨e, es, he⟩ := hx.fails hp
    have := he.outcome_eq r
    rw [h] at this
    cases this

end

end Compile

end QuerySql
