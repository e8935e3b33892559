/-
  Numbers of rows, from criteria to statements.

  * of repeated keys the last one counts (`Criteria.skip_eq`, `Criteria.limit_eq`);
  * `Criteria.IsHonoured` says which number statements have for the one asked for;
  * a SELECT has the numbers in front of its columns or at its end
    (`Criteria.pageWords_eq`).

  So the numbers that a statement has are those that were asked for, unless they are
  `2 ^ 64` or more (`Criteria.counts_exact_iff`).
-/
import QuerySql.Proofs.Criteria.Order
import QuerySql.Proofs.Statement.Selection
import QuerySql.Proofs.Value.Number

namespace QuerySql

namespace Criteria

/-! ## Reading -/

variable {δ : Type}

/-- If entries under a key decide a part whatever it was before, the last of them does. -/
theorem Governs.foldlM_last {key : String} {update : Value → Except Error δ} {part : Criteria → δ}
    (hgoverns : Governs key (fun v _ => update v) part) {entries : List (String × Value)}
    {c c' : Criteria} (hread : entries.foldlM readEntry c = .ok c') :
    updateWith (fun v _ => update v) (Entries.get? key entries.reverse) (part c) =
      .ok (part c') := by
  induction entries using List.reverseRecOn generalizing c' with
  | nil => cases hread; rfl
  | append_singleton entries e ih =>
    obtain ⟨k, v⟩ := e
    rw [List.foldlM_append] at hread
    obtain ⟨c₁, hfirst, hlast⟩ := Except.bind_eq_ok.1 hread
    obtain ⟨c₂, hstep, hend⟩ := Except.bind_eq_ok.1 hlast
    cases hend
    have hpart := hgoverns hstep
    rw [List.reverse_append, List.reverse_singleton, List.singleton_append, Entries.get?]
    split_ifs at hpart ⊢ with hkey
    · exact hpart
    · rw [hpart]
      exact ih hfirst

/-- The number that the entry under a key asks for; of repeated entries the last one
    counts. -/
def askedFor (key : String) (entries : List (String × Value)) : Option ℚ :=
  (Entries.get? key entries.reverse).bind Value.rational?

/-- A part that only changes under a key change stays as it is under other entries. -/
theorem part_eq_of_readEntry {part : Criteria → δ} {key k : String} {v : Value} {c c' : Criteria}
    (hother : ∀ (c : Criteria) (a : Change), a.key ≠ key → part (a.apply c) = part c)
    (hread : readEntry c (k, v) = .ok c') (hk : k ≠ key) : part c' = part c := by
  rw [readEntry_eq] at hread
  cases hchange : Change.ofEntry (k, v) with
  | error e => rw [hchange] at hread; cases hread
  | ok change? =>
    rw [hchange] at hread
    cases hread
    cases change? with
    | none => rfl
    | some a => exact hother c a fun heq => hk ((Change.key_of_ofEntry hchange).symm.trans heq)

section

variable {entries : List (String × Value)} {c : Criteria}
  (hread : ofValue (.object entries) = .ok c)
include hread

/-- A number of rows is what the last entry under its key asks for, if an entry under the
    key sets it and no other change concerns it. -/
theorem count_eq {key : String} {part : Criteria → Option UInt64} (hempty : part {} = none)
    (hown : ∀ (c : Criteria) (v : Value), (readEntry c (key, v)).map part = .ok v.count?)
    (hother : ∀ (c : Criteria) (a : Change), a.key ≠ key → part (a.apply c) = part c) :
    part c = (Entries.get? key entries.reverse).bind Value.count? := by
  have hgoverns : Governs key (fun v _ => .ok v.count?) part := by
    intro c c' k v h
    split_ifs with hk
    · subst hk
      exact (hown c v).symm.trans (h ▸ rfl)
    · exact part_eq_of_readEntry hother h hk
  have hlast := hgoverns.foldlM_last hread
  rw [hempty] at hlast
  cases hentry : Entries.get? key entries.reverse <;> rw [hentry] at hlast <;>
    exact (Except.ok.inj hlast).symm

theorem skip_eq : c.skip = (Entries.get? "skip" entries.reverse).bind Value.count? := by
  refine count_eq hread rfl (fun _ _ => rfl) fun c a ha => ?_
  cases a with
  | skip => exact absurd rfl ha
  | _ => rfl

theorem limit_eq : c.limit = (Entries.get? "limit" entries.reverse).bind Value.count? := by
  refine count_eq hread rfl (fun _ _ => rfl) fun c a ha => ?_
  cases a with
  | limit => exact absurd rfl ha
  | _ => rfl

end

/-! ## Statements -/

/-- The number `n` is what statements have for the number that is asked for: it is a
    natural number other than zero, cut down to the largest one. -/
def IsHonoured (asked? : Option ℚ) (n : ℕ) : Prop :=
  ∃ m : ℕ, 0 < m ∧ asked? = some (m : ℚ) ∧ n = Value.clamped m

theorem isHonoured_iff {v? : Option Value} {n : ℕ} :
    ((v?.bind Value.count?).filter (0 < ·)).map UInt64.toNat = some n ↔
      IsHonoured (v?.bind Value.rational?) n := by
  simp only [Option.map_eq_some_iff, Option.filter_eq_some_iff, Option.bind_eq_some_iff,
    Value.count?_eq_some_iff, IsHonoured, decide_eq_true_eq]
  constructor
  · rintro ⟨k, ⟨⟨v, rfl, m, hrational, hk⟩, hpos⟩, rfl⟩
    have hpos' : 0 < k.toNat := hpos
    have hle : k.toNat ≤ m := hk ▸ min_le_left m _
    exact ⟨m, by omega, ⟨v, rfl, hrational⟩, hk⟩
  · rintro ⟨m, hm, ⟨v, rfl, hrational⟩, rfl⟩
    have hk := Value.toNat_ofNat_clamped m
    refine ⟨UInt64.ofNat (Value.clamped m), ⟨⟨v, rfl, m, hrational, hk⟩, ?_⟩, hk⟩
    rw [UInt64.lt_iff_toNat_lt, hk]
    exact lt_min hm (by decide)

/-- The words in front of the columns and at the end of a SELECT that skips some rows
    and returns at most some. -/
def pageWords : Option ℕ → Option ℕ → String × String
  | none, none => ("", "")
  | none, some n => ("TOP " ++ Number.natText n ++ " ", "")
  | some k, none => ("", " OFFSET " ++ Number.natText k ++ " ROWS")
  | some k, some n =>
    ("", " OFFSET " ++ Number.natText k ++ " ROWS FETCH NEXT " ++ Number.natText n ++ " ROWS ONLY")

theorem pageWords_eq (c : Criteria) :
    pageWords (c.offset?.map UInt64.toNat) (c.rowLimit?.map UInt64.toNat) =
      (c.topText, c.pageText) := by
  unfold topText pageText
  cases c.offset? <;> cases c.rowLimit? <;> rfl

/-- **A SELECT has the numbers that were asked for, up to the largest of 64 bits.**
    A value in raw criteria asks for a number of rows iff it is a natural number, and then
    for that number, or for `2 ^ 64 - 1` if it is larger.  So the number is exactly the one
    that was given iff this is below `2 ^ 64`; a float may be larger.  The numbers of the
    last entries under `skip` and `limit`, unless they are zero, are the ones behind TOP,
    OFFSET and FETCH NEXT. -/
theorem counts_exact_iff (entries : List (String × Value)) :
    (∀ e ∈ entries, ∀ n, e.2.count? = some n →
      ∃ m : ℕ, e.2.rational? = some (m : ℚ) ∧ n.toNat = Value.clamped m ∧
        ((n.toNat : ℚ) = m ↔ (m : ℚ) < 2 ^ 64)) ∧
    ∀ c, ofValue (.object entries) = .ok c →
      ∃ skipped? limit? : Option ℕ,
        (∀ n, skipped? = some n ↔ IsHonoured (askedFor "skip" entries) n) ∧
        (∀ n, limit? = some n ↔ IsHonoured (askedFor "limit" entries) n) ∧
        ∀ (settings : Settings) (table text : String) (r s : Recorder),
          (c.selectText settings table).outcome r = (.ok text, s) →
          ∃ order, c.orderText settings = .ok order ∧
            text = "SELECT " ++ (pageWords skipped? limit?).1 ++ c.columnList ++ " FROM " ++
              Text.bracketed table ++ (c.whereClause ++ c.alternativesClause) ++ c.groupText ++
              order ++ (pageWords skipped? limit?).2 := by
  constructor
  · intro e _ n h
    obtain ⟨m, hrational, hn⟩ := Value.count?_eq_some_iff.1 h
    exact ⟨m, hrational, hn, hn ▸ Value.clamped_eq_iff⟩
  · intro c hread
    refine ⟨c.offset?.map UInt64.toNat, c.rowLimit?.map UInt64.toNat, fun n => ?_, fun n => ?_,
      fun settings table text r s htext => ?_⟩
    · rw [offset?, skip_eq hread]
      exact isHonoured_iff
    · rw [rowLimit?, limit_eq hread]
      exact isHonoured_iff
    · rw [pageWords_eq]
      exact selectText_of_outcome_eq htext

/-- The float `2 ^ 64`. -/
def twoPow64 : Value := .float ⟨0x43F0000000000000⟩

/-- A limit of `2 ^ 64` rows is cut down. -/
theorem counts_exact_iff_large :
    (∃ m : ℕ, twoPow64.rational? = some (m : ℚ) ∧
      ((18446744073709551615 : ℚ) = m ↔ (m : ℚ) < 2 ^ 64)) ∧
    ∃ c order, ofValue (.object [("limit", twoPow64)]) = .ok c ∧
      (c.selectText {} "t").outcome {} = (.ok "SELECT TOP 18446744073709551615 * FROM [t]", {}) ∧
      "SELECT TOP 18446744073709551615 * FROM [t]" =
        "SELECT " ++ (pageWords none (some 18446744073709551615)).1 ++ c.columnList ++ " FROM " ++
          Text.bracketed "t" ++ (c.whereClause ++ c.alternativesClause) ++ c.groupText ++ order := by
  obtain ⟨hexact, hpaged⟩ := counts_exact_iff [("limit", twoPow64)]
  constructor
  · obtain ⟨m, hm, -, hiff⟩ := hexact ("limit", twoPow64) List.mem_cons_self 18446744073709551615
      (by decide +kernel)
    exact ⟨m, hm, by simpa using hiff⟩
  · have hrational : twoPow64.rational? = some ((2 ^ 64 : ℕ) : ℚ) := by
      obtain ⟨hfinite, hvalue⟩ := Binary64.natural?_eq_some_iff.1
        (by decide +kernel : Binary64.natural? ⟨0x43F0000000000000⟩ = some (2 ^ 64))
      rw [twoPow64, Value.rational?, if_pos hfinite, hvalue]
    have hread : ofValue (.object [("limit", twoPow64)]) =
        .ok { limit := some 18446744073709551615 } := rfl
    have houtcome : (selectText {} "t" { limit := some 18446744073709551615 }).outcome {} =
        (.ok "SELECT TOP 18446744073709551615 * FROM [t]", {}) := by decide +kernel
    obtain ⟨skipped?, limit?, hskipped, hlimit, htext⟩ := hpaged _ hread
    have hnone : skipped? = none := by
      refine Option.eq_none_iff_forall_ne_some.2 fun n hn => ?_
      obtain ⟨m, -, hm, -⟩ := (hskipped n).1 hn
      cases hm
    have hsome : limit? = some 18446744073709551615 :=
      (hlimit _).2 ⟨2 ^ 64, by norm_num, hrational, by decide⟩
    obtain ⟨order, -, heq⟩ := htext {} "t" _ {} {} houtcome
    rw [hnone, hsome] at heq
    exact ⟨_, order, hread, houtcome, by simpa [pageWords] using heq⟩

end Criteria

end QuerySql
