/-
  Numbers in fields of fixed width.

  A layout is a list of fields; each has a number of digits and a mark that stands
  behind them.  `writeFields` writes numbers, with leading zeros, and `readFields?`
  reads such texts.

  If every number fits into its field, all texts of one layout are equally long
  (`length_writeFields`), they are read back (`readFields?_writeFields`), and the order
  of texts is that of the numbers, the first of them first
  (`writeFields_lt_writeFields_iff`).
-/
import QuerySql.Proofs.Number.Digits
import Mathlib.Data.List.Forall2
import Mathlib.Tactic.Tauto

namespace QuerySql.Text

open Number (padded digitsValue)

/-- Texts whose first parts are equally long are ordered by these first. -/
theorem append_lt_append_iff {cs ds us vs : List Char} (h : cs.length = ds.length) :
    cs ++ us < ds ++ vs ↔ cs < ds ∨ cs = ds ∧ us < vs := by
  induction cs generalizing ds with
  | nil =>
    obtain rfl := List.eq_nil_of_length_eq_zero h.symm
    simp
  | cons c cs ih =>
    obtain ⟨d, ds, rfl⟩ := List.exists_cons_of_length_eq_add_one h.symm
    rw [List.cons_append, List.cons_append, List.cons_lt_cons_iff, ih (Nat.succ.inj h),
      List.cons_lt_cons_iff, List.cons_eq_cons]
    tauto

/-! ## One field -/

/-- A field of a text: the number of its digits, and what stands behind them. -/
structure Field where
  width : ℕ
  mark : List Char
  width_pos : 0 < width := by decide

namespace Field

variable {f : Field} {n m : ℕ}

/-- The number in the field, with the mark behind it. -/
def write (f : Field) (n : ℕ) : List Char := padded f.width n ++ f.mark

/-- The number in the field at the start of a text, and the text behind the field. -/
def read? (f : Field) (cs : List Char) : Option (ℕ × List Char) :=
  let ds := cs.take f.width
  let rest := cs.drop f.width
  if ds.length = f.width ∧ ds.all Char.isDigit ∧ rest.take f.mark.length = f.mark then
    some (digitsValue ds, rest.drop f.mark.length)
  else none

/-- Whether a number has no more digits than the field. -/
def Fits (f : Field) (n : ℕ) : Prop := n < 10 ^ f.width

theorem Fits.length_padded (h : f.Fits n) : (padded f.width n).length = f.width :=
  Number.length_padded f.width_pos h

theorem Fits.length_write (h : f.Fits n) : (f.write n).length = f.width + f.mark.length := by
  rw [write, List.length_append, h.length_padded]

theorem read?_write (h : f.Fits n) (rest : List Char) :
    f.read? (f.write n ++ rest) = some (n, rest) := by
  have hlength := h.length_padded
  have hdigits : (padded f.width n).all Char.isDigit = true :=
    List.all_eq_true.2 fun _ => Number.isDigit_of_mem_padded
  rw [write, List.append_assoc]
  simp only [read?, List.take_left' hlength, List.drop_left' hlength, hlength, hdigits,
    List.take_left, List.drop_left, and_self, if_true, Number.digitsValue_padded]

/-- The order of texts that start with the same field. -/
theorem write_append_lt_iff (hn : f.Fits n) (hm : f.Fits m) {us vs : List Char} :
    f.write n ++ us < f.write m ++ vs ↔ n < m ∨ n = m ∧ us < vs := by
  have hnumber : padded f.width n = padded f.width m ↔ n = m :=
    ⟨fun h => by rw [← Number.digitsValue_padded f.width n, h, Number.digitsValue_padded],
      fun h => h ▸ rfl⟩
  have hmark : f.mark ++ us < f.mark ++ vs ↔ us < vs := by
    rw [append_lt_append_iff rfl, or_iff_right (List.lt_irrefl f.mark), and_iff_right rfl]
  rw [write, write, List.append_assoc, List.append_assoc,
    append_lt_append_iff (hn.length_padded.trans hm.length_padded.symm),
    Number.padded_lt_padded_iff f.width_pos hn hm, hnumber, hmark]

end Field

/-! ## Layouts -/

variable {layout : List Field} {ns ms : List ℕ}

/-- Numbers in the fields of a layout. -/
def writeFields : List Field → List ℕ → List Char
  | f :: layout, n :: ns => f.write n ++ writeFields layout ns
  | _, _ => []

/-- The numbers in the fields of a text that has nothing but these. -/
def readFields? : List Field → List Char → Option (List ℕ)
  | [], cs => if cs.isEmpty then some [] else none
  | f :: layout, cs => do
    let (n, rest) ← f.read? cs
    let ns ← readFields? layout rest
    some (n :: ns)

/-- Only digits and marks are written. -/
theorem mem_writeFields {c : Char} (h : c ∈ writeFields layout ns) :
    c.isDigit = true ∨ ∃ f ∈ layout, c ∈ f.mark := by
  induction layout generalizing ns with
  | nil => cases h
  | cons f layout ih =>
    cases ns with
    | nil => cases h
    | cons n ns =>
      obtain hfirst | hlater := List.mem_append.1 h
      · exact (List.mem_append.1 hfirst).imp Number.isDigit_of_mem_padded
          fun hmark => ⟨f, List.mem_cons_self, hmark⟩
      · obtain hdigit | ⟨g, hg, hmark⟩ := ih hlater
        · exact Or.inl hdigit
        · exact Or.inr ⟨g, List.mem_cons_of_mem f hg, hmark⟩

theorem length_writeFields (h : List.Forall₂ Field.Fits layout ns) :
    (writeFields layout ns).length = (layout.map fun f => f.width + f.mark.length).sum := by
  induction h with
  | nil => rfl
  | cons hn _ ih => rw [writeFields, List.length_append, hn.length_write, ih, List.map_cons,
      List.sum_cons]

/-- **Fields are read back.** -/
theorem readFields?_writeFields (h : List.Forall₂ Field.Fits layout ns) :
    readFields? layout (writeFields layout ns) = some ns := by
  induction h with
  | nil => rfl
  | cons hn _ ih => simp only [writeFields, readFields?, Field.read?_write hn, ih,
      Option.bind_eq_bind, Option.bind_some]

/-- **The order of the texts is that of the numbers.** -/
theorem writeFields_lt_writeFields_iff (hn : List.Forall₂ Field.Fits layout ns)
    (hm : List.Forall₂ Field.Fits layout ms) :
    writeFields layout ns < writeFields layout ms ↔ ns < ms := by
  induction hn generalizing ms with
  | nil =>
    cases hm
    exact iff_of_false (List.not_lt_nil _) (List.not_lt_nil _)
  | cons hn _ ih =>
    cases hm with
    | cons hm hms =>
      rw [writeFields, writeFields, Field.write_append_lt_iff hn hm, ih hms,
        List.cons_lt_cons_iff]

end QuerySql.Text
