import Spreadsheet.Proofs.Position.Label
import Spreadsheet.Proofs.Sheet.Evaluation
import Spreadsheet.Proofs.Token.Grammar

/-!
# Labels as formulas

A label is read in two ways: as the name of a cell, whole, and as the text of a formula, token by
token, where a reference takes one row digit only. The two agree on the first nine rows.

* `compile_label_near`: there the formula is one reference, and on a sheet it gives what the label
  shows (`evaluate_cell`, `value_label`).
* `compile_label_far`: from the tenth row on, the formula is a reference to the row of the first
  digit and a number of the remaining digits, or it has no program because that number is out of
  range.
* `evaluate_label` puts them together.
-/

namespace Spreadsheet

open Spreadsheet.Text

variable {p q : Position} {row : Int} {rest : List Char}

/-! ## 1. Row numbers of one digit, and of more -/

theorem decimalDigits_near (h0 : 0 ≤ row) (h : row < 9) :
    decimalDigits (row.toNat + 1) = [Position.rowDigit row] :=
  Nat.toDigits_of_lt_base (by omega)

/-- **Behind the first nine rows a row number is a row digit and further digits.** -/
theorem decimalDigits_far (h : 9 ≤ row) :
    ∃ first rest, (0 ≤ first ∧ first < 9) ∧ rest ≠ [] ∧ (∀ d ∈ rest, d.isDigit = true) ∧
      decimalDigits (row.toNat + 1) = Position.rowDigit first :: rest := by
  obtain ⟨c, rest, form, leading⟩ := exists_leading_digit row.toNat.succ_pos
  have found : rowOf? c = some ((c.toNat : Int) - 49) := by rw [rowOf?, if_pos leading]
  have digits : ∀ d ∈ c :: rest, d.isDigit = true := fun d member =>
    isDigit_of_mem_decimalDigits (form ▸ member)
  refine ⟨_, rest, rowOf?_bounds found, ?_, (List.forall_mem_cons.mp digits).2, ?_⟩
  · rintro rfl
    have one : (decimalDigits (row.toNat + 1)).length ≤ 1 := by simp [form]
    have small := (length_decimalDigits_le_iff Nat.one_pos).mp one
    omega
  · rw [← eq_rowDigit found]
    exact form

/-- A position that a formula can refer to has the label that refers to it. -/
theorem label_of_referable (h : Referable p) :
    p.label = .ok (ofChars [Position.letterOf p.column, Position.rowDigit p.row]) := by
  have one := decimalDigits_near h.2.1 h.2.2
  have writable : p.WritableRow := by
    rw [Position.writableRow_iff h.2.1, one]
    exact (by decide : 1 ≤ digitLimit)
  rw [Position.label_eq_ok_iff, one]
  exact ⟨⟨h.1, h.2.1⟩, writable, rfl⟩

/-! ## 2. The formula of a label -/

/-- **In the first nine rows the formula is one reference.** -/
theorem compile_label_near (h : Referable p) :
    Expression.compile (formulaMarker ::
        ofChars [Position.letterOf p.column, Position.rowDigit p.row]) =
      .ok ⟨formulaMarker :: ofChars [Position.letterOf p.column, Position.rowDigit p.row],
        some [.operand (.cell p)]⟩ := by
  have one := scan_reference_append h []
  rw [List.append_nil, scan_nil] at one
  rw [compile_marked, one]
  rfl

/-- **Behind them it is a reference and a number,** which compile together when the number fits. -/
theorem compile_label_far (h : Referable q) (some : rest ≠ [])
    (digits : ∀ d ∈ rest, d.isDigit = true) (short : rest.length ≤ digitLimit) :
    ∃ e, Expression.compile (formulaMarker ::
        ofChars (Position.letterOf q.column :: Position.rowDigit q.row :: rest)) = .ok e ∧
      e.references = if (digitsValue rest : Int) ≤ int64Max then [q] else [] := by
  have both : scan (ofChars (Position.letterOf q.column :: Position.rowDigit q.row :: rest)) =
      [.reference q, .digits rest] := by
    rw [← scan_digits some digits]
    exact scan_reference_append h (ofChars rest)
  rw [compile_marked, both, Expression.instructions, Expression.instructions,
    token_of_digits short]
  by_cases fits : (digitsValue rest : Int) ≤ int64Max
  · simp only [fits, if_true]
    exact ⟨_, rfl, rfl⟩
  · simp only [fits, if_false]
    exact ⟨_, rfl, rfl⟩

namespace Sheet

variable {s : Sheet} {l text : Text}

/-! ## 3. The label and its formula on a sheet -/

/-- **A label shows what its position shows.** -/
theorem value_label (h : p.label = .ok l) (s : Sheet) : s.value (.label l) = .ok (s.valueAt p) := by
  rw [value, Key.position, Position.ofLabel_label h]
  rfl

theorem valueAt_of_not_contains (h : p.label = .ok l) (outside : s.contains (.label l) = false) :
    s.valueAt p = none := by
  rw [contains, Key.position, Position.ofLabel_label h] at outside
  rw [valueAt, if_neg (Bool.eq_false_iff.mp outside)]

/-- **A formula of one reference gives the number that is there,** or the error that tells that there
    is none. -/
theorem evaluate_cell (h : p.isNegative = false) (text : Text) (s : Sheet) :
    s.evaluate ⟨text, some [.operand (.cell p)]⟩ =
      .ok ((s.valueAt p).elim (.error .cellNotFound) .value) := by
  have run : Expression.execute ⟨text, some [.operand (.cell p)]⟩ (some s.valueAt) =
      ⟨(s.valueAt p).elim (.error .cellNotFound) .value, [p]⟩ := by
    show Program.run (some s.valueAt) [.operand (.cell p)] [] = _
    cases shown : s.valueAt p with
    | none =>
      exact Program.run_cons_of_error _ (Program.step_cell_eq_error_iff.mpr ⟨shown, rfl⟩)
    | some n =>
      have step : Program.step (some s.valueAt) (.operand (.cell p)) [] = .ok [n] := by
        simp only [Program.step, Program.operandValue, shown, Except.map]
      exact Program.run_cons_of_ok _ step
  have none : [p].find? Position.isNegative = none := by simp [h]
  simp only [evaluate, run, none]

/-! ## 4. Where the two readings agree -/

/-- **A label and the formula of its text agree on the first nine rows.** Every position in a lettered
    column and a row that is not negative and can be written has a label whose formula compiles. In the
    first nine rows it refers to the position alone, and on every sheet it gives the number that the
    label shows, or tells that there is no cell where the label shows none, as it does outside the
    sheet. Behind these rows it never refers to the position: it refers to the one named by the column
    letter and the first digit of the row number, or to none, when the digits behind that one are too
    great a number. -/
theorem evaluate_label (above : 0 ≤ p.column) (below : p.column < 26) (row : 0 ≤ p.row)
    (writable : p.WritableRow) :
    ∃ l e, p.label = .ok l ∧ Expression.compile (formulaMarker :: l) = .ok e ∧
      (p.row ≤ 8 → e.references = [p] ∧ ∀ s : Sheet,
        (∀ n, s.value (.label l) = .ok (some n) → s.evaluate e = .ok (.value n)) ∧
        (s.value (.label l) = .ok none → s.evaluate e = .ok (.error .cellNotFound)) ∧
        (∃ shown, s.value (.label l) = .ok shown) ∧
        (s.contains (.label l) = false → s.value (.label l) = .ok none)) ∧
      (9 ≤ p.row → p ∉ e.references ∧
        ∃ q, q.column = p.column ∧ q.label = .ok (l.take 2) ∧ e.references =
          if (digitsValue (decimalDigits (p.row.toNat + 1)).tail : Int) ≤ int64Max then [q]
          else []) := by
  by_cases near : p.row ≤ 8
  · have referable : Referable p := ⟨⟨above, below⟩, row, Int.lt_of_le_sub_one near⟩
    have written := label_of_referable referable
    have solid : p.isNegative = false := Position.isNegative_eq_false_iff.mpr ⟨above, row⟩
    refine ⟨_, _, written, compile_label_near referable, fun _ => ⟨rfl, fun s => ?_⟩, fun far => ?_⟩
    · rw [value_label written, evaluate_cell solid]
      refine ⟨fun n shown => ?_, fun shown => ?_, ⟨_, rfl⟩, fun outside => ?_⟩
      · rw [Except.ok.inj shown, Option.elim_some]
      · rw [Except.ok.inj shown, Option.elim_none]
      · rw [valueAt_of_not_contains written outside]
    · omega
  · have far : 9 ≤ p.row := by omega
    obtain ⟨first, rest, digit, some, digits, form⟩ := decimalDigits_far far
    have written := Position.label_eq_ok_iff.mpr ⟨⟨⟨above, below⟩, row⟩, writable, rfl⟩
    have short := (Position.writableRow_iff row).mp writable
    rw [form] at written short
    have named : Referable ⟨p.column, first⟩ := ⟨⟨above, below⟩, digit⟩
    obtain ⟨e, compiled, references⟩ :=
      compile_label_far named some digits (Nat.le_of_succ_le short)
    refine ⟨_, e, written, compiled, fun near => ?_, fun _ => ⟨fun member => ?_, ?_⟩⟩
    · omega
    · have bound := (Expression.bounds_of_compile compiled p member).2.2
      omega
    · rw [form, List.tail_cons]
      exact ⟨⟨p.column, first⟩, rfl, label_of_referable named, references⟩

/-- The general statement at `Z9`, the last place where the two readings agree, and at `B12`, whose
    formula refers to `B1`. -/
theorem evaluate_label_digits :
    (∃ e, Expression.compile (ofString "=Z9") = .ok e ∧ e.references = [⟨25, 8⟩] ∧
      ∀ s : Sheet, s.contains (.label (ofString "Z9")) = false →
        s.evaluate e = .ok (.error .cellNotFound)) ∧
    ∃ e, Expression.compile (ofString "=B12") = .ok e ∧ e.references = [⟨1, 0⟩] ∧
      ⟨1, 11⟩ ∉ e.references := by
  have writable : (⟨25, 8⟩ : Position).WritableRow :=
    (Position.writableRow_iff (by decide)).mpr (by decide)
  have writable' : (⟨1, 11⟩ : Position).WritableRow :=
    (Position.writableRow_iff (by decide)).mpr (by decide)
  obtain ⟨l, e, written, compiled, near, -⟩ :=
    evaluate_label (p := ⟨25, 8⟩) (by decide) (by decide) (by decide) writable
  obtain ⟨l', e', written', compiled', -, far⟩ :=
    evaluate_label (p := ⟨1, 11⟩) (by decide) (by decide) (by decide) writable'
  have form : l = ofString "Z9" := Except.ok.inj (written.symm.trans (by decide))
  have form' : l' = ofString "B12" := Except.ok.inj (written'.symm.trans (by decide))
  subst form
  subst form'
  obtain ⟨references, shows⟩ := near (by decide)
  obtain ⟨apart, q, column, named, references'⟩ := far (by decide)
  have first : q = ⟨1, 0⟩ := by
    have reread := Position.ofLabel_eq_ok_iff.mpr
      (show q.label = .ok (Position.normalLabel (ofString "B1")) from named)
    exact Except.ok.inj (reread.symm.trans (by decide))
  refine ⟨⟨e, compiled, references, fun s outside => ?_⟩, e', compiled', ?_, apart⟩
  · obtain ⟨-, missing, -, absent⟩ := shows s
    exact missing (absent outside)
  · rw [references', first]
    rfl

end Sheet

end Spreadsheet
