import Spreadsheet.Program.Execution

/-!
# What a run reads

A run looks at the cells that its program refers to, and at nothing else: it asks for them one after
the other (`reads_run_from_first`), and two sources that agree on them cannot be told apart
(`run_congr`), nor a source from none where there is no such cell. A cell without a number ends the
run (`ends_of_missing`), and a run that gives a number has asked for all of them
(`reads_run_of_value`).

With a source at hand a run fails in one of four ways only (`Runtime`): the other error values come
from compiling and from storing a formula, never from running it.
-/

namespace Spreadsheet

namespace Program

variable {values : Source} {source source' : Option Source} {program : Program} {i : Instruction}
variable {p : Position} {stack stack' : List Int} {n : Int}

/-! ## 1. One instruction -/

theorem cell?_eq_some_iff : i.cell? = some p ↔ i = .operand (.cell p) := by
  obtain ⟨⟨n⟩ | ⟨q⟩⟩ | ⟨o⟩ := i <;> simp [Instruction.cell?, Instruction.operand?, Operand.cell?]

/-- An instruction that does not fail asks for the cell that it reads. -/
theorem asked_of_step (h : step source i stack = .ok stack') : asked source i = i.cell?.toList := by
  cases source with
  | some values => rfl
  | none =>
    obtain ⟨⟨n⟩ | ⟨q⟩⟩ | ⟨o⟩ := i
    · rfl
    · cases h
    · rfl

theorem asked_from_first (source : Option Source) (i : Instruction) :
    asked source i <+: i.cell?.toList := by
  unfold asked
  split
  · exact List.prefix_rfl
  · exact List.nil_prefix

/-- **An instruction looks at its own cell only,** and at whether there is a source to ask for it. -/
theorem step_congr (same : ∀ p, i = .operand (.cell p) → source.map (· p) = source'.map (· p))
    (stack : List Int) :
    step source i stack = step source' i stack ∧ asked source i = asked source' i := by
  obtain ⟨⟨n⟩ | ⟨p⟩⟩ | ⟨o⟩ := i
  · exact ⟨rfl, by simp [asked, Instruction.cell?, Instruction.operand?, Operand.cell?]⟩
  · have here := same p rfl
    cases source with
    | none =>
      cases source' with
      | none => exact ⟨rfl, rfl⟩
      | some values => cases here
    | some values =>
      cases source' with
      | none => cases here
      | some values' =>
        have found : values p = values' p := Option.some.inj here
        exact ⟨by simp only [step, operandValue, found], rfl⟩
  · refine ⟨?_, by simp [asked, Instruction.cell?, Instruction.operand?]⟩
    rcases stack with _ | ⟨right, _ | ⟨left, stack⟩⟩ <;> rfl

/-- A cell without a number fails, and no other cell does. -/
theorem step_cell_eq_error_iff {e : ErrorValue} :
    step (some values) (.operand (.cell p)) stack = .error e ↔
      values p = none ∧ e = .cellNotFound := by
  cases found : values p with
  | none => simp [step, operandValue, found, Except.map, eq_comm]
  | some n => simp [step, operandValue, found, Except.map]

/-- The errors that a run with a source can end with. -/
def Runtime (e : ErrorValue) : Prop :=
  e = .outOfStack ∨ e = .divisionByZero ∨ e = .cellNotFound ∨ e = .overflow

/-- An operation fails for one of two reasons. -/
theorem error_of_apply {o : Operator} {left right : Int} {e : ErrorValue}
    (h : o.apply left right = .error e) : e = .divisionByZero ∨ e = .overflow := by
  unfold Operator.apply at h
  split at h
  · cases h
    exact .inl rfl
  · split at h
    · cases h
    · cases h
      exact .inr rfl

theorem runtime_of_apply {o : Operator} {left right : Int} {e : ErrorValue}
    (h : o.apply left right = .error e) : Runtime e := by
  rcases error_of_apply h with division | overflow
  · exact .inr (.inl division)
  · exact .inr (.inr (.inr overflow))

theorem runtime_of_step {stack : List Int} {e : ErrorValue}
    (h : step (some values) i stack = .error e) : Runtime e := by
  obtain ⟨⟨n⟩ | ⟨p⟩⟩ | ⟨o⟩ := i
  · cases h
  · simp only [step, operandValue] at h
    cases found : values p with
    | none =>
      rw [found] at h
      cases h
      exact .inr (.inr (.inl rfl))
    | some n =>
      rw [found] at h
      cases h
  · match stack, h with
    | [], h | [_], h =>
      cases h
      exact .inl rfl
    | right :: left :: stack, h =>
      cases applied : o.apply left right with
      | error e' =>
        simp only [step, applied] at h
        cases h
        exact runtime_of_apply applied
      | ok n =>
        simp only [step, applied] at h
        cases h

/-! ## 2. Whole runs -/

/-- **Sources that agree on the cells of a program give the same run,** and so do a source and none
    when there is no such cell. -/
theorem run_congr (same : ∀ p, Instruction.operand (.cell p) ∈ program →
      source.map (· p) = source'.map (· p)) (stack : List Int) :
    run source program stack = run source' program stack := by
  induction program generalizing stack with
  | nil => rfl
  | cons i rest ih =>
    obtain ⟨first, asks⟩ : step source i stack = step source' i stack ∧
        asked source i = asked source' i :=
      step_congr (fun p hp => same p (hp ▸ List.mem_cons_self)) stack
    cases stepped : step source i stack with
    | error e =>
      rw [run_cons_of_error rest stepped, run_cons_of_error rest (first ▸ stepped), asks]
    | ok stack' =>
      rw [run_cons_of_ok rest stepped, run_cons_of_ok rest (first ▸ stepped), asks,
        ih fun p hp => same p (List.mem_cons_of_mem _ hp)]

theorem cells_cons (i : Instruction) (rest : Program) :
    (i :: rest).filterMap Instruction.cell? =
      i.cell?.toList ++ rest.filterMap Instruction.cell? := by
  cases reads : i.cell? <;> simp [reads]

/-- **A run asks for the cells of its program one after the other,** each as often as it comes. -/
theorem reads_run_from_first (source : Option Source) (program : Program) (stack : List Int) :
    (run source program stack).reads <+: program.filterMap Instruction.cell? := by
  induction program generalizing stack with
  | nil => exact List.nil_prefix
  | cons i rest ih =>
    rw [cells_cons]
    cases stepped : step source i stack with
    | error e =>
      rw [run_cons_of_error rest stepped]
      exact (asked_from_first source i).trans (List.prefix_append _ _)
    | ok stack' =>
      rw [run_cons_of_ok rest stepped, asked_of_step stepped]
      exact (List.prefix_append_right_inj _).mpr (ih stack')

/-- **A run that gives a number has asked for all of them.** -/
theorem reads_run_of_value (h : (run source program stack).result = .value n) :
    (run source program stack).reads = program.filterMap Instruction.cell? := by
  induction program generalizing stack with
  | nil => rfl
  | cons i rest ih =>
    cases stepped : step source i stack with
    | error e =>
      rw [run_cons_of_error rest stepped] at h
      cases h
    | ok stack' =>
      rw [run_cons_of_ok rest stepped] at h ⊢
      rw [cells_cons, asked_of_step stepped, ih h]

/-- **A cell without a number is the last one that is asked for,** and the result says so. -/
theorem ends_of_missing {before after : List Position}
    (reads : (run (some values) program stack).reads = before ++ p :: after)
    (missing : values p = none) :
    after = [] ∧ (run (some values) program stack).result = .error .cellNotFound := by
  induction program generalizing stack before with
  | nil => simp at reads
  | cons i rest ih =>
    cases stepped : step (some values) i stack with
    | error e =>
      rw [run_cons_of_error rest stepped] at reads ⊢
      have here : i.cell?.toList = before ++ p :: after := reads
      cases cell : i.cell? with
      | none => simp [cell] at here
      | some q =>
        rw [cell, Option.toList_some, List.singleton_eq_append_iff] at here
        obtain ⟨-, same⟩ | ⟨-, absurd⟩ := here
        · cases same
          cases cell?_eq_some_iff.mp cell
          exact ⟨rfl, congrArg _ (step_cell_eq_error_iff.mp stepped).2⟩
        · cases absurd
    | ok stack' =>
      rw [run_cons_of_ok rest stepped, asked_of_step stepped] at reads
      rw [run_cons_of_ok rest stepped]
      cases cell : i.cell? with
      | none =>
        rw [cell, Option.toList_none, List.nil_append] at reads
        exact ih reads
      | some q =>
        rw [cell, Option.toList_some, List.singleton_append] at reads
        cases before with
        | nil =>
          cases reads
          cases cell?_eq_some_iff.mp cell
          have failed : step (some values) (.operand (.cell p)) stack = .error .cellNotFound :=
            step_cell_eq_error_iff.mpr ⟨missing, rfl⟩
          rw [stepped] at failed
          cases failed
        | cons first before => exact ih (List.cons.inj reads).2

/-- **A run asks for no cell that its program does not refer to.** -/
theorem mem_of_mem_reads (h : p ∈ (run source program stack).reads) :
    Instruction.operand (.cell p) ∈ program := by
  obtain ⟨i, member, reads⟩ :=
    List.mem_filterMap.mp ((reads_run_from_first source program stack).subset h)
  exact cell?_eq_some_iff.mp reads ▸ member

/-- **A run with a source fails in one of four ways only.** -/
theorem runtime_of_run {program : Program} {stack : List Int} {e : ErrorValue}
    (h : (run (some values) program stack).result = .error e) : Runtime e := by
  induction program generalizing stack with
  | nil =>
    cases stack with
    | nil =>
      cases h
      exact .inl rfl
    | cons n stack => cases h
  | cons i rest ih =>
    cases stepped : step (some values) i stack with
    | error e' =>
      rw [run_cons_of_error rest stepped] at h
      cases h
      exact runtime_of_step stepped
    | ok stack' =>
      rw [run_cons_of_ok rest stepped] at h
      exact ih h

end Program

end Spreadsheet
