import Spreadsheet.Program.Execution

/-!
# Programs calculate within 64 bits

A run checks the range of what its operations give, and of nothing else: a literal and the number of
a cell go onto the stack as they are. So a run stays within 64 bits as long as its literals and its
source do.

* `Operator.fits_of_apply`: an operation that gives a number gives one of 64 bits.
* `Operator.apply_div_eq_overflow_iff`: of all quotients of 64-bit numbers one is out of range.
* `fits_of_step`, `fits_of_stackAfter`: an instruction keeps the stack within 64 bits, and so does a
  program.
* `fits_of_execute`: the result of a run is an error or a 64-bit number.
-/

namespace Spreadsheet

/-! ## 1. Operations -/

namespace Operator

variable {o : Operator} {left right n : Int}

/-- **An operation that gives a number gives one of 64 bits,** whatever its operands. -/
theorem fits_of_apply (h : o.apply left right = .ok n) : fitsInt64 n = true := by
  unfold apply at h
  split at h
  · cases h
  · split at h
    · rename_i fits
      cases h
      exact fits
    · cases h

/-- **One quotient of 64-bit numbers is out of range:** the least number divided by -1. -/
theorem fits_tdiv_iff (fits : fitsInt64 left = true) (nonzero : right ≠ 0) :
    fitsInt64 (left.tdiv right) = true ↔ ¬ (left = int64Min ∧ right = -1) := by
  rw [fitsInt64_iff] at fits ⊢
  unfold int64Min int64Max at *
  by_cases unit : right = 1 ∨ right = -1
  · rcases unit with rfl | rfl
    · rw [Int.tdiv_one]
      omega
    · rw [Int.tdiv_neg, Int.tdiv_one]
      omega
  · -- any other divisor halves the magnitude at least
    have halved : (left.tdiv right).natAbs ≤ left.natAbs / 2 := by
      rw [Int.natAbs_tdiv]
      exact Nat.div_le_div_left (by omega) (by decide)
    omega

/-- **A quotient of a 64-bit number overflows for the least one divided by -1 only.** -/
theorem apply_div_eq_overflow_iff (fits : fitsInt64 left = true) :
    div.apply left right = .error .overflow ↔ left = int64Min ∧ right = -1 := by
  by_cases zero : right = 0
  · simp [apply, zero]
  · have quotient := fits_tdiv_iff fits zero
    unfold apply exact
    rw [if_neg (fun both => zero both.2)]
    by_cases lone : left = int64Min ∧ right = -1
    · have outside : ¬ fitsInt64 (left.tdiv right) = true := fun inside => quotient.mp inside lone
      rw [if_neg outside]
      exact iff_of_true rfl lone
    · rw [if_pos (quotient.mpr lone)]
      exact iff_of_false nofun lone

end Operator

/-! ## 2. One instruction -/

/-- The literals of the program fit 64 bits. -/
def Program.Fits (program : Program) : Prop :=
  ∀ n, Instruction.operand (.number n) ∈ program → fitsInt64 n = true

/-- The numbers that the source finds fit 64 bits. -/
def Source.Fits (values : Source) : Prop := ∀ p n, values p = some n → fitsInt64 n = true

namespace Program

variable {source : Option Source} {program : Program} {i : Instruction} {stack stack' : List Int}

theorem fits_of_operandValue {x : Operand} {n : Int}
    (literal : ∀ m, x = .number m → fitsInt64 m = true) (cells : ∀ values ∈ source, values.Fits)
    (read : operandValue source x = .ok n) : fitsInt64 n = true := by
  cases x with
  | number m =>
    cases read
    exact literal n rfl
  | cell p =>
    cases source with
    | none => cases read
    | some values =>
      cases found : values p with
      | none =>
        simp only [operandValue, found] at read
        cases read
      | some m =>
        simp only [operandValue, found] at read
        cases read
        exact cells values rfl p n found

/-- **An instruction keeps the stack within 64 bits.** -/
theorem fits_of_step (literal : ∀ n, i = .operand (.number n) → fitsInt64 n = true)
    (cells : ∀ values ∈ source, values.Fits) (fits : ∀ n ∈ stack, fitsInt64 n = true)
    (stepped : step source i stack = .ok stack') : ∀ n ∈ stack', fitsInt64 n = true := by
  cases i with
  | operand x =>
    cases read : operandValue source x with
    | error e =>
      simp only [step, read] at stepped
      cases stepped
    | ok n =>
      simp only [step, read] at stepped
      cases stepped
      have pushed : fitsInt64 n = true :=
        fits_of_operandValue (fun m same => literal m (same ▸ rfl)) cells read
      exact List.forall_mem_cons.mpr ⟨pushed, fits⟩
  | operator o =>
    match stack, stepped with
    | [], stepped | [_], stepped => cases stepped
    | right :: left :: stack, stepped =>
      cases applied : o.apply left right with
      | error e =>
        simp only [step, applied] at stepped
        cases stepped
      | ok n =>
        simp only [step, applied] at stepped
        cases stepped
        have below : ∀ m ∈ stack, fitsInt64 m = true := fun m hm =>
          fits m (List.mem_cons_of_mem _ (List.mem_cons_of_mem _ hm))
        exact List.forall_mem_cons.mpr ⟨Operator.fits_of_apply applied, below⟩

/-! ## 3. Whole runs -/

/-- The stack that a program leaves, or the error that ends its run. -/
def stackAfter (source : Option Source) (program : Program) (stack : List Int) :
    Except ErrorValue (List Int) :=
  program.foldlM (fun stack i => step source i stack) stack

theorem stackAfter_cons (source : Option Source) (i : Instruction) (rest : Program)
    (stack : List Int) :
    stackAfter source (i :: rest) stack = (step source i stack).bind (stackAfter source rest) :=
  List.foldlM_cons ..

/-- The result of a run is the top of the stack that its program leaves. -/
theorem result_run (source : Option Source) (program : Program) (stack : List Int) :
    (run source program stack).result =
      match stackAfter source program stack with
      | .ok stack => topResult stack
      | .error e => .error e := by
  induction program generalizing stack with
  | nil => rfl
  | cons i rest ih =>
    rw [stackAfter_cons]
    cases stepped : step source i stack with
    | error e =>
      rw [run_cons_of_error rest stepped]
      rfl
    | ok stack' =>
      rw [run_cons_of_ok rest stepped, ih]
      rfl

/-- **A program keeps the stack within 64 bits.** -/
theorem fits_of_stackAfter (literals : program.Fits) (cells : ∀ values ∈ source, values.Fits)
    (fits : ∀ n ∈ stack, fitsInt64 n = true)
    (left : stackAfter source program stack = .ok stack') : ∀ n ∈ stack', fitsInt64 n = true := by
  induction program generalizing stack with
  | nil =>
    cases left
    exact fits
  | cons i rest ih =>
    rw [stackAfter_cons] at left
    cases stepped : step source i stack with
    | error e =>
      rw [stepped] at left
      cases left
    | ok between =>
      rw [stepped] at left
      have here : ∀ n, i = .operand (.number n) → fitsInt64 n = true := fun n same =>
        literals n (same ▸ List.mem_cons_self)
      have later : Fits rest := fun n hn => literals n (List.mem_cons_of_mem _ hn)
      exact ih later (fits_of_step here cells fits stepped) left

/-- **A run ends with an error or a 64-bit number.** -/
theorem fits_of_execute {program : Option Program} {n : Int}
    (literals : ∀ instructions ∈ program, instructions.Fits)
    (cells : ∀ values ∈ source, values.Fits) (h : (execute program source).result = .value n) :
    fitsInt64 n = true := by
  cases program with
  | none => cases h
  | some program =>
    have ended : (run source program []).result = .value n := h
    rw [result_run] at ended
    cases left : stackAfter source program [] with
    | error e =>
      rw [left] at ended
      cases ended
    | ok stack =>
      rw [left] at ended
      cases stack with
      | nil => cases ended
      | cons top below =>
        cases ended
        have all := fits_of_stackAfter (literals program rfl) cells (by simp) left
        exact all n List.mem_cons_self

/-- **A division that a run comes to overflows for the least number divided by -1 only.** -/
theorem step_div_eq_overflow_iff {before later : Program} {left right : Int}
    (literals : Fits (before ++ .operator .div :: later))
    (cells : ∀ values ∈ source, values.Fits)
    (reached : stackAfter source before [] = .ok (right :: left :: stack)) :
    step source (.operator .div) (right :: left :: stack) = .error .overflow ↔
      left = int64Min ∧ right = -1 := by
  have earlier : Fits before := fun n hn => literals n (List.mem_append_left _ hn)
  have all := fits_of_stackAfter earlier cells (by simp) reached
  have divided : fitsInt64 left = true := all left (by simp)
  rw [← Operator.apply_div_eq_overflow_iff divided]
  cases applied : Operator.div.apply left right <;> simp [step, applied, Except.map]

end Program

end Spreadsheet
