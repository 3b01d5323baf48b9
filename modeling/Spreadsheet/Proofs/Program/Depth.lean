import Mathlib.Data.List.Induction
import Spreadsheet.Proofs.Program.Bounds
import Spreadsheet.Proofs.Program.Postfix
import Spreadsheet.Proofs.Program.Reads

/-!
# How deep the stack is

How many numbers lie on the stack does not depend on what they are, nor on the source: it is counted
along the program (`depth`), up to the first operator that finds fewer than two (`LacksAfter`). The
count tells when a run lacks operands.

* `depthAfter_of_step`, `depth_of_stackAfter`: the count is right as long as nothing fails.
* `step_eq_outOfStack_iff`: an instruction lacks operands exactly when the count says so, so every
  other failure comes from somewhere else (`FailsWith`).
* `result_of_lacksAfter`: a run comes to the operator that lacks operands, or it fails before.
* `depth_add_operators`: what the count ends with is the number of operands less that of operators.
* `outOfStack_exact` puts them together; arranging a formula changes neither of the two numbers.
-/

namespace Spreadsheet

namespace Program

variable {source : Option Source} {program before : Program} {i : Instruction}
variable {stack stack' : List Int} {e : ErrorValue} {start d : Nat}

/-! ## 1. Counting -/

/-- How many numbers lie on the stack after an instruction, if there are enough for it: an operand
    adds one, an operator takes two and puts one in their place. -/
def depthAfter (depth : Nat) : Instruction → Option Nat
  | .operand _ => some (depth + 1)
  | .operator _ => if 2 ≤ depth then some (depth - 1) else none

/-- How many numbers lie on the stack after a program, unless one of its operators finds too few. -/
def depth (start : Nat) (program : Program) : Option Nat := program.foldlM depthAfter start

/-- Behind `before` the program has its first operator that finds fewer than two numbers. -/
def LacksAfter (program before : Program) : Prop :=
  ∃ o later d, program = before ++ .operator o :: later ∧ depth 0 before = some d ∧ d < 2

theorem depth_append (start : Nat) (first second : Program) :
    depth start (first ++ second) = (depth start first).bind fun d => depth d second :=
  List.foldlM_append

theorem depth_singleton (start : Nat) (i : Instruction) : depth start [i] = depthAfter start i := by
  simp [depth]

theorem depthAfter_operator_eq_some_iff {o : Operator} :
    depthAfter start (.operator o) = some d ↔ 2 ≤ start ∧ start - 1 = d := by
  simp [depthAfter]

theorem depthAfter_operator_eq_none_iff {o : Operator} :
    depthAfter start (.operator o) = none ↔ start < 2 := by
  simp [depthAfter]

theorem depthAfter_pos (h : depthAfter start i = some d) : 0 < d := by
  cases i with
  | operand x =>
    cases h
    exact Nat.succ_pos start
  | operator o =>
    have := depthAfter_operator_eq_some_iff.mp h
    omega

/-- **A program leaves something on the stack,** unless it is empty. -/
theorem depth_pos (nonempty : program ≠ []) (h : depth start program = some d) : 0 < d := by
  induction program using List.reverseRecOn with
  | nil => exact absurd rfl nonempty
  | append_singleton first i _ =>
    rw [depth_append] at h
    obtain ⟨d', -, last⟩ := Option.bind_eq_some_iff.mp h
    exact depthAfter_pos ((depth_singleton d' i).symm.trans last)

/-- **A program whose operators do not all find enough has a first one that does not.** -/
theorem exists_lacksAfter (h : depth 0 program = none) : ∃ before, LacksAfter program before := by
  induction program using List.reverseRecOn with
  | nil => cases h
  | append_singleton first i ih =>
    cases counted : depth 0 first with
    | none =>
      obtain ⟨before, o, later, d, rfl, enough, few⟩ := ih counted
      exact ⟨before, o, later ++ [i], d, by simp, enough, few⟩
    | some d =>
      rw [depth_append, counted, Option.bind_some, depth_singleton] at h
      cases i with
      | operand x => cases h
      | operator o => exact ⟨first, o, [], d, rfl, counted, depthAfter_operator_eq_none_iff.mp h⟩

/-- **What the count ends with is the number of operands less that of operators.** -/
theorem depth_add_operators (h : depth start program = some d) :
    d + (program.filterMap Instruction.operator?).length =
      start + (program.filterMap Instruction.operand?).length := by
  induction program generalizing start with
  | nil =>
    cases h
    rfl
  | cons i rest ih =>
    rw [← List.singleton_append, depth_append, depth_singleton] at h
    obtain ⟨d', first, later⟩ := Option.bind_eq_some_iff.mp h
    have counted := ih later
    cases i with
    | operand x =>
      cases first
      simp only [List.filterMap_cons, Instruction.operand?, Instruction.operator?,
        List.length_cons] at counted ⊢
      omega
    | operator o =>
      have := depthAfter_operator_eq_some_iff.mp first
      simp only [List.filterMap_cons, Instruction.operand?, Instruction.operator?,
        List.length_cons] at counted ⊢
      omega

/-! ## 2. The count and the stack -/

/-- **The count follows the stack** through an instruction that does not fail. -/
theorem depthAfter_of_step (h : step source i stack = .ok stack') :
    depthAfter stack.length i = some stack'.length := by
  cases i with
  | operand x =>
    cases read : operandValue source x with
    | error e =>
      simp only [step, read] at h
      cases h
    | ok n =>
      simp only [step, read] at h
      cases h
      rfl
  | operator o =>
    rcases stack with _ | ⟨right, _ | ⟨left, stack⟩⟩
    · cases h
    · cases h
    · cases applied : o.apply left right with
      | error e =>
        simp only [step, applied] at h
        cases h
      | ok n =>
        simp only [step, applied] at h
        cases h
        simp [depthAfter]

theorem operandValue_ne_outOfStack (source : Option Source) (x : Operand) :
    operandValue source x ≠ .error .outOfStack := by
  cases x with
  | number n => exact nofun
  | cell p =>
    cases source with
    | none => exact nofun
    | some values =>
      cases found : values p with
      | none => simp [operandValue, found]
      | some n => simp [operandValue, found]

theorem apply_ne_outOfStack (o : Operator) (left right : Int) :
    o.apply left right ≠ .error .outOfStack := by
  intro lacks
  rcases error_of_apply lacks with other | other <;> cases other

/-- **An instruction lacks operands exactly when the count says so.** -/
theorem step_eq_outOfStack_iff :
    step source i stack = .error .outOfStack ↔ depthAfter stack.length i = none := by
  cases i with
  | operand x =>
    have other := operandValue_ne_outOfStack source x
    cases read : operandValue source x with
    | error e =>
      rw [read] at other
      simpa [step, read, depthAfter, Except.map] using other
    | ok n => simp [step, read, depthAfter, Except.map]
  | operator o =>
    rcases stack with _ | ⟨right, _ | ⟨left, stack⟩⟩
    · simp [step, depthAfter]
    · simp [step, depthAfter]
    · have other := apply_ne_outOfStack o left right
      cases applied : o.apply left right with
      | error e =>
        rw [applied] at other
        simpa [step, applied, depthAfter, Except.map] using other
      | ok n => simp [step, applied, depthAfter, Except.map]

theorem stackAfter_append (source : Option Source) (first second : Program) (stack : List Int) :
    stackAfter source (first ++ second) stack =
      (stackAfter source first stack).bind (stackAfter source second) :=
  List.foldlM_append

/-- The count follows the stack through a program in which nothing fails. -/
theorem depth_of_stackAfter (h : stackAfter source program stack = .ok stack') :
    depth stack.length program = some stack'.length := by
  induction program generalizing stack with
  | nil =>
    cases h
    rfl
  | cons i rest ih =>
    rw [stackAfter_cons] at h
    cases stepped : step source i stack with
    | error e =>
      rw [stepped] at h
      cases h
    | ok between =>
      rw [stepped] at h
      rw [← List.singleton_append, depth_append, depth_singleton, depthAfter_of_step stepped,
        Option.bind_some]
      exact ih h

/-! ## 3. Failures -/

/-- The run of the program comes to an instruction that fails with the error. -/
def FailsWith (source : Option Source) (program : Program) (e : ErrorValue) : Prop :=
  ∃ done i later stack, program = done ++ i :: later ∧
    stackAfter source done [] = .ok stack ∧ step source i stack = .error e

theorem stackAfter_eq_error_iff :
    stackAfter source program [] = .error e ↔ FailsWith source program e := by
  constructor
  · intro h
    induction program using List.reverseRecOn with
    | nil => cases h
    | append_singleton first i ih =>
      rw [stackAfter_append] at h
      cases reached : stackAfter source first [] with
      | error e' =>
        rw [reached] at h
        cases h
        obtain ⟨done, j, later, stack, rfl, ok, failed⟩ := ih reached
        exact ⟨done, j, later ++ [i], stack, by simp, ok, failed⟩
      | ok stack =>
        rw [reached] at h
        have failed : step source i stack = .error e := by
          simpa [stackAfter, Except.bind] using h
        exact ⟨first, i, [], stack, rfl, reached, failed⟩
  · rintro ⟨done, i, later, stack, rfl, ok, failed⟩
    rw [stackAfter_append, ok]
    show stackAfter source (i :: later) stack = .error e
    rw [stackAfter_cons, failed]
    rfl

/-- **Where the count finds enough, nothing fails for lack of operands.** -/
theorem ne_outOfStack_of_failsWith (enough : (depth 0 program).isSome)
    (h : FailsWith source program e) : e ≠ .outOfStack := by
  obtain ⟨done, i, later, stack, rfl, ok, failed⟩ := h
  rintro rfl
  have reached : depth 0 done = some stack.length := depth_of_stackAfter ok
  have few := step_eq_outOfStack_iff.mp failed
  rw [depth_append, reached, Option.bind_some, ← List.singleton_append, depth_append,
    depth_singleton, few] at enough
  cases enough

/-- **A run comes to the operator that lacks operands,** or it fails before with another error. -/
theorem result_of_lacksAfter (lacks : LacksAfter program before) :
    (∃ e, FailsWith source before e ∧ e ≠ .outOfStack ∧
      (execute (some program) source).result = .error e) ∨
    ((∀ e, ¬ FailsWith source before e) ∧
      (execute (some program) source).result = .error .outOfStack) := by
  obtain ⟨o, later, d, rfl, counted, few⟩ := lacks
  have ended := result_run source (before ++ .operator o :: later) []
  rw [stackAfter_append] at ended
  cases reached : stackAfter source before [] with
  | error e =>
    rw [reached] at ended
    have failed := stackAfter_eq_error_iff.mp reached
    have enough : (depth 0 before).isSome := by rw [counted]; rfl
    exact .inl ⟨e, failed, ne_outOfStack_of_failsWith enough failed, ended⟩
  | ok stack =>
    have short : stack.length = d := by
      have := depth_of_stackAfter reached
      rw [List.length_nil, counted] at this
      exact (Option.some.inj this).symm
    have lacking : step source (.operator o) stack = .error .outOfStack :=
      step_eq_outOfStack_iff.mpr (depthAfter_operator_eq_none_iff.mpr (short ▸ few))
    have stops : stackAfter source (.operator o :: later) stack = .error .outOfStack := by
      rw [stackAfter_cons, lacking]
      rfl
    rw [reached] at ended
    refine .inr ⟨fun e failed => ?_, ?_⟩
    · rw [stackAfter_eq_error_iff.mpr failed] at reached
      cases reached
    · rw [execute, ended]
      simp only [Except.bind, stops]

/-! ## 4. Results -/

/-- **A program that leaves something on the stack for certain never lacks operands.** -/
theorem ne_outOfStack_of_depth (enough : (depth 0 program).isSome) (nonempty : program ≠ [])
    (source : Option Source) : (execute (some program) source).result ≠ .error .outOfStack := by
  obtain ⟨d, counted⟩ := Option.isSome_iff_exists.mp enough
  have ended := result_run source program []
  show (run source program []).result ≠ .error .outOfStack
  rw [ended]
  cases reached : stackAfter source program [] with
  | error e =>
    have other := ne_outOfStack_of_failsWith enough (stackAfter_eq_error_iff.mp reached)
    exact fun same => other (Result.error.inj same)
  | ok stack =>
    have left := depth_of_stackAfter reached
    cases stack with
    | nil => exact absurd (depth_pos nonempty left) (lt_irrefl 0)
    | cons top below => exact nofun

theorem nil_or_exists_lacksAfter (h : ¬ ((depth 0 program).isSome ∧ program ≠ [])) :
    program = [] ∨ ∃ before, LacksAfter program before := by
  cases counted : depth 0 program with
  | none => exact .inr (exists_lacksAfter counted)
  | some d =>
    left
    by_contra nonempty
    exact h ⟨by rw [counted]; rfl, nonempty⟩

theorem ne_value_of_not_depth (h : ¬ ((depth 0 program).isSome ∧ program ≠ []))
    (source : Option Source) (n : Int) : (execute (some program) source).result ≠ .value n := by
  rcases nil_or_exists_lacksAfter h with rfl | ⟨before, lacks⟩
  · exact nofun
  · intro value
    rcases result_of_lacksAfter lacks with ⟨e, -, -, result⟩ | ⟨-, result⟩
    · cases value.symm.trans result
    · cases value.symm.trans result

/-- **Too few operands for the operators leave nothing on the stack** at the end, if not before. -/
theorem not_depth_of_few (few : (program.filterMap Instruction.operand?).length ≤
      (program.filterMap Instruction.operator?).length) :
    ¬ ((depth 0 program).isSome ∧ program ≠ []) := by
  rintro ⟨enough, nonempty⟩
  obtain ⟨d, counted⟩ := Option.isSome_iff_exists.mp enough
  have positive := depth_pos nonempty counted
  have total := depth_add_operators counted
  omega

/-- A formula with too few operands gives no number, in whatever order its tokens stand. -/
theorem ne_value_of_few {tokens : List Token}
    (few : ((tokens.filterMap Token.instruction?).filterMap Instruction.operand?).length ≤
      ((tokens.filterMap Token.instruction?).filterMap Instruction.operator?).length)
    (source : Option Source) (n : Int) : (execute (toPostfix tokens) source).result ≠ .value n := by
  cases compiled : toPostfix tokens with
  | none => exact nofun
  | some program =>
    obtain ⟨formula, rfl, rfl⟩ := toPostfix_eq_some_iff.mp compiled
    have operators := ((perm_arrange [] formula).filterMap Instruction.operator?).length_eq
    rw [List.map_nil, List.nil_append] at operators
    rw [filterMap_instruction?_token, ← operators, ← operands_arrange [] formula] at few
    exact ne_value_of_not_depth (not_depth_of_few few) source n

/-- **Whether a run lacks operands is told by its program alone.** Count what lies on the stack, from
    nothing. If every operator of a program that is not empty finds two numbers, no run of it lacks
    operands, with any source of cells or without one. Otherwise no run of it gives a number: it lacks
    operands, unless an instruction in front of the first operator that finds too few fails; that one
    fails with another error, and this is the result. So a formula with no more operands than operators
    gives no number, in whatever order its tokens stand. -/
theorem outOfStack_exact :
    (∀ program : Program, (depth 0 program).isSome → program ≠ [] → ∀ source,
      (execute (some program) source).result ≠ .error .outOfStack) ∧
    (∀ program : Program, ¬ ((depth 0 program).isSome ∧ program ≠ []) →
      (∀ source n, (execute (some program) source).result ≠ .value n) ∧
      ((program = [] ∧ ∀ source, (execute (some program) source).result = .error .outOfStack) ∨
        ∃ before, LacksAfter program before ∧ ∀ source,
          (∃ e, FailsWith source before e ∧ e ≠ .outOfStack ∧
            (execute (some program) source).result = .error e) ∨
          ((∀ e, ¬ FailsWith source before e) ∧
            (execute (some program) source).result = .error .outOfStack))) ∧
    ∀ tokens : List Token,
      ((tokens.filterMap Token.instruction?).filterMap Instruction.operand?).length ≤
        ((tokens.filterMap Token.instruction?).filterMap Instruction.operator?).length →
      ∀ source n, (execute (toPostfix tokens) source).result ≠ .value n := by
  refine ⟨fun program => ne_outOfStack_of_depth, fun program short =>
    ⟨ne_value_of_not_depth short, ?_⟩, fun tokens => ne_value_of_few⟩
  rcases nil_or_exists_lacksAfter short with rfl | ⟨before, lacks⟩
  · exact .inl ⟨rfl, fun _ => rfl⟩
  · exact .inr ⟨before, lacks, fun _ => result_of_lacksAfter lacks⟩

/-- A formula that lacks its last operand: `A1 / 2 +`. -/
def trailing : List Token :=
  [.operand (.cell ⟨0, 0⟩), .operator .div, .operand (.number 2), .operator .add]

/-- The quotient alone: `A1 2 /`. -/
def quotient : Program := [.operand (.cell ⟨0, 0⟩), .operand (.number 2), .operator .div]

/-- The general statement at this formula: the sum lacks an operand, and the quotient in front of it
    does not. -/
theorem outOfStack_exact_trailing :
    toPostfix trailing = some (quotient ++ [.operator .add]) ∧
    (∀ source n, (execute (toPostfix trailing) source).result ≠ .value n) ∧
    (∃ before, LacksAfter (quotient ++ [.operator .add]) before ∧ ∀ source,
      (∃ e, FailsWith source before e ∧ e ≠ .outOfStack ∧
        (execute (toPostfix trailing) source).result = .error e) ∨
      ((∀ e, ¬ FailsWith source before e) ∧
        (execute (toPostfix trailing) source).result = .error .outOfStack)) ∧
    ∀ source, (execute (some quotient) source).result ≠ .error .outOfStack := by
  have compiled : toPostfix trailing = some (quotient ++ [.operator .add]) := by decide
  obtain ⟨supplied, short, few⟩ := outOfStack_exact
  obtain ⟨-, lacking⟩ := short (quotient ++ [.operator .add]) (by decide)
  refine ⟨compiled, few trailing (by decide), ?_, supplied quotient (by decide) (by decide)⟩
  rw [compiled]
  rcases lacking with ⟨empty, -⟩ | lacking
  · cases empty
  · exact lacking

end Program

end Spreadsheet
