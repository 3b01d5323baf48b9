import Spreadsheet.Arithmetic
import Spreadsheet.Program.Basic

/-!
# Running a program

A program runs on a stack of numbers and reads cells through a source. Every failure is an error
value and ends the run (`step`), so a run always has a result. Beside the result it tells which
cells the source was asked for, in order (`Outcome.reads`): a cell without a number is the last one
asked.
-/

namespace Spreadsheet

/-- Where a program reads cells: the number that a cell shows, if it shows one. -/
abbrev Source := Position → Option Int

/-- What a run gives: its result, and the positions that the source was asked for. -/
structure Outcome where
  result : Result
  reads : List Position
  deriving DecidableEq

namespace Program

/-- The value of an operand. -/
def operandValue (source : Option Source) : Operand → Except ErrorValue Int
  | .number n => .ok n
  | .cell p =>
    match source with
    | none => .error .notImplemented
    | some values =>
      match values p with
      | some n => .ok n
      | none => .error .cellNotFound

/-- **One instruction:** the stack it leaves, its top first, or the error that ends the run. -/
def step (source : Option Source) : Instruction → List Int → Except ErrorValue (List Int)
  | .operand x, stack => (operandValue source x).map (· :: stack)
  | .operator o, right :: left :: stack => (o.apply left right).map (· :: stack)
  | .operator _, _ => .error .outOfStack

/-- The position that an instruction asks the source for, if there is a source to ask. -/
def asked (source : Option Source) (i : Instruction) : List Position :=
  if source.isSome then i.cell?.toList else []

/-- The result that the last stack holds: its top. -/
def topResult : List Int → Result
  | [] => .error .outOfStack
  | n :: _ => .value n

/-- **The run of a program** from a given stack. -/
def run (source : Option Source) : Program → List Int → Outcome
  | [], stack => ⟨topResult stack, []⟩
  | i :: rest, stack =>
    match step source i stack with
    | .error e => ⟨.error e, asked source i⟩
    | .ok stack =>
      let outcome := run source rest stack
      ⟨outcome.result, asked source i ++ outcome.reads⟩

/-- The run from the empty stack; a formula that did not compile has no program to run. -/
def execute (program : Option Program) (source : Option Source) : Outcome :=
  match program with
  | none => ⟨.error .compile, []⟩
  | some program => run source program []

@[simp] theorem run_nil (source : Option Source) (stack : List Int) :
    run source [] stack = ⟨topResult stack, []⟩ := rfl

theorem run_cons_of_ok {source : Option Source} {i : Instruction} {stack stack' : List Int}
    (rest : Program) (h : step source i stack = .ok stack') :
    run source (i :: rest) stack =
      ⟨(run source rest stack').result, asked source i ++ (run source rest stack').reads⟩ := by
  simp only [run, h]

theorem run_cons_of_error {source : Option Source} {i : Instruction} {stack : List Int}
    {e : ErrorValue} (rest : Program) (h : step source i stack = .error e) :
    run source (i :: rest) stack = ⟨.error e, asked source i⟩ := by
  simp only [run, h]

end Program

end Spreadsheet
