import Spreadsheet.Token.Basic

/-!
# Programs

A program is a formula in postfix order: each operator stands behind its two operands, so no
brackets and no ranks are left. Operands keep their order, and an operator waits until the operators
that bind less tightly have found their operands (`arrange`). Nothing is asked of the formula's
shape: any sequence of operands and operators has a program, and only an invalid token has none
(`toPostfix`).
-/

namespace Spreadsheet

/-- Instructions in postfix order. -/
abbrev Program := List Instruction

namespace Program

/-! ## 1. Arranging in postfix order -/

/-- What one element of the formula adds to the program while the operators in `waiting`, the latest
    first, still wait: an operand itself, an operator those that keep their operands from it. -/
def released (waiting : List Operator) : Instruction → Program
  | .operand x => [.operand x]
  | .operator o => (waiting.takeWhile (·.bindsFirst o)).map .operator

/-- The operators that wait after one more element of the formula. -/
def waitingAfter (waiting : List Operator) : Instruction → List Operator
  | .operand _ => waiting
  | .operator o => o :: waiting.dropWhile (·.bindsFirst o)

/-- **The rest of a formula in postfix order,** while some operators wait. -/
def arrange (waiting : List Operator) : List Instruction → Program
  | [] => waiting.map .operator
  | i :: rest => released waiting i ++ arrange (waitingAfter waiting i) rest

/-- The program of a list of tokens; there is none when one of them is invalid. -/
def toPostfix (tokens : List Token) : Option Program :=
  (tokens.mapM Token.instruction?).map (arrange [])

@[simp] theorem arrange_nil (waiting : List Operator) :
    arrange waiting [] = waiting.map .operator := rfl

theorem arrange_cons (waiting : List Operator) (i : Instruction) (rest : List Instruction) :
    arrange waiting (i :: rest) = released waiting i ++ arrange (waitingAfter waiting i) rest := rfl

/-! ## 2. References -/

/-- The cells that the program reads, each once, in the order of first appearance. -/
def references (program : Program) : List Position :=
  (program.filterMap Instruction.cell?).eraseDups

theorem mem_references {program : Program} {p : Position} :
    p ∈ references program ↔ Instruction.operand (.cell p) ∈ program := by
  rw [references, List.mem_eraseDups, List.mem_filterMap]
  constructor
  · rintro ⟨i, hi, hp⟩
    obtain ⟨⟨n⟩ | ⟨q⟩⟩ | ⟨o⟩ := i
    · simp [Instruction.cell?, Instruction.operand?, Operand.cell?] at hp
    · have : q = p := by simpa [Instruction.cell?, Instruction.operand?, Operand.cell?] using hp
      exact this ▸ hi
    · simp [Instruction.cell?, Instruction.operand?] at hp
  · exact fun h => ⟨_, h, rfl⟩

end Program

end Spreadsheet
