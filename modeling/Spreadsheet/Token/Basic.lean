import Spreadsheet.Fault

/-!
# Tokens

What the text of a formula is made of: operands (a number or a reference to a cell), the four
operators, and a mark for everything that is none of them. A program is made of the same operands
and operators, without the mark: its elements are instructions.
-/

namespace Spreadsheet

open Spreadsheet.Text

/-! ## 1. Operators -/

/-- The binary operators of formulas. -/
inductive Operator
  | add
  | sub
  | mul
  | div
  deriving DecidableEq

namespace Operator

/-- All operators. -/
def all : List Operator := [add, sub, mul, div]

/-- The character that an operator is written with. -/
def symbol : Operator → Char
  | add => '+'
  | sub => '-'
  | mul => '*'
  | div => '/'

/-- The name of the operator. -/
def name : Operator → String
  | add => "ADD"
  | sub => "SUB"
  | mul => "MUL"
  | div => "DIV"

/-- How an operator binds: the lower the number, the tighter. -/
def precedence : Operator → Nat
  | mul | div => 3
  | add | sub => 4

/-- Whether an operator standing first keeps its operands from the one that follows: it does when
    it binds at least as tightly. -/
def bindsFirst (first second : Operator) : Bool := first.precedence ≤ second.precedence

/-- The operator written with the character. -/
def ofSymbol? (c : Char) : Option Operator := all.find? fun o => o.symbol = c

/-- The operator written with the text, which has to be the one character. -/
def ofSymbol (text : Text) : Except Fault Operator :=
  match all.find? fun o => text = [.char o.symbol] with
  | some o => .ok o
  | none => .error (.unknownOperator text)

/-- The operator as printed values show it. -/
def wording (o : Operator) : Wording := ["Op(", quoted [.char o.symbol], ")"]

theorem ofSymbol?_symbol (o : Operator) : ofSymbol? o.symbol = some o := by
  cases o <;> rfl

theorem ofSymbol?_eq_some_iff {c : Char} {o : Operator} : ofSymbol? c = some o ↔ c = o.symbol := by
  constructor
  · intro h
    exact (by simpa using List.find?_some h : o.symbol = c).symm
  · rintro rfl
    exact ofSymbol?_symbol o

end Operator

/-! ## 2. Operands, instructions, tokens -/

/-- What an operator works on: a number, or the number that a cell shows. -/
inductive Operand
  | number (n : Int)
  | cell (p : Position)
  deriving DecidableEq

/-- An element of a program. -/
inductive Instruction
  | operand (x : Operand)
  | operator (o : Operator)
  deriving DecidableEq

/-- An element of the text of a formula. -/
inductive Token
  | operand (x : Operand)
  | operator (o : Operator)
  /-- A stretch of text that is neither operand nor operator. -/
  | invalid
  deriving DecidableEq

namespace Operand

/-- The cell that the operand refers to. -/
def cell? : Operand → Option Position
  | number _ => none
  | cell p => some p

/-- The operand as printed values show it. -/
def wording : Operand → Wording
  | number n => ["Number(value=", n, ")"]
  | cell p => Wording.between "CellRef(position=" p.wording ")"

end Operand

namespace Instruction

/-- The operand, if the instruction is one. -/
def operand? : Instruction → Option Operand
  | operand x => some x
  | operator _ => none

/-- The operator, if the instruction is one. -/
def operator? : Instruction → Option Operator
  | operand _ => none
  | operator o => some o

/-- The cell that the instruction reads. -/
def cell? (i : Instruction) : Option Position := i.operand?.bind Operand.cell?

/-- The token that stands for the instruction. -/
def token : Instruction → Token
  | operand x => .operand x
  | operator o => .operator o

/-- The instruction as printed values show it. -/
def wording : Instruction → Wording
  | operand x => x.wording
  | operator o => o.wording

end Instruction

namespace Token

/-- The instruction that a valid token stands for. -/
def instruction? : Token → Option Instruction
  | operand x => some (.operand x)
  | operator o => some (.operator o)
  | invalid => none

/-- The token as printed values show it. -/
def wording : Token → Wording
  | operand x => x.wording
  | operator o => o.wording
  | invalid => ["INVALID"]

theorem instruction?_eq_some_iff {t : Token} {i : Instruction} :
    t.instruction? = some i ↔ t = i.token := by
  cases t <;> cases i <;> simp [instruction?, Instruction.token]

theorem instruction?_eq_none_iff {t : Token} : t.instruction? = none ↔ t = invalid := by
  cases t <;> simp [instruction?]

end Token

end Spreadsheet
