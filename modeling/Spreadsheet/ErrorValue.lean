import Spreadsheet.Fault

/-!
# Error values and results

A formula that fails gives an error value, one of a fixed set, each with a name and a code. The
error is the formula's result: it stays in the cell that produced it and stops nothing else. A
result is a number or an error value.
-/

namespace Spreadsheet

/-- The ways in which a formula can fail. -/
inductive ErrorValue
  /-- The text of the formula did not compile. -/
  | compile
  /-- The formula refers to a cell and there is nothing to read cells from. -/
  | notImplemented
  /-- An operator found too few operands, or nothing was left as a result. -/
  | outOfStack
  /-- A division by zero. -/
  | divisionByZero
  /-- The formula has not been evaluated yet. -/
  | notExecuted
  /-- The formula would read itself, directly or through other formulas. -/
  | cyclic
  /-- A cell that the formula refers to has no number. -/
  | cellNotFound
  /-- A number left the range of 64-bit integers. -/
  | overflow
  deriving DecidableEq

namespace ErrorValue

/-- All error values. -/
def all : List ErrorValue :=
  [compile, notImplemented, outOfStack, divisionByZero, notExecuted, cyclic, cellNotFound, overflow]

/-- The name by which the error value is known. -/
def name : ErrorValue → String
  | compile => "COMPILE"
  | notImplemented => "NOT_IMPLEMENTED"
  | outOfStack => "OUT_OF_STACK"
  | divisionByZero => "DIV0"
  | notExecuted => "NOT_EXECUTED"
  | cyclic => "CYCLIC"
  | cellNotFound => "CELL_NOT_FOUND"
  | overflow => "OVERFLOW"

/-- What a cell shows in place of a number. -/
def code : ErrorValue → String
  | compile => "#COMPILE!"
  | notImplemented => "#NOTIMPL!"
  | outOfStack => "#STACK!"
  | divisionByZero => "#DIV/0!"
  | notExecuted => "#PENDING!"
  | cyclic => "#CYCLE!"
  | cellNotFound => "#REF!"
  | overflow => "#NUM!"

/-- The error value with the given code. -/
def ofCode (code : Text) : Except Fault ErrorValue :=
  match all.find? fun e => Text.ofString e.code = code with
  | some e => .ok e
  | none => .error (.unknownErrorCode code)

end ErrorValue

/-- What a formula gives: a number or an error value. -/
inductive Result
  | value (n : Int)
  | error (e : ErrorValue)
  deriving DecidableEq

namespace Result

/-- The number, if it is one. -/
def value? : Result → Option Int
  | value n => some n
  | error _ => none

/-- The number, or the code of the error value. -/
def wording : Result → Text.Wording
  | value n => [.number n]
  | error e => [.words e.code]

end Result

end Spreadsheet
