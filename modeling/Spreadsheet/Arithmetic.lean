import Spreadsheet.ErrorValue
import Spreadsheet.Token.Basic

/-!
# Arithmetic of formulas

Formulas calculate with signed 64-bit integers: an operation whose exact result leaves the range
gives an error value in its place, never a wrapped number. Division truncates toward zero, and
division by zero is an error of its own that comes before any question of range.
-/

namespace Spreadsheet

/-- The least 64-bit integer. -/
def int64Min : Int := -9223372036854775808

/-- The greatest 64-bit integer. -/
def int64Max : Int := 9223372036854775807

/-- Whether a number fits 64 bits. -/
def fitsInt64 (n : Int) : Bool := decide (int64Min ≤ n) && decide (n ≤ int64Max)

theorem fitsInt64_iff {n : Int} : fitsInt64 n = true ↔ int64Min ≤ n ∧ n ≤ int64Max := by
  simp [fitsInt64]

namespace Operator

/-- The exact result of an operation; a quotient is truncated toward zero. -/
def exact : Operator → Int → Int → Int
  | add, left, right => left + right
  | sub, left, right => left - right
  | mul, left, right => left * right
  | div, left, right => left.tdiv right

/-- **What an operation gives:** its exact result when that fits 64 bits. -/
def apply (o : Operator) (left right : Int) : Except ErrorValue Int :=
  if o = div ∧ right = 0 then .error .divisionByZero
  else if fitsInt64 (o.exact left right) then .ok (o.exact left right)
  else .error .overflow

end Operator

end Spreadsheet
