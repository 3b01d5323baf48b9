import Spreadsheet.Expression.Basic

/-!
# Cells

A cell holds nothing, an integer, a text, or a formula. A formula cell keeps the expression it was
entered with and the result of its last evaluation; a formula that no sheet has stored yet has the
result `notExecuted`.
-/

namespace Spreadsheet

open Spreadsheet.Text

/-- What a place of a sheet holds. -/
inductive Cell
  | empty
  | number (n : Int)
  | text (t : Text)
  | formula (e : Expression) (result : Result)
  deriving DecidableEq

namespace Cell

/-- A formula that was not evaluated yet. -/
def unevaluated (e : Expression) : Cell := .formula e (.error .notExecuted)

/-- The number that the cell shows, if it shows one. -/
def value? : Cell → Option Int
  | empty => none
  | number n => some n
  | text _ => none
  | formula _ result => result.value?

/-- The text that enters the cell again, its number in full. -/
def entry : Cell → Text
  | empty => []
  | number n => ofString (decimal n)
  | text t => t
  | formula e _ => e.text

/-- **The entry that the cell tells;** there is none when it would be a number of too many digits. -/
def told? (c : Cell) : Option Text :=
  match c with
  | number n => if isWritable n then some c.entry else none
  | _ => some c.entry

/-- The cell as printed values show it. -/
def wording : Cell → Wording
  | empty => ["EMPTY"]
  | number n => ["Value(number=", n, ")"]
  | text t => ["Text(text=", quoted t, ")"]
  | formula e result =>
    Wording.between "Formula(expression=" e.wording ", result=" ++ result.wording ++ [.words ")"]

end Cell

end Spreadsheet
