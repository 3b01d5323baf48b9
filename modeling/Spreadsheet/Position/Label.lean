import Spreadsheet.Text.Blank
import Spreadsheet.Text.Numeral
import Spreadsheet.Text.Uppercase

/-!
# Cell labels

A label names a cell by a column letter and a row number counted from one: `B3` is column 1, row 2.
Reading ignores blanks around the label and the case of its letter; writing gives the one form that
reading normalises to. The row number has no leading zero, so different labels in that form name
different cells.
-/

namespace Spreadsheet.Position

open Spreadsheet.Text

/-! ## 1. Columns and letters -/

/-- How many columns have a letter. -/
def letterCount : Int := 26

/-- The column of a capital letter. -/
def columnOf? (c : Char) : Option Int :=
  if c.isUpper then some ((c.toNat : Int) - 65) else none

/-- The letter of a column that has one. -/
def letterOf (column : Int) : Char := Char.ofNat (65 + column.toNat)

theorem columnOf?_letterOf {column : Int} (h0 : 0 ≤ column) (h : column < letterCount) :
    columnOf? (letterOf column) = some column := by
  obtain ⟨n, rfl⟩ := Int.eq_ofNat_of_zero_le h0
  have hn : n < 26 := by simp only [letterCount] at h; omega
  clear h h0
  revert hn
  revert n
  decide

/-- A digit that a row number can begin with. -/
def isLeadingDigit (c : Char) : Bool := c.isDigit && c != '0'

/-! ## 2. Reading -/

/-- The position that a label in normal form names: a capital, then a row number without leading
    zero. -/
def ofNormalLabel? : List Char → Option (Except Fault Position)
  | letter :: first :: rest =>
    match columnOf? letter with
    | some column =>
      if isLeadingDigit first && rest.all Char.isDigit then
        some ((readDigits (first :: rest)).map fun n => ⟨column, (n : Int) - 1⟩)
      else none
    | none => none
  | _ => none

/-- The normal form of a label: no blanks around it, and in upper case. -/
def normalLabel (label : Text) : Text := uppercase (trimBlanks label)

/-- **The position that a label names.** A text that is no label is refused, and so is a row number
    of too many digits. -/
def ofLabel (label : Text) : Except Fault Position :=
  ((chars? (normalLabel label)).bind ofNormalLabel?).getD (.error (.invalidLabel label))

/-! ## 3. Writing -/

/-- The position has a label: its column has a letter and its row is not negative. -/
def hasLabel (p : Position) : Bool :=
  decide (0 ≤ p.column) && decide (p.column < letterCount) && decide (0 ≤ p.row)

/-- **The label of a position,** in normal form. -/
def label (p : Position) : Except Fault Text :=
  if p.hasLabel then
    if Text.isWritable (p.row + 1) then
      .ok (ofChars (letterOf p.column :: decimalDigits (p.row.toNat + 1)))
    else .error .tooLongToWrite
  else .error (Fault.unaddressable p).raised

end Spreadsheet.Position
