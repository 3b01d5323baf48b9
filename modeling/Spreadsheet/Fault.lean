import Spreadsheet.Position.Basic
import Spreadsheet.Text.Quoted

/-!
# Faults

A fault is the reason why an operation refuses its input or stops. It is not the error value that a
failing formula leaves in its cell (`ErrorValue`): those are results, a fault is the absence of
one. Each constructor is one cause and carries what its message names; how it is told is
`Fault.wording` alone.

The message is made before the fault is reported. Where it would show a number of too many digits
this fails, and the limit is reported instead (`Fault.raised`).
-/

namespace Spreadsheet

open Spreadsheet.Text

/-- The reason why an operation gives no answer. -/
inductive Fault
  /-- The text is not a cell label. -/
  | invalidLabel (label : Text)
  /-- The position has no label: its column has no letter, or its row is negative. -/
  | unaddressable (p : Position)
  /-- The position is negative where a cell of a sheet is meant. -/
  | negativePosition (p : Position)
  /-- The position lies outside a sheet of so many columns and rows. -/
  | outsideGrid (p : Position) (columns rows : Int)
  /-- A sheet cannot have so many columns. -/
  | columnsOutOfRange (n : Int)
  /-- A sheet cannot have so few rows. -/
  | rowsNotPositive (n : Int)
  /-- The columns of a sheet cannot all be so narrow. -/
  | columnWidthNotPositive (n : Int)
  /-- A column cannot be so narrow. -/
  | widthNotPositive (n : Int)
  /-- The text of a formula lacks its leading marker. -/
  | missingMarker (text : Text)
  /-- The number does not fit a cell. -/
  | numberOutOfRange (n : Int)
  /-- A value of this kind, given in its printed form, cannot be put into a cell. -/
  | unsupportedValue (printed : String)
  /-- This value, given in its printed form, is not a cell. -/
  | unsupportedCell (printed : String)
  /-- The reader is not registered as reading the target. -/
  | notRegistered (reader target : Position)
  /-- The reader has no set of targets. -/
  | notListed (reader : Position)
  /-- The formulas at these positions wait for each other. -/
  | circular (cells : List Position)
  /-- No error value has this code. -/
  | unknownErrorCode (code : Text)
  /-- No operator is written this way. -/
  | unknownOperator (symbol : Text)
  /-- A registered reader lies so far outside the sheet that no cell stands for it. -/
  | noCell
  /-- The column or the row of a registered reader exceeds the 64-bit range. -/
  | notAnIndex
  /-- A run of digits is too long to be converted. -/
  | tooManyDigits (count : Nat)
  /-- A number is too long to be written, in a message, a label or an entry. -/
  | tooLongToWrite
  deriving DecidableEq

namespace Fault

/-- The wording of the limit on conversions between numbers and digits. -/
def limitMessage (found : String) : String :=
  "Exceeds the limit (" ++ decimal digitLimit ++ " digits) for integer string conversion" ++
    found ++ "; use sys.set_int_max_str_digits() to increase the limit"

/-- How the fault is told. -/
def wording : Fault → Wording
  | invalidLabel label => ["Invalid cell label: ", quoted label]
  | unaddressable p => "Position out of addressable range: " :: p.pair
  | negativePosition p => "Negative position: " :: p.pair
  | outsideGrid p columns rows =>
    Wording.between "Position " p.wording " outside sheet of " ++
      [.number columns, .words "x", .number rows]
  | columnsOutOfRange n => ["columns must be between 1 and 26, got ", n]
  | rowsNotPositive n => ["rows must be positive, got ", n]
  | columnWidthNotPositive n => ["column_width must be positive, got ", n]
  | widthNotPositive n => ["width must be positive, got ", n]
  | missingMarker text => ["Formula must start with '=': ", quoted text]
  | numberOutOfRange n => ["Value does not fit a 64-bit integer: ", n]
  | unsupportedValue printed => ["Unsupported cell value: ", printed]
  | unsupportedCell printed => ["Unsupported cell: ", printed]
  | notRegistered reader target =>
    reader.wording ++ .words " does not depend on " :: target.wording
  | notListed reader => reader.wording
  | circular cells =>
    Wording.between "Circular reference detected involving: ["
      (Wording.listed (cells.map Position.wording)) "]"
  | unknownErrorCode code => [quoted code, " is not a valid CalcError"]
  | unknownOperator symbol => [quoted symbol, " is not a valid Op"]
  | noCell => ["list index out of range"]
  | notAnIndex => ["cannot fit 'int' into an index-sized integer"]
  | tooManyDigits count => [limitMessage (": value has " ++ decimal count ++ " digits")]
  | tooLongToWrite => [limitMessage ""]

/-- **The fault that is reported:** the limit instead of a fault whose message cannot be written. -/
def raised (f : Fault) : Fault := if f.wording.isWritable then f else tooLongToWrite

/-- What is told about the fault. -/
def message (f : Fault) : String := f.raised.wording.text

/-- Every fault that is reported can be told. -/
theorem isWritable_raised (f : Fault) : f.raised.wording.isWritable = true := by
  unfold raised
  split
  · assumption
  · rfl

theorem raised_notRegistered (reader target : Position) :
    (notRegistered reader target).raised =
      if reader.isWritable && target.isWritable then notRegistered reader target
      else tooLongToWrite := by
  simp [raised, wording, Piece.isWritable]

/-- Of cells that wait for each other all have to be told. -/
theorem raised_circular (cells : List Position) :
    (circular cells).raised =
      if cells.all Position.isWritable then circular cells else tooLongToWrite := by
  have each : (cells.map Position.wording).all Wording.isWritable = cells.all Position.isWritable := by
    simp [List.all_map, Function.comp_def]
  simp [raised, wording, each]

end Fault

end Spreadsheet
