import Spreadsheet.Fault
import Spreadsheet.Position.Label

/-!
# Settings of a sheet

The extents of a sheet are fixed when it is made: at most as many columns as there are letters for
them, any positive number of rows. Formulas refer to the first nine rows only; a taller sheet is
allowed and its lower rows cannot be referred to.
-/

namespace Spreadsheet

open Spreadsheet.Text

/-- The extents of a sheet, and the width its columns have at first. -/
structure SheetConfig where
  columns : Int
  rows : Int
  columnWidth : Int
  one_le_columns : 1 ≤ columns
  columns_le : columns ≤ Position.letterCount
  one_le_rows : 1 ≤ rows
  one_le_columnWidth : 1 ≤ columnWidth
  deriving DecidableEq

namespace SheetConfig

/-- The settings of a sheet for which nothing else is said. -/
def standard : SheetConfig where
  columns := 10
  rows := 30
  columnWidth := 7
  one_le_columns := by decide
  columns_le := by decide
  one_le_rows := by decide
  one_le_columnWidth := by decide

/-- Settings with the given extents. The columns are looked at first, then the rows, then the
    width. -/
def of (columns rows columnWidth : Int) : Except Fault SheetConfig :=
  if hc : 1 ≤ columns ∧ columns ≤ Position.letterCount then
    if hr : 1 ≤ rows then
      if hw : 1 ≤ columnWidth then .ok ⟨columns, rows, columnWidth, hc.1, hc.2, hr, hw⟩
      else .error (Fault.columnWidthNotPositive columnWidth).raised
    else .error (Fault.rowsNotPositive rows).raised
  else .error (Fault.columnsOutOfRange columns).raised

/-- Whether a position lies in a sheet of these extents. -/
def holds (config : SheetConfig) (p : Position) : Bool :=
  !p.isNegative && decide (p.column < config.columns) && decide (p.row < config.rows)

/-- The settings as printed values show them. -/
def wording (config : SheetConfig) : Wording :=
  ["SheetConfig(columns=", config.columns, ", rows=", config.rows, ", column_width=",
    config.columnWidth, ")"]

/-- A sheet of these extents as printed values show it. -/
def sheetWording (config : SheetConfig) : Wording :=
  ["<Sheet ", config.columns, "x", config.rows, ">"]

/-- The printed form of a sheet of these extents. -/
def writtenSheet (config : SheetConfig) : String := config.sheetWording.text

theorem holds_iff {config : SheetConfig} {p : Position} :
    config.holds p = true ↔
      (0 ≤ p.column ∧ p.column < config.columns) ∧ (0 ≤ p.row ∧ p.row < config.rows) := by
  simp [holds, Position.isNegative]
  omega

end SheetConfig

end Spreadsheet
