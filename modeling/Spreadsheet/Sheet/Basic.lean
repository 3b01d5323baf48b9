import Spreadsheet.Cell.Entry
import Spreadsheet.Graph.Order
import Spreadsheet.Sheet.Config

/-!
# Sheets

A sheet is a grid of fixed extents together with the graph of its formulas, the widths of its
columns, and the expressions compiled for it so far. Cells that hold nothing are not stored.

This file fixes how a cell is addressed (`locate`), what reading it gives, and how a formula is
evaluated on the sheet (`evaluate`). A read of a place outside the grid finds no number; a read of a
negative place is a fault, and as the first read without a number it is also the last of its run.
-/

namespace Spreadsheet

/-- How a cell is named by its user. -/
inductive Key
  | label (text : Text)
  | place (p : Position)
  deriving DecidableEq

/-- The position that a key names. -/
def Key.position : Key → Except Fault Position
  | label text => Position.ofLabel text
  | place p => if p.isNegative then .error (Fault.negativePosition p).raised else .ok p

/-- A grid of cells with the graph of its formulas. -/
structure Sheet where
  config : SheetConfig
  /-- The width of each column, from the first to the last. -/
  widths : List Int
  /-- The cells that hold something. -/
  cells : PositionMap Cell
  /-- Which formulas read which cells. -/
  graph : Graph
  /-- The expressions compiled so far. -/
  cache : Cache
  deriving DecidableEq

namespace Sheet

/-! ## 1. Making and addressing -/

/-- A sheet without cells. -/
def fresh (config : SheetConfig) : Sheet where
  config := config
  widths := List.replicate config.columns.toNat config.columnWidth
  cells := .empty
  graph := .empty
  cache := .empty

/-- Whether a key names a cell of the sheet. -/
def contains (s : Sheet) (key : Key) : Bool :=
  match key.position with
  | .ok p => s.config.holds p
  | .error _ => false

/-- The place of the sheet that a key names. -/
def locate (s : Sheet) (key : Key) : Except Fault Position :=
  match key.position with
  | .error fault => .error fault
  | .ok p =>
    if s.config.holds p then .ok p
    else .error (Fault.outsideGrid p s.config.columns s.config.rows).raised

/-! ## 2. Reading -/

/-- What a place holds. -/
def cellAt (s : Sheet) (p : Position) : Cell := (s.cells.get? p).getD .empty

/-- The number that a place shows, if it shows one; a place outside the grid shows none. -/
def valueAt (s : Sheet) (p : Position) : Option Int :=
  if s.config.holds p then (s.cellAt p).value? else none

/-- The cell that a key names. -/
def cell (s : Sheet) (key : Key) : Except Fault Cell := (s.locate key).map s.cellAt

/-- The text that enters the cell again; a number of too many digits is refused. -/
def entry (s : Sheet) (key : Key) : Except Fault Text :=
  match (s.cell key).map Cell.told? with
  | .error fault => .error fault
  | .ok none => .error .tooLongToWrite
  | .ok (some text) => .ok text

/-- The number that a key shows, if it shows one. -/
def value (s : Sheet) (key : Key) : Except Fault (Option Int) := key.position.map s.valueAt

/-- **What an expression gives on the sheet.** -/
def evaluate (s : Sheet) (e : Expression) : Except Fault Result :=
  let outcome := e.execute (some s.valueAt)
  match outcome.reads.find? Position.isNegative with
  | some p => .error (Fault.negativePosition p).raised
  | none => .ok outcome.result

/-- The expression of a text, kept from then on. -/
def compile (s : Sheet) (text : Text) : Sheet × Except Fault Expression :=
  let (cache, expression) := s.cache.compile text
  ({ s with cache := cache }, expression)

/-! ## 3. Writing a place -/

/-- The sheet with another cell at a place. -/
def store (s : Sheet) (p : Position) (c : Cell) : Sheet :=
  { s with cells := s.cells.assign p (if c = .empty then none else some c) }

/-- What is stored at a place is found there, and every other place keeps what it held. -/
theorem cellAt_store (s : Sheet) (p q : Position) (c : Cell) :
    (s.store p c).cellAt q = if q = p then c else s.cellAt q := by
  simp only [store, cellAt, PositionMap.get?_assign]
  by_cases hq : q = p
  · by_cases hc : c = .empty <;> simp [hq, hc]
  · simp [hq]

/-! ## 4. Columns -/

/-- The width of a column. -/
def width (s : Sheet) (column : Int) : Except Fault Int :=
  (s.locate (.place ⟨column, 0⟩)).map fun p => (s.widths[p.column.toNat]?).getD s.config.columnWidth

/-- Gives a column a width; the width is looked at before the column. -/
def setWidth (s : Sheet) (column width : Int) : Sheet × Except Fault Unit :=
  if width < 1 then (s, .error (Fault.widthNotPositive width).raised)
  else
    match s.locate (.place ⟨column, 0⟩) with
    | .error fault => (s, .error fault)
    | .ok p => ({ s with widths := s.widths.set p.column.toNat width }, .ok ())

end Sheet

end Spreadsheet
