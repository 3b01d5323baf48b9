import Spreadsheet.Item.Basic
import Spreadsheet.Sheet.Basic

/-!
# Putting cells into a sheet

Every cell that enters a sheet takes one way (`insertAt`): the edges of the formula that stood at
the place are dropped; a formula that would close a loop is stored as cyclic and gets no edges;
any other formula gets an edge from each cell it reads, is evaluated, and is stored with its result.
Formulas that read the place are left as they are (`recalculate` is for them).

What is offered is made into a cell before the key is looked at, so of two faults the one about the
value wins.
-/

namespace Spreadsheet

open Spreadsheet.Text

namespace Sheet

/-! ## 1. One place -/

/-- **Puts a cell at a place of the sheet.** The only fault is a formula that reads a negative
    position; its edges stay, and the place keeps the cell it held. -/
def insertAt (s : Sheet) (p : Position) (c : Cell) : Sheet × Except Fault Unit :=
  let cleared := { s with graph := s.graph.clear p }
  match c with
  | .formula e _ =>
    if cleared.graph.wouldCycle p e.references then
      (cleared.store p (.formula e (.error .cyclic)), .ok ())
    else
      let linked := { cleared with graph := cleared.graph.registerAll e.references p }
      match linked.evaluate e with
      | .ok result => (linked.store p (.formula e result), .ok ())
      | .error fault => (linked, .error fault)
  | c => (cleared.store p c, .ok ())

/-- Puts a cell where a key says. -/
def insertCell (s : Sheet) (c : Cell) (key : Key) : Sheet × Except Fault Unit :=
  match s.locate key with
  | .ok p => s.insertAt p c
  | .error fault => (s, .error fault)

/-! ## 2. What may be offered -/

/-- Puts an item that is a cell where a key says; other items are refused. -/
def insert (s : Sheet) (item : Item) (key : Key) : Sheet × Except Fault Unit :=
  match item with
  | .cell c => s.insertCell c key
  | other => (s, .error (other.refusal .unsupportedCell))

/-- Enters a text where a key says. -/
def enter (s : Sheet) (text : Text) (key : Key) : Sheet × Except Fault Unit :=
  let (cache, cell) := s.cache.ofEntry text
  match cell with
  | .ok c => { s with cache := cache }.insertCell c key
  | .error fault => ({ s with cache := cache }, .error fault)

/-- **Makes an item into a cell where a key says:** a cell stays as it is, nothing empties the
    place, a text is entered, an integer has to fit 64 bits; other items are refused. -/
def set (s : Sheet) (key : Key) (item : Item) : Sheet × Except Fault Unit :=
  match item with
  | .cell c => s.insertCell c key
  | .nothing => s.insertCell .empty key
  | .text text => s.enter text key
  | .int n =>
    if fitsInt64 n then s.insertCell (.number n) key
    else (s, .error (Fault.numberOutOfRange n).raised)
  | other => (s, .error (other.refusal .unsupportedValue))

/-- Puts the cell of one key at another. -/
def copy (s : Sheet) (source target : Key) : Sheet × Except Fault Unit :=
  match s.cell source with
  | .ok c => s.insertCell c target
  | .error fault => (s, .error fault)

/-- Enters the text of the cell of one key at another. -/
def reenter (s : Sheet) (source target : Key) : Sheet × Except Fault Unit :=
  match s.entry source with
  | .ok text => s.enter text target
  | .error fault => (s, .error fault)

end Sheet

end Spreadsheet
