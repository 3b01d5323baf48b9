import Spreadsheet.Sheet.Basic

/-!
# Recalculation

Inserting a cell leaves the formulas that read it as they are. Recalculation evaluates again every
formula downstream of the changed cells, each after those it reads, and tells which results became
others.

An edge registered by hand can name a reader outside the grid. Such a reader stands for the cell
that lies as far from the other edge (`slot`): column -1 is the last column. Beyond that it stands
for nothing, which is a fault, and beyond the 64-bit range it is a fault of its own; what was
evaluated before stays.
-/

namespace Spreadsheet

/-- A formula whose result became another. -/
structure Delta where
  position : Position
  before : Result
  after : Result
  /-- The text of the formula. -/
  formula : Text
  deriving DecidableEq

/-- What a recalculation did. -/
structure Recalculation where
  /-- The cells it started from, as they were given. -/
  changed : List Position
  /-- The formulas whose results became others, in the order of evaluation. -/
  deltas : List Delta
  /-- How many cells were downstream. -/
  evaluated : Nat
  deriving DecidableEq

namespace Sheet

/-- A number counted from zero, or a negative one counted from the far end. -/
def fromEdge (size n : Int) : Except Fault Int :=
  if 0 ≤ n ∧ n < size then .ok n
  else if !fitsInt64 n then .error .notAnIndex
  else if n < 0 ∧ 0 ≤ n + size then .ok (n + size)
  else .error .noCell

/-- The place of the grid that a registered reader stands for; the column is looked at first. -/
def slot (s : Sheet) (p : Position) : Except Fault Position :=
  match fromEdge s.config.columns p.column with
  | .error fault => .error fault
  | .ok column => (fromEdge s.config.rows p.row).map fun row => ⟨column, row⟩

/-- **Evaluates one reader again:** a formula gets its new result, other cells stay. -/
def refresh (s : Sheet) (p : Position) : Sheet × Except Fault (Option Delta) :=
  match s.slot p with
  | .error fault => (s, .error fault)
  | .ok slot =>
    match s.cellAt slot with
    | .formula e before =>
      match s.evaluate e with
      | .error fault => (s, .error fault)
      | .ok after =>
        if after = before then (s, .ok none)
        else (s.store slot (.formula e after), .ok (some ⟨p, before, after, e.text⟩))
    | _ => (s, .ok none)

/-- Evaluates readers again, in the given order, up to the first fault. -/
def refreshAll (s : Sheet) : List Position → Sheet × Except Fault (List Delta)
  | [] => (s, .ok [])
  | p :: rest =>
    match s.refresh p with
    | (s, .error fault) => (s, .error fault)
    | (s, .ok delta) =>
      let (s, deltas) := refreshAll s rest
      (s, deltas.map (delta.toList ++ ·))

/-- **Evaluates every formula downstream of the given cells.** All keys are looked at before
    anything is evaluated, and then the graph is searched for circles. -/
def recalculate (s : Sheet) (keys : List Key) : Sheet × Except Fault Recalculation :=
  match keys.mapM s.locate with
  | .error fault => (s, .error fault)
  | .ok roots =>
    match s.graph.affected roots with
    | .error fault => (s, .error fault)
    | .ok cells =>
      let (s, deltas) := s.refreshAll cells
      (s, deltas.map fun deltas => ⟨roots, deltas, cells.length⟩)

end Sheet

end Spreadsheet
