import Spreadsheet.Sheet.Insert
import Spreadsheet.Sheet.Recalculate

/-!
# Histories of a sheet

The operations that can change a sheet, as data, and what a history of them leads to. An operation
that is refused leaves a sheet too, as a rule the one it found; the answer of each is kept apart
from the sheet it leaves (`perform`).
-/

namespace Spreadsheet

namespace Sheet

/-- An operation on a sheet. -/
inductive Command
  | set (key : Key) (item : Item)
  | insert (item : Item) (key : Key)
  | copy (source target : Key)
  | reenter (source target : Key)
  | setWidth (column width : Int)
  | compile (text : Text)
  | evaluate (text : Text)
  | recalculate (keys : List Key)
  /-- An edit of the graph behind the back of the cells. -/
  | graph (command : Graph.Command)

/-- What an operation answers. -/
inductive Answer
  | done
  | expression (e : Expression)
  | result (r : Result)
  | recalculation (r : Recalculation)
  deriving DecidableEq

/-- The result of the formula with the given text, which is compiled and kept but stored nowhere. -/
def evaluateText (s : Sheet) (text : Text) : Sheet × Except Fault Result :=
  match s.compile text with
  | (s, .ok e) => (s, s.evaluate e)
  | (s, .error fault) => (s, .error fault)

/-- Edits the graph alone. -/
def editGraph (s : Sheet) (command : Graph.Command) : Sheet × Except Fault Unit :=
  let (graph, outcome) := s.graph.perform command
  ({ s with graph := graph }, outcome)

/-- An operation's outcome as an answer. -/
def answering {α : Type} (answer : α → Answer) (outcome : Sheet × Except Fault α) :
    Sheet × Except Fault Answer :=
  (outcome.1, outcome.2.map answer)

/-- **Carries out an operation:** the sheet it leaves, and its answer or the fault that stopped
    it. -/
def perform (s : Sheet) : Command → Sheet × Except Fault Answer
  | .set key item => answering (fun _ => .done) (s.set key item)
  | .insert item key => answering (fun _ => .done) (s.insert item key)
  | .copy source target => answering (fun _ => .done) (s.copy source target)
  | .reenter source target => answering (fun _ => .done) (s.reenter source target)
  | .setWidth column width => answering (fun _ => .done) (s.setWidth column width)
  | .compile text => answering .expression (s.compile text)
  | .evaluate text => answering .result (s.evaluateText text)
  | .recalculate keys => answering .recalculation (s.recalculate keys)
  | .graph command => answering (fun _ => .done) (s.editGraph command)

/-- The sheet after a history of operations, refused ones included. -/
def run (s : Sheet) (commands : List Command) : Sheet :=
  commands.foldl (fun s command => (s.perform command).1) s

end Sheet

end Spreadsheet
