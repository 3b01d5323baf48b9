import Spreadsheet.Item.Equality
import Spreadsheet.Sheet.Command
import Spreadsheet.Proofs.Graph.Edges
import Spreadsheet.Proofs.Graph.Order
import Spreadsheet.Proofs.Graph.Walk
import Spreadsheet.Proofs.Graph.Loops
import Spreadsheet.Proofs.Expression.References
import Spreadsheet.Proofs.Sheet.Step
import Spreadsheet.Proofs.Sheet.Evaluation
import Spreadsheet.Proofs.Sheet.NonNegative
import Spreadsheet.Proofs.Sheet.Refresh
import Spreadsheet.Proofs.Sheet.Caching
import Spreadsheet.Proofs.Sheet.Acyclicity
import Spreadsheet.Proofs.Sheet.Refusal
import Spreadsheet.Proofs.Sheet.Telling
import Spreadsheet.Proofs.Sheet.Agreement
import Spreadsheet.Proofs.Sheet.Recalculation
import Spreadsheet.Proofs.Sheet.Editing
import Spreadsheet.Proofs.Program.Postfix
import Spreadsheet.Proofs.Program.Tree
import Spreadsheet.Proofs.Program.Bounds
import Spreadsheet.Proofs.Sheet.History
import Spreadsheet.Proofs.Graph.Repetition
import Spreadsheet.Proofs.Graph.Log
import Spreadsheet.Proofs.Token.Blanks
import Spreadsheet.Proofs.Token.Grammar
import Spreadsheet.Proofs.Expression.Caching
import Spreadsheet.Proofs.Cell.Entry
import Spreadsheet.Proofs.Cell.Spelling
import Spreadsheet.Proofs.Cell.Faults
import Spreadsheet.Proofs.Text.Normalizing
import Spreadsheet.Proofs.Position.Label
import Spreadsheet.Proofs.Sheet.Labels
import Spreadsheet.Proofs.Sheet.Reentry
import Spreadsheet.Proofs.Sheet.Bounds
import Spreadsheet.Proofs.Sheet.Results
import Spreadsheet.Proofs.Graph.Downstream
import Spreadsheet.Proofs.Sheet.Overwriting
import Spreadsheet.Proofs.Sheet.Insertion
import Spreadsheet.Proofs.Sheet.Deltas
import Spreadsheet.Proofs.Program.Depth
import Spreadsheet.Proofs.Program.Stacks
import Spreadsheet.Proofs.Expression.Dependence
