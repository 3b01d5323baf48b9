import Spreadsheet.Cell.Basic
import Spreadsheet.Sheet.Config

/-!
# Items

What can be offered to a sheet, compared and printed: the values of the library and the plain values
beside them. Only some of them can be put into a cell (`Sheet.set`); the others have to be told in
the message that refuses them, so every item has a printed form (`Item.wording`). An item that shows
a number of too many digits cannot be told, and its refusal tells of that instead
(`Item.refusal`).
-/

namespace Spreadsheet

open Spreadsheet.Text

/-- A value of any kind. -/
inductive Item
  | int (n : Int)
  | text (t : Text)
  | bool (b : Bool)
  | nothing
  /-- A floating-point number by its shortest decimal form. -/
  | float (decimals : String)
  | bytes (data : List Nat)
  | list (items : List Item)
  | cell (c : Cell)
  | error (e : ErrorValue)
  | token (t : Token)
  | expression (e : Expression)
  | position (p : Position)
  | config (c : SheetConfig)
  /-- A sheet made just now. -/
  | sheet (c : SheetConfig)
  /-- The token stream of a text. -/
  | lexer (t : Text)

namespace Item

/-! ## Printed forms -/

mutual

/-- The item as messages show it. -/
def wording : Item → Wording
  | int n => [.number n]
  | text t => [.words (quoted t)]
  | bool true => ["True"]
  | bool false => ["False"]
  | nothing => ["None"]
  | float decimals => [.words decimals]
  | bytes data => [.words (quotedBytes data)]
  | list items => Wording.between "[" (Wording.listed (wordings items)) "]"
  | cell c => c.wording
  | error e => [.words e.code]
  | token t => t.wording
  | expression e => e.wording
  | position p => p.wording
  | config c => c.wording
  | sheet c => c.sheetWording
  | lexer t => ["Lexer(", quoted t, ")"]

/-- Several items as messages show them. -/
def wordings : List Item → List Wording
  | [] => []
  | item :: items => item.wording :: wordings items

end

/-- The printed form of the item, its numbers in full. -/
def written (item : Item) : String := item.wording.text

/-- The fault of refusing an item: the cause tells it in its printed form, if it has one. -/
def refusal (item : Item) (cause : String → Fault) : Fault :=
  if item.wording.isWritable then cause item.written else .tooLongToWrite

/-- Whether the item is an error value. -/
def isError : Item → Bool
  | error _ => true
  | _ => false

end Item

end Spreadsheet
