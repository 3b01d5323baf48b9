import Spreadsheet.Cell.Basic
import Spreadsheet.Expression.Cache

/-!
# Entered texts

How a text that is entered becomes a cell: the empty text nothing, a text with the formula marker a
formula, a 64-bit integer a number, and everything else a text, integers outside the range
included. Formulas may come from a cache of compiled expressions (`Cache.ofEntry`); the other kinds
never ask it.
-/

namespace Spreadsheet

open Spreadsheet.Text

namespace Cell

/-- The cell of a text without the formula marker. -/
def ofPlainEntry (text : Text) : Except Fault Cell :=
  if text = [] then .ok .empty
  else
    match spelledInteger? text with
    | none => .ok (.text text)
    | some (negative, run) =>
      (readDigits run).map fun n =>
        if fitsInt64 (signed negative n) then .number (signed negative n) else .text text

/-- **The cell that a text enters.** -/
def ofEntry (text : Text) : Except Fault Cell :=
  if hasMarker text then (Expression.compile text).map unevaluated else ofPlainEntry text

end Cell

/-- The cell that a text enters, its expression taken from the cache if it is kept there and kept
    there otherwise. -/
def Cache.ofEntry (cache : Cache) (text : Text) : Cache × Except Fault Cell :=
  if hasMarker text then
    let (cache, expression) := cache.compile text
    (cache, expression.map Cell.unevaluated)
  else (cache, Cell.ofPlainEntry text)

end Spreadsheet
