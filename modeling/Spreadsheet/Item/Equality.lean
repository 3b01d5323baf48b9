import Spreadsheet.Item.Basic
import Spreadsheet.Text.Floating

/-!
# Equal items

Items of one kind are equal when they have equal parts. The numbers are one kind: an integer, a
truth value (which counts as 1 or 0) and a floating-point number are equal when they are the same
number. A sheet and a token stream are equal to nothing that was made apart from them, and what is
not a number (`nan`) does not even equal itself.
-/

namespace Spreadsheet.Item

open Spreadsheet.Text

/-- The integer that an item equals, if it is a number that equals one. -/
def whole? : Item → Option Int
  | int n => some n
  | bool b => some (if b then 1 else 0)
  | float decimals => wholeFloat? decimals
  | _ => none

mutual

/-- **Whether two items, made apart from each other, are equal.** -/
def same : Item → Item → Bool
  | list items, other =>
    match other with
    | list items' => sameAll items items'
    | _ => false
  | text s, text s' => s = s'
  | nothing, nothing => true
  | bytes data, bytes data' => data = data'
  | cell c, cell c' => c = c'
  | error e, error e' => e = e'
  | token t, token t' => t = t'
  | expression e, expression e' => e = e'
  | position p, position p' => p = p'
  | config c, config c' => c = c'
  | float decimals, float decimals' =>
    match wholeFloat? decimals, wholeFloat? decimals' with
    | some n, some n' => n = n'
    | _, _ => decimals = decimals' && decimals != "nan"
  | item, other =>
    match item.whole?, other.whole? with
    | some n, some n' => n = n'
    | _, _ => false

/-- Whether two lists have equal items in equal places. -/
def sameAll : List Item → List Item → Bool
  | [], [] => true
  | item :: items, item' :: items' => same item item' && sameAll items items'
  | _, _ => false

end

end Spreadsheet.Item
