import Spreadsheet.Text.Decimal

/-!
# Wordings

Messages and printed values show numbers between words. A wording is such a text before its numbers
are put into digits, piece by piece. It can be written when each of its numbers can (`isWritable`):
one number of too many digits, and there is no text at all. With every number in full it reads as
`text`.
-/

namespace Spreadsheet.Text

/-- A piece of a wording: words, or a number to be put into digits. -/
inductive Piece
  | words (s : String)
  | number (n : Int)

/-- Words and numbers in the order in which they are shown. -/
abbrev Wording := List Piece

namespace Piece

instance : Coe String Piece := ⟨words⟩

instance : Coe Int Piece := ⟨number⟩

/-- Whether there is no number in the piece that is too long to be written. -/
def isWritable : Piece → Bool
  | words _ => true
  | number n => Text.isWritable n

/-- The words, or the number in decimal. -/
def text : Piece → String
  | words s => s
  | number n => decimal n

end Piece

namespace Wording

/-- **Whether the wording can be written:** no number in it is too long. -/
def isWritable (w : Wording) : Bool := w.all Piece.isWritable

/-- The text of the wording, its numbers in full. -/
def text (w : Wording) : String := String.join (w.map Piece.text)

/-- A wording between words. -/
def between (before : String) (w : Wording) (after : String) : Wording :=
  before :: (w ++ [.words after])

/-- Wordings one after the other, a comma between any two. -/
def listed : List Wording → Wording
  | [] => []
  | [w] => w
  | w :: rest => w ++ .words ", " :: listed rest

@[simp] theorem isWritable_nil : isWritable [] = true := rfl

@[simp] theorem isWritable_cons (piece : Piece) (w : Wording) :
    isWritable (piece :: w) = (piece.isWritable && isWritable w) := rfl

@[simp] theorem isWritable_append (w w' : Wording) :
    isWritable (w ++ w') = (isWritable w && isWritable w') := List.all_append

@[simp] theorem isWritable_between (before after : String) (w : Wording) :
    isWritable (between before w after) = isWritable w := by
  simp [between, Piece.isWritable]

/-- A list can be written when each of its members can. -/
@[simp] theorem isWritable_listed (items : List Wording) :
    isWritable (listed items) = items.all isWritable := by
  fun_induction listed items with
  | case1 => rfl
  | case2 w => simp
  | case3 w rest _ ih => simp [ih, Piece.isWritable]

end Wording

end Spreadsheet.Text
