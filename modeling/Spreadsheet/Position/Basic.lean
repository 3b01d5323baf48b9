import Spreadsheet.Text.Wording

/-!
# Positions: where a cell stands

A position is a column and a row, both counted from zero. Either number may be negative or far
outside any grid: a formula built by hand can name such a place, and a position alone does not
know the sheet it is used on. This file fixes

* the order in which positions are listed everywhere (`Position.lt_iff`): column first, then row;
* that the order is strict and total (`lt_irrefl`, `lt_trans`, `lt_trichotomy`), which is what
  makes a sorted list of positions unique;
* the two ways a position is shown in messages (`wording`, `pair`), and which positions can be
  (`isWritable`).
-/

namespace Spreadsheet

/-- The place of a cell: its column and its row, both counted from zero. -/
structure Position where
  column : Int
  row : Int
  deriving DecidableEq

namespace Position

/-! ## 1. Order -/

instance : LT Position where
  lt p q := p.column < q.column ∨ (p.column = q.column ∧ p.row < q.row)

theorem lt_iff {p q : Position} :
    p < q ↔ p.column < q.column ∨ (p.column = q.column ∧ p.row < q.row) := Iff.rfl

instance : DecidableLT Position := fun _ _ => decidable_of_iff' _ lt_iff

theorem lt_irrefl (p : Position) : ¬ p < p := by
  rw [lt_iff]; omega

theorem lt_trans {p q r : Position} (h : p < q) (h' : q < r) : p < r := by
  rw [lt_iff] at *; omega

theorem ne_of_lt {p q : Position} (h : p < q) : p ≠ q :=
  fun e => lt_irrefl q (e ▸ h)

theorem lt_asymm {p q : Position} (h : p < q) : ¬ q < p :=
  fun h' => lt_irrefl p (lt_trans h h')

/-- Two positions are ordered one way, the other way, or are the same. -/
theorem lt_trichotomy (p q : Position) : p < q ∨ p = q ∨ q < p := by
  obtain ⟨c, r⟩ := p
  obtain ⟨c', r'⟩ := q
  simp only [lt_iff, mk.injEq]
  omega

/-! ## 2. Signs -/

/-- A position is negative when its column or its row is. -/
def isNegative (p : Position) : Bool := decide (p.column < 0) || decide (p.row < 0)

theorem isNegative_eq_false_iff {p : Position} :
    p.isNegative = false ↔ 0 ≤ p.column ∧ 0 ≤ p.row := by
  simp [isNegative]

/-! ## 3. Wordings -/

open Spreadsheet.Text

/-- The two numbers in parentheses. -/
def pair (p : Position) : Wording := ["(", p.column, ", ", p.row, ")"]

/-- The two numbers with their names, as messages and printed values show them. -/
def wording (p : Position) : Wording := ["Position(column=", p.column, ", row=", p.row, ")"]

/-- Whether both numbers are short enough to be written. -/
def isWritable (p : Position) : Bool := Text.isWritable p.column && Text.isWritable p.row

@[simp] theorem isWritable_wording (p : Position) : p.wording.isWritable = p.isWritable := by
  simp [wording, isWritable, Piece.isWritable]

end Position

end Spreadsheet
