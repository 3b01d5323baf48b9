import Spreadsheet.Text.Basic
import Spreadsheet.Text.Ranges

/-!
# Blanks

The characters that separate the tokens of a formula and that may surround a cell label. They are
the white space of Unicode together with the four information separators U+001C to U+001F.
-/

namespace Spreadsheet.Text

/-- The blank characters, as ranges of code points. -/
def blankRanges : Ranges :=
  [(0x09, 0x0D), (0x1C, 0x20), (0x85, 0x85), (0xA0, 0xA0), (0x1680, 0x1680), (0x2000, 0x200A),
   (0x2028, 0x2029), (0x202F, 0x202F), (0x205F, 0x205F), (0x3000, 0x3000)]

/-- A character that separates tokens. -/
def isBlank (c : Char) : Bool := inRanges blankRanges c.toNat

/-- The text without the blanks at its two ends. -/
def trimBlanks (t : Text) : Text :=
  ((t.dropWhile (·.has isBlank)).reverse.dropWhile (·.has isBlank)).reverse

/-- A digit separates nothing. -/
theorem isBlank_eq_false_of_isDigit {c : Char} (h : c.isDigit = true) : isBlank c = false := by
  have h' : 48 ≤ c.toNat ∧ c.toNat ≤ 57 := Char.isDigit_iff_toNat.1 h
  simp [isBlank, inRanges, blankRanges]
  omega

end Spreadsheet.Text
