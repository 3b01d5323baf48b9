import Spreadsheet.Fault

/-!
# Reading numerals

The number that a run of digits stands for, and the integer that a text spells: an optional sign
and a run of ASCII digits, leading zeros allowed. The only fault is a run over the limit, and it
comes before any question of range (`readDigits_eq_error_iff`).
-/

namespace Spreadsheet.Text

/-- The value of a run of digits, unless the run is too long to be converted. -/
def readDigits (run : List Char) : Except Fault Nat :=
  if digitLimit < run.length then .error (.tooManyDigits run.length) else .ok (digitsValue run)

/-- The sign in front of a text: whether it is a minus sign, and what follows it. -/
def splitSign : Text → Bool × Text
  | .char '-' :: rest => (true, rest)
  | .char '+' :: rest => (false, rest)
  | rest => (false, rest)

/-- A text that spells an integer, as its sign and its digits. -/
def spelledInteger? (t : Text) : Option (Bool × List Char) :=
  let (negative, rest) := splitSign t
  (chars? rest).bind fun run =>
    if run ≠ [] ∧ run.all Char.isDigit then some (negative, run) else none

/-- The integer of a sign and a run of digits. -/
def signed (negative : Bool) (n : Nat) : Int := if negative then -(n : Int) else n

theorem readDigits_eq_ok_iff {run : List Char} {n : Nat} :
    readDigits run = .ok n ↔ run.length ≤ digitLimit ∧ digitsValue run = n := by
  unfold readDigits
  split
  · simp; omega
  · simp; omega

theorem readDigits_eq_error_iff {run : List Char} {f : Fault} :
    readDigits run = .error f ↔ digitLimit < run.length ∧ f = .tooManyDigits run.length := by
  unfold readDigits
  split
  · rename_i h
    simp [h, eq_comm]
  · rename_i h
    simp [h]

end Spreadsheet.Text
