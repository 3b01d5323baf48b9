import Spreadsheet.Text.Numeral

/-!
# Decimal forms of floating-point numbers

A floating-point number is known here by its shortest decimal form, such as `2.5`, `-0.0`, `1e+16`,
`inf` or `nan`. The only question asked of it is which integer it equals, if any (`wholeFloat?`).
Below 2 to the power 53 that is the integer the form spells; from there on the form spells an
integer that rounds to the number, so it is rounded (`nearestDouble`).
-/

namespace Spreadsheet.Text

/-- The 64-bit floating-point number nearest to a natural number, which is a natural number again:
    53 significant binary digits, of two equally near ones the even one. -/
def nearestDouble (n : Nat) : Nat :=
  if n < 1 <<< 53 then n
  else
    let unit := 1 <<< (n.log2 - 52)
    let quotient := n / unit
    let double := 2 * (n % unit)
    if unit < double ∨ (double = unit ∧ quotient % 2 = 1) then (quotient + 1) * unit
    else quotient * unit

/-- The natural number that `mantissa` times a power of ten equals, if there is one. -/
def scaled? (mantissa : Nat) (exponent : Int) : Option Nat :=
  if 0 ≤ exponent then some (mantissa * Nat.pow 10 exponent.toNat)
  else
    let divisor := Nat.pow 10 (-exponent).toNat
    if mantissa % divisor = 0 then some (mantissa / divisor) else none

/-- The exponent at the end of a decimal form; without one it is zero. -/
def exponent? : Text → Option Int
  | [] => some 0
  | .char 'e' :: rest =>
    (spelledInteger? rest).map fun (negative, run) => signed negative (digitsValue run)
  | _ => none

/-- The digits behind the point of a decimal form, and what follows them. -/
def splitFraction : Text → List Char × Text
  | .char '.' :: rest => (leadingDigits rest, rest.dropWhile (·.has Char.isDigit))
  | rest => ([], rest)

/-- The integer that a floating-point number equals, if there is one. -/
def wholeFloat? (decimals : String) : Option Int := do
  let (negative, rest) := splitSign (ofString decimals)
  let before := leadingDigits rest
  let (behind, rest) := splitFraction (rest.dropWhile (·.has Char.isDigit))
  let exponent ← exponent? rest
  if before = [] then none
  else
    let n ← scaled? (digitsValue (before ++ behind)) (exponent - behind.length)
    pure (signed negative (nearestDouble n))

end Spreadsheet.Text
