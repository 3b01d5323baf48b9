import Spreadsheet.Text.Basic
import Spreadsheet.Text.Printable

/-!
# Quoted texts

A text inside a message or a printed value stands in quotes: single ones, unless it holds a single
quote and no double one. Inside, the backslash and the chosen quote get a backslash in front, the
line feed, the carriage return and the tab their letter, and every other code point that is not a
printable character its code in two, four or eight hexadecimal digits, whichever is the least that
fits. A quoted text is a `String`: what is not a character is written by its code.
-/

namespace Spreadsheet.Text

/-! ## 1. The quotation mark -/

/-- The single quotation mark. -/
def singleQuote : Char := '\x27'

/-- The double quotation mark. -/
def doubleQuote : Char := '\x22'

/-- The mark that a text is quoted with. -/
def quoteMark (t : Text) : Char :=
  if .char singleQuote ∈ t ∧ .char doubleQuote ∉ t then doubleQuote else singleQuote

/-! ## 2. Escapes -/

/-- The hexadecimal digits of a number, at least `width` of them. -/
def hexadecimal (width n : Nat) : List Char :=
  let digits := Nat.toDigits 16 n
  List.replicate (width - digits.length) '0' ++ digits

/-- A character by its code, as short as the code allows. -/
def escapeCode (n : Nat) : List Char :=
  if n < 0x100 then '\\' :: 'x' :: hexadecimal 2 n
  else if n < 0x10000 then '\\' :: 'u' :: hexadecimal 4 n
  else '\\' :: 'U' :: hexadecimal 8 n

/-- The letter that follows the backslash for the three characters that have one. -/
def escapeLetter? : Char → Option Char
  | '\n' => some 'n'
  | '\r' => some 'r'
  | '\t' => some 't'
  | _ => none

/-- A code point as it stands between two marks. -/
def escaped (mark : Char) : CodePoint → List Char
  | .char c =>
    if c = mark ∨ c = '\\' then ['\\', c]
    else
      match escapeLetter? c with
      | some letter => ['\\', letter]
      | none => if isPrintable c then [c] else escapeCode c.toNat
  | .surrogate half => escapeCode (CodePoint.surrogate half).code

/-- The text in quotes. -/
def quoted (t : Text) : String :=
  let mark := quoteMark t
  String.ofList (mark :: t.flatMap (escaped mark) ++ [mark])

/-! ## 3. Bytes -/

/-- A byte as it stands between two marks: the visible part of ASCII as it is, all else escaped. -/
def escapedByte (mark : Char) (b : Nat) : List Char :=
  let c := Char.ofNat b
  if c = mark ∨ c = '\\' then ['\\', c]
  else
    match escapeLetter? c with
    | some letter => ['\\', letter]
    | none => if 0x20 ≤ b ∧ b < 0x7F then [c] else escapeCode b

/-- A sequence of bytes in quotes, marked by a leading `b`. -/
def quotedBytes (bytes : List Nat) : String :=
  let mark := quoteMark (ofChars (bytes.map Char.ofNat))
  String.ofList ('b' :: mark :: bytes.flatMap (escapedByte mark) ++ [mark])

end Spreadsheet.Text
