import Spreadsheet.Arithmetic
import Spreadsheet.Position.Label
import Spreadsheet.Token.Basic

/-!
# From text to tokens

The text of a formula is cut into lexemes from left to right (`scan`), with blanks between them
skipped: a maximal run of digits; an operator; a capital letter together with the code point behind
it, whatever that is, which make a reference when it is a digit from `1` to `9`; or one code point
that is none of these. Each lexeme then gives one token (`Lexeme.token`), and only that step can
fail, on a run of too many digits. Taking tokens one by one therefore meets such a run only when
its turn comes (`tokens`).
-/

namespace Spreadsheet

open Spreadsheet.Text

/-! ## 1. Lexemes -/

/-- A piece of the text of a formula. -/
inductive Lexeme
  | digits (run : List Char)
  | operator (o : Operator)
  | reference (p : Position)
  /-- A code point without meaning, or a letter that no row digit follows. -/
  | other
  deriving DecidableEq

/-- The row of a digit behind a column letter. -/
def rowOf? (c : Char) : Option Int :=
  if Position.isLeadingDigit c then some ((c.toNat : Int) - 49) else none

/-- The lexeme of a column letter and of the code point behind it, if there is one. -/
def Lexeme.ofColumn (column : Int) (next : Option CodePoint) : Lexeme :=
  match (next.bind CodePoint.char?).bind rowOf? with
  | some row => .reference ⟨column, row⟩
  | none => .other

theorem length_dropWhile_le (property : CodePoint → Bool) (t : Text) :
    (t.dropWhile property).length ≤ t.length :=
  (List.dropWhile_sublist property).length_le

/-- **The lexemes of a text,** from left to right. -/
def scan : Text → List Lexeme
  | [] => []
  | p :: rest =>
    if p.has isBlank then scan rest
    else if p.has Char.isDigit then
      .digits (leadingDigits (p :: rest)) :: scan (rest.dropWhile (·.has Char.isDigit))
    else
      match p.char?.bind Operator.ofSymbol? with
      | some o => .operator o :: scan rest
      | none =>
        match p.char?.bind Position.columnOf? with
        | some column => Lexeme.ofColumn column rest.head? :: scan rest.tail
        | none => .other :: scan rest
termination_by t => t.length
decreasing_by
  all_goals
    have := length_dropWhile_le (·.has Char.isDigit) rest
    simp only [List.length_cons, List.length_tail]
    omega

/-! ## 2. Tokens -/

/-- The token of a lexeme. A run of digits is a number unless it exceeds the 64-bit range. -/
def Lexeme.token : Lexeme → Except Fault Token
  | digits run =>
    (readDigits run).map fun n => if (n : Int) ≤ int64Max then .operand (.number n) else .invalid
  | operator o => .ok (.operator o)
  | reference p => .ok (.operand (.cell p))
  | other => .ok .invalid

/-- The tokens of a text, all of them or the first `limit`. -/
def tokens (text : Text) (limit : Option Nat) : Except Fault (List Token) :=
  let lexemes := scan text
  ((limit.map lexemes.take).getD lexemes).mapM Lexeme.token

end Spreadsheet
