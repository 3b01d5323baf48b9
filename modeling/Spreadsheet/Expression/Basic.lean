import Spreadsheet.Program.Execution
import Spreadsheet.Token.Scan

/-!
# Expressions

An expression is the text of a formula together with its program, or without one when the text did
not compile. Compiling reads the tokens of the text only up to the first invalid one: what follows
that token, a run of too many digits included, is never looked at (`instructions`).
-/

namespace Spreadsheet

open Spreadsheet.Text

/-- The character that the text of a formula begins with. -/
def formulaMarker : CodePoint := .char '='

/-- Whether a text is meant as a formula. -/
def hasMarker (text : Text) : Bool := text.head? = some formulaMarker

/-- The text of a formula and the program it compiled to, if it did. -/
structure Expression where
  text : Text
  program : Option Program
  deriving DecidableEq

namespace Expression

/-! ## 1. Compiling -/

/-- The formula that lexemes spell, unless one of them is invalid. Nothing behind the first invalid
    one counts. -/
def instructions : List Lexeme → Except Fault (Option (List Instruction))
  | [] => .ok (some [])
  | lexeme :: rest =>
    match lexeme.token with
    | .error fault => .error fault
    | .ok token =>
      match token.instruction? with
      | none => .ok none
      | some i => (instructions rest).map (·.map (i :: ·))

/-- The program of the text behind the marker. -/
def compileBody (body : Text) : Except Fault (Option Program) :=
  (instructions (scan body)).map (·.map (Program.arrange []))

/-- **Compiles the text of a formula,** marker included. -/
def compile (text : Text) : Except Fault Expression :=
  if hasMarker text then (compileBody (text.drop 1)).map fun program => ⟨text, program⟩
  else .error (.missingMarker text)

/-- The text of an expression is the one that it was compiled from. -/
theorem text_of_compile {text : Text} {e : Expression} (ok : compile text = .ok e) :
    e.text = text := by
  unfold compile at ok
  split at ok
  · cases body : compileBody (text.drop 1) with
    | ok program =>
      rw [body] at ok
      cases ok
      rfl
    | error fault =>
      rw [body] at ok
      cases ok
  · cases ok

/-! ## 2. Parts of an expression -/

/-- Whether the text compiled. -/
def ok (e : Expression) : Bool := e.program.isSome

/-- The text without its first code point. -/
def body (e : Expression) : Text := e.text.drop 1

/-- The cells that the program reads, each once, in the order of first appearance. -/
def references (e : Expression) : List Position :=
  match e.program with
  | none => []
  | some program => program.references

/-- The run of the program. -/
def execute (e : Expression) (source : Option Source) : Outcome :=
  Program.execute e.program source

/-- A program as printed values show it. -/
def programWording : Option Program → Wording
  | none => ["None"]
  | some [i] => Wording.between "(" i.wording ",)"
  | some program => Wording.between "(" (Wording.listed (program.map Instruction.wording)) ")"

/-- The expression as printed values show it. -/
def wording (e : Expression) : Wording :=
  "CompiledExpression(text=" :: quoted e.text ::
    Wording.between ", program=" (programWording e.program) ")"

end Expression

end Spreadsheet
