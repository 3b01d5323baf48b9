import Spreadsheet.Proofs.Cell.Spelling
import Spreadsheet.Proofs.Token.Scanning

/-!
# Which entries are refused

The only texts that cannot be entered are those in which a run of too many digits has to be converted.
A formula does not convert all its runs: lexemes are turned into tokens one by one, and the first invalid
one ends the compilation, with no program but without a fault. So it is the first lexeme that is not
`Valid` that decides (`valid_or_first`):

* `instructions_of_overlong`: a run of too many digits is a fault, which tells their number;
* `instructions_of_invalid`: behind an invalid lexeme nothing matters, a run of too many digits neither;
* `instructions_of_valid`: valid lexemes let both pass through to what stands behind them.

`instructions_eq_error_iff` and `instructions_eq_none_iff` put them together for all lexemes of a text.
A text without the formula marker is converted when it is a sign and digits (`ofPlainEntry_eq_error_iff`).
-/

namespace Spreadsheet

open Spreadsheet.Text

variable {lexeme bad : Lexeme} {lexemes before after : List Lexeme} {run : List Char} {fault : Fault}

/-! ## 1. Lexemes that end a compilation -/

namespace Lexeme

/-- The lexeme is converted, but to nothing that a formula is made of. -/
def Invalid : Lexeme → Prop
  | digits run => run.length ≤ digitLimit ∧ int64Max < digitsValue run
  | operator _ => False
  | reference _ => False
  | other => True

/-- The lexeme is a run of digits that is too long to be converted. -/
def Overlong : Lexeme → Prop
  | digits run => digitLimit < run.length
  | _ => False

/-- The lexeme gives an instruction. -/
def Valid (lexeme : Lexeme) : Prop := ¬ lexeme.Invalid ∧ ¬ lexeme.Overlong

/-- **Only a run of too many digits is a fault.** -/
theorem token_eq_error_iff :
    lexeme.token = .error fault ↔
      ∃ run, lexeme = .digits run ∧ digitLimit < run.length ∧ fault = .tooManyDigits run.length := by
  cases lexeme with
  | digits run =>
    cases read : readDigits run with
    | error fault' =>
      obtain ⟨long, rfl⟩ := readDigits_eq_error_iff.mp read
      simp [token, read, Except.map, long, eq_comm]
    | ok n =>
      have short := (readDigits_eq_ok_iff.mp read).1
      simp [token, read, Except.map, short]
  | operator o => simp [token]
  | reference p => simp [token]
  | other => simp [token]

theorem token_eq_invalid_iff : lexeme.token = .ok .invalid ↔ lexeme.Invalid := by
  cases lexeme with
  | digits run =>
    by_cases short : run.length ≤ digitLimit
    · rw [token_of_digits short, Invalid]
      by_cases fits : (digitsValue run : Int) ≤ int64Max
      · simp [fits, short]
      · simp [fits, short, Int.not_le.mp fits]
    · have fails : (digits run).token = .error (.tooManyDigits run.length) :=
        token_eq_error_iff.mpr ⟨run, rfl, Nat.not_le.mp short, rfl⟩
      simp [fails, Invalid, short]
  | operator o => simp [token, Invalid]
  | reference p => simp [token, Invalid]
  | other => simp [token, Invalid]

theorem Valid.exists_token (valid : lexeme.Valid) : ∃ i : Instruction, lexeme.token = .ok i.token := by
  cases means : lexeme.token with
  | error fault =>
    obtain ⟨run, rfl, long, -⟩ := token_eq_error_iff.mp means
    exact absurd long valid.2
  | ok token =>
    cases token with
    | operand x => exact ⟨.operand x, rfl⟩
    | operator o => exact ⟨.operator o, rfl⟩
    | invalid => exact absurd (token_eq_invalid_iff.mp means) valid.1

end Lexeme

/-- **All lexemes are valid, or one of them is the first that is not.** -/
theorem valid_or_first (lexemes : List Lexeme) :
    (∀ lexeme ∈ lexemes, lexeme.Valid) ∨ ∃ before bad after, lexemes = before ++ bad :: after ∧
      (∀ lexeme ∈ before, lexeme.Valid) ∧ (bad.Invalid ∨ bad.Overlong) := by
  induction lexemes with
  | nil => exact .inl fun _ member => absurd member List.not_mem_nil
  | cons lexeme lexemes ih =>
    by_cases valid : lexeme.Valid
    · rcases ih with all | ⟨before, bad, after, rfl, earlier, stops⟩
      · exact .inl (List.forall_mem_cons.mpr ⟨valid, all⟩)
      · exact .inr ⟨lexeme :: before, bad, after, rfl, List.forall_mem_cons.mpr ⟨valid, earlier⟩, stops⟩
    · have stops : lexeme.Invalid ∨ lexeme.Overlong := by
        rw [Lexeme.Valid, not_and_or, not_not, not_not] at valid
        exact valid
      exact .inr ⟨[], lexeme, lexemes, rfl, fun _ member => absurd member List.not_mem_nil, stops⟩

/-- A run of too many digits stands among the lexemes, and no invalid lexeme in front of it. -/
def MeetsOverlong (lexemes : List Lexeme) : Prop :=
  ∃ before run after, lexemes = before ++ .digits run :: after ∧ digitLimit < run.length ∧
    ∀ lexeme ∈ before, ¬ lexeme.Invalid

/-! ## 2. Compiling -/

namespace Expression

/-- **Behind valid lexemes the rest decides.** -/
theorem instructions_of_valid (valid : ∀ lexeme ∈ before, lexeme.Valid) (after : List Lexeme) :
    ∃ is, instructions (before ++ after) = (instructions after).map (·.map (is ++ ·)) := by
  induction before with
  | nil =>
    refine ⟨[], ?_⟩
    cases h : instructions after with
    | error fault => simp [h, Except.map]
    | ok is => simp [h, Except.map]
  | cons lexeme before ih =>
    obtain ⟨here, later⟩ := List.forall_mem_cons.mp valid
    obtain ⟨is, rest⟩ := ih later
    obtain ⟨i, means⟩ := here.exists_token
    have instruction : i.token.instruction? = some i := Token.instruction?_eq_some_iff.mpr rfl
    refine ⟨i :: is, ?_⟩
    rw [List.cons_append, instructions, means]
    simp only [instruction, rest]
    cases instructions after with
    | error fault => rfl
    | ok is' => cases is' <;> rfl

/-- **A run of too many digits is a fault,** unless an invalid lexeme comes first. -/
theorem instructions_of_overlong (valid : ∀ lexeme ∈ before, lexeme.Valid)
    (long : digitLimit < run.length) (after : List Lexeme) :
    instructions (before ++ .digits run :: after) = .error (.tooManyDigits run.length) := by
  obtain ⟨is, rest⟩ := instructions_of_valid valid (.digits run :: after)
  have fails : (Lexeme.digits run).token = .error (.tooManyDigits run.length) :=
    Lexeme.token_eq_error_iff.mpr ⟨run, rfl, long, rfl⟩
  rw [rest, instructions, fails]
  rfl

/-- **Behind an invalid lexeme nothing matters.** -/
theorem instructions_of_invalid (valid : ∀ lexeme ∈ before, lexeme.Valid) (invalid : bad.Invalid)
    (after : List Lexeme) : instructions (before ++ bad :: after) = .ok none := by
  obtain ⟨is, rest⟩ := instructions_of_valid valid (bad :: after)
  rw [rest, instructions, Lexeme.token_eq_invalid_iff.mpr invalid]
  rfl

theorem instructions_of_all_valid (valid : ∀ lexeme ∈ lexemes, lexeme.Valid) :
    ∃ is, instructions lexemes = .ok (some is) := by
  obtain ⟨is, all⟩ := instructions_of_valid valid []
  rw [List.append_nil] at all
  exact ⟨is ++ [], all⟩

/-- **The fault names the first run of too many digits.** -/
theorem instructions_eq_error_iff :
    instructions lexemes = .error fault ↔ ∃ before run after,
      lexemes = before ++ .digits run :: after ∧ (∀ lexeme ∈ before, lexeme.Valid) ∧
      digitLimit < run.length ∧ fault = .tooManyDigits run.length := by
  constructor
  · intro fails
    rcases valid_or_first lexemes with valid | ⟨before, bad, after, rfl, valid, invalid | long⟩
    · obtain ⟨is, compiled⟩ := instructions_of_all_valid valid
      rw [compiled] at fails
      cases fails
    · rw [instructions_of_invalid valid invalid] at fails
      cases fails
    · cases bad with
      | digits run =>
        rw [instructions_of_overlong valid long] at fails
        cases fails
        exact ⟨before, run, after, rfl, valid, long, rfl⟩
      | _ => exact long.elim
  · rintro ⟨before, run, after, rfl, valid, long, rfl⟩
    exact instructions_of_overlong valid long after

/-- **There is no program when an invalid lexeme comes before any run of too many digits.** -/
theorem instructions_eq_none_iff :
    instructions lexemes = .ok none ↔ ∃ before bad after, lexemes = before ++ bad :: after ∧
      bad.Invalid ∧ ∀ lexeme ∈ before, ¬ lexeme.Overlong := by
  constructor
  · intro none
    rcases valid_or_first lexemes with valid | ⟨before, bad, after, rfl, valid, invalid | long⟩
    · obtain ⟨is, compiled⟩ := instructions_of_all_valid valid
      rw [compiled] at none
      cases none
    · exact ⟨before, bad, after, rfl, invalid, fun lexeme member => (valid lexeme member).2⟩
    · cases bad with
      | digits run =>
        rw [instructions_of_overlong valid long] at none
        cases none
      | _ => exact long.elim
  · rintro ⟨before, bad, after, rfl, invalid, short⟩
    -- the first lexeme that is not valid may stand further in front, and is invalid as well
    rcases valid_or_first before with valid | ⟨before, first, between, rfl, valid, stops⟩
    · exact instructions_of_invalid valid invalid after
    · have first_invalid : first.Invalid := stops.resolve_right (short first (by simp))
      rw [List.append_assoc, List.cons_append]
      exact instructions_of_invalid valid first_invalid _

/-! ## 3. Formulas -/

/-- Which of the runs it is does not matter: one in front of it is one as well. -/
theorem meetsOverlong_iff :
    MeetsOverlong lexemes ↔ ∃ fault, instructions lexemes = .error fault := by
  simp only [instructions_eq_error_iff]
  constructor
  · rintro ⟨before, run, after, rfl, long, noInvalid⟩
    rcases valid_or_first before with valid | ⟨before, first, between, rfl, valid, stops⟩
    · exact ⟨_, before, run, after, rfl, valid, long, rfl⟩
    · have first_long : first.Overlong := stops.resolve_left (noInvalid first (by simp))
      cases first with
      | digits run' =>
        have parts : before ++ .digits run' :: between ++ .digits run :: after =
            before ++ .digits run' :: (between ++ .digits run :: after) := List.append_assoc _ _ _
        exact ⟨_, before, run', _, parts, valid, first_long, rfl⟩
      | _ => exact first_long.elim
  · rintro ⟨fault, before, run, after, rfl, valid, long, -⟩
    exact ⟨before, run, after, rfl, long, fun lexeme member => (valid lexeme member).1⟩

/-- **A text that compiles has no program exactly when one of its lexemes is invalid.** -/
theorem instructions_of_not_meetsOverlong (h : ¬ MeetsOverlong lexemes) :
    ∃ is, instructions lexemes = .ok is ∧ (is = none ↔ ∃ lexeme ∈ lexemes, lexeme.Invalid) := by
  rw [meetsOverlong_iff] at h
  rcases valid_or_first lexemes with valid | ⟨before, bad, after, rfl, valid, invalid | long⟩
  · obtain ⟨is, compiled⟩ := instructions_of_all_valid valid
    have absent : ¬ ∃ lexeme ∈ lexemes, lexeme.Invalid := fun ⟨lexeme, member, invalid⟩ =>
      (valid lexeme member).1 invalid
    exact ⟨some is, compiled, iff_of_false (Option.some_ne_none is) absent⟩
  · have found : ∃ lexeme ∈ before ++ bad :: after, lexeme.Invalid := ⟨bad, by simp, invalid⟩
    exact ⟨none, instructions_of_invalid valid invalid after, iff_of_true rfl found⟩
  · cases bad with
    | digits run => exact absurd ⟨_, instructions_of_overlong valid long after⟩ h
    | _ => exact long.elim

variable {body : Text}

theorem compile_eq_error_iff :
    compile (formulaMarker :: body) = .error fault ↔ instructions (scan body) = .error fault := by
  rw [compile_marked]
  cases instructions (scan body) with
  | error fault' => simp [Except.map]
  | ok is => simp [Except.map]

theorem compile_of_instructions {is : Option (List Instruction)}
    (h : instructions (scan body) = .ok is) :
    compile (formulaMarker :: body) = .ok ⟨formulaMarker :: body, is.map (Program.arrange [])⟩ := by
  rw [compile_marked, h]
  rfl

end Expression

/-! ## 4. Other entries -/

variable {text : Text}

/-- The text is a sign, which may be missing, and then the digits. -/
def SignedRun (text : Text) (run : List Char) : Prop :=
  (run ≠ [] ∧ ∀ c ∈ run, c.isDigit = true) ∧
    (text = ofChars run ∨ text = .char '+' :: ofChars run ∨ text = .char '-' :: ofChars run)

theorem signedRun_iff :
    SignedRun text run ↔ ∃ negative, spelledInteger? text = some (negative, run) := by
  simp only [spelledInteger?_eq_some_iff]
  constructor
  · rintro ⟨⟨nonempty, digits⟩, form⟩
    have split (negative : Bool) : splitSign text = (negative, ofChars run) ↔ _ :=
      splitSign_eq_iff nonempty digits
    rcases form with plain | plus | minus
    · exact ⟨false, (split false).mpr (.inl ⟨rfl, plain⟩), nonempty, digits⟩
    · exact ⟨false, (split false).mpr (.inr (.inl ⟨rfl, plus⟩)), nonempty, digits⟩
    · exact ⟨true, (split true).mpr (.inr (.inr ⟨rfl, minus⟩)), nonempty, digits⟩
  · rintro ⟨negative, split, nonempty, digits⟩
    rcases eq_of_splitSign split with ⟨-, plain⟩ | ⟨-, plus⟩ | ⟨-, minus⟩
    · exact ⟨⟨nonempty, digits⟩, .inl plain⟩
    · exact ⟨⟨nonempty, digits⟩, .inr (.inl plus)⟩
    · exact ⟨⟨nonempty, digits⟩, .inr (.inr minus)⟩

theorem SignedRun.spells (h : SignedRun text run) : ∃ n, Spells text n := by
  obtain ⟨negative, read⟩ := signedRun_iff.mp h
  exact ⟨_, spells_iff.mpr ⟨negative, run, read, rfl⟩⟩

namespace Cell

/-- **Without the formula marker only a sign and too many digits are refused.** -/
theorem ofPlainEntry_eq_error_iff :
    ofPlainEntry text = .error fault ↔
      ∃ run, SignedRun text run ∧ digitLimit < run.length ∧ fault = .tooManyDigits run.length := by
  simp only [signedRun_iff]
  unfold ofPlainEntry
  split
  · rename_i nothing
    rw [nothing]
    simp [spelledInteger?, splitSign, chars?]
  · split
    · rename_i none
      simp [none]
    · rename_i negative run spelled
      cases read : readDigits run with
      | error fault' =>
        obtain ⟨long, rfl⟩ := readDigits_eq_error_iff.mp read
        simp [spelled, Except.map, long, eq_comm]
      | ok n =>
        have short := (readDigits_eq_ok_iff.mp read).1
        simp [spelled, Except.map, short]

/-- **Exactly which entries are refused.** A formula is refused when a run of too many digits stands
    among its lexemes and no invalid lexeme in front of it; the fault tells the length of the first such
    run. Every other formula compiles, without a program exactly when one of its lexemes is invalid, and
    of what stands behind this lexeme nothing matters. A text is refused as an entry when it is a formula
    that is refused, or a sign, which may be missing, and too many digits. -/
theorem ofEntry_refused_exact :
    (∀ body : Text,
      ((∃ fault, Expression.compile (formulaMarker :: body) = .error fault) ↔
        MeetsOverlong (scan body)) ∧
      (∀ fault, Expression.compile (formulaMarker :: body) = .error fault ↔
        ∃ before run after, scan body = before ++ .digits run :: after ∧
          (∀ lexeme ∈ before, lexeme.Valid) ∧ digitLimit < run.length ∧
          fault = .tooManyDigits run.length) ∧
      (¬ MeetsOverlong (scan body) → ∃ e, Expression.compile (formulaMarker :: body) = .ok e ∧
        (e.program = none ↔ ∃ lexeme ∈ scan body, lexeme.Invalid)) ∧
      ∀ before bad after, scan body = before ++ bad :: after → bad.Invalid →
        (∀ lexeme ∈ before, ¬ lexeme.Overlong) →
        Expression.compile (formulaMarker :: body) = .ok ⟨formulaMarker :: body, none⟩) ∧
    ∀ (text : Text) (fault : Fault), ofEntry text = .error fault ↔
      (hasMarker text = true ∧ Expression.compile text = .error fault) ∨
      ∃ run, SignedRun text run ∧ digitLimit < run.length ∧ fault = .tooManyDigits run.length := by
  refine ⟨fun body => ⟨?_, ?_, ?_, ?_⟩, fun text fault => ?_⟩
  · simp only [Expression.compile_eq_error_iff]
    exact Expression.meetsOverlong_iff.symm
  · intro fault
    exact Expression.compile_eq_error_iff.trans Expression.instructions_eq_error_iff
  · intro free
    obtain ⟨is, compiled, none_iff⟩ := Expression.instructions_of_not_meetsOverlong free
    refine ⟨_, Expression.compile_of_instructions compiled, ?_⟩
    rw [← none_iff, Option.map_eq_none_iff]
  · intro before bad after lexemes invalid short
    have none := Expression.instructions_eq_none_iff.mpr ⟨before, bad, after, lexemes, invalid, short⟩
    exact Expression.compile_of_instructions none
  · cases marked : hasMarker text with
    | true =>
      -- no text with the marker is a sign and digits
      have noRun (run : List Char) : ¬ SignedRun text run := fun signed => by
        obtain ⟨n, spells⟩ := signed.spells
        rw [spells.hasMarker_eq_false] at marked
        cases marked
      have noOther : ¬ ∃ run, SignedRun text run ∧ digitLimit < run.length ∧
          fault = .tooManyDigits run.length := fun ⟨run, signed, _⟩ => noRun run signed
      rw [ofEntry, if_pos marked]
      cases Expression.compile text with
      | error fault' => simp [Except.map, noOther]
      | ok e => simp [Except.map, noOther]
    | false =>
      rw [ofEntry, if_neg (Bool.eq_false_iff.mp marked), ofPlainEntry_eq_error_iff]
      simp

/-- The general statement at 4301 sevens. Behind `=A1` they are refused, as they are behind a plus sign.
    Behind `=AB` they are not looked at, since the first letter has taken the second one along. -/
theorem ofEntry_refused_exact_letters :
    let sevens := List.replicate 4301 '7'
    let behindCell := ofChars ('A' :: '1' :: sevens)
    let behindLetters := ofChars ('A' :: 'B' :: sevens)
    Expression.compile (formulaMarker :: behindCell) = .error (.tooManyDigits 4301) ∧
    ofEntry (formulaMarker :: behindCell) = .error (.tooManyDigits 4301) ∧
    ofEntry (.char '+' :: ofChars sevens) = .error (.tooManyDigits 4301) ∧
    Expression.compile (formulaMarker :: behindLetters) =
      .ok ⟨formulaMarker :: behindLetters, none⟩ := by
  intro sevens behindCell behindLetters
  have length : sevens.length = 4301 := List.length_replicate
  have long : digitLimit < sevens.length := by rw [length]; decide
  have nonempty : sevens ≠ [] := List.ne_nil_of_length_pos (by omega)
  have digits : ∀ c ∈ sevens, c.isDigit = true := fun c member =>
    (List.eq_of_mem_replicate member).symm ▸ rfl
  have cell : scan behindCell = [.reference ⟨0, 0⟩] ++ .digits sevens :: [] := by
    have first : Position.columnOf? 'A' = some 0 := by decide
    rw [← scan_digits nonempty digits]
    exact scan_letter_cons first _
  have letters : scan behindLetters = [] ++ .other :: [.digits sevens] := by
    have first : Position.columnOf? 'A' = some 0 := by decide
    rw [← scan_digits nonempty digits]
    exact scan_letter_cons first _
  have valid : ∀ lexeme ∈ [Lexeme.reference ⟨0, 0⟩], lexeme.Valid := by
    simp [Lexeme.Valid, Lexeme.Invalid, Lexeme.Overlong]
  have none : ∀ lexeme ∈ ([] : List Lexeme), ¬ lexeme.Overlong := by simp
  obtain ⟨formulas, entries⟩ := ofEntry_refused_exact
  have refused : Expression.compile (formulaMarker :: behindCell) = .error (.tooManyDigits 4301) :=
    ((formulas behindCell).2.1 _).mpr ⟨_, sevens, _, cell, valid, long, by rw [length]⟩
  refine ⟨refused, (entries _ _).mpr (.inl ⟨rfl, refused⟩), (entries _ _).mpr (.inr ?_), ?_⟩
  · exact ⟨sevens, ⟨⟨nonempty, digits⟩, .inr (.inl rfl)⟩, long, by rw [length]⟩
  · exact (formulas behindLetters).2.2.2 _ _ _ letters trivial none

end Cell

end Spreadsheet
