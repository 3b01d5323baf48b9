import Spreadsheet.Proofs.Expression.References

/-!
# Scanning piece by piece

How the lexemes of a text come from its pieces: blanks in front give none (`scan_append_of_blank`),
a run of digits that no digit follows gives one (`scan_digits_append`), so does an operator
(`scan_operator_cons`), and so does a letter, which takes the code point behind it along
(`scan_letter_cons`).

* `tokens_of_short`: a text whose runs of digits are short has tokens, invalid ones included.
* `compile_of_tokens`: a text that has all its tokens compiles to a program exactly when none of
  them is invalid.
-/

namespace Spreadsheet

open Spreadsheet.Text

/-! ## 1. What a text begins with -/

theorem CodePoint.char?_eq_some_iff {p : CodePoint} {c : Char} :
    p.char? = some c ↔ p = .char c := by
  cases p <;> simp [CodePoint.char?]

namespace Text

/-- Whether the text begins with a character that has the property. -/
def beginsWith (property : Char → Bool) (t : Text) : Bool := t.head?.any (·.has property)

/-- Blanks only, or nothing. -/
def Blank (gap : Text) : Prop := ∀ p ∈ gap, p.has isBlank = true

instance (gap : Text) : Decidable (Blank gap) :=
  inferInstanceAs (Decidable (∀ p ∈ gap, p.has isBlank = true))

/-- No run of digits in the text is too long to be converted. -/
def ShortRuns (t : Text) : Prop :=
  ∀ run : List Char, (∀ c ∈ run, c.isDigit = true) → ofChars run <:+: t → run.length ≤ digitLimit

variable {property : Char → Bool} {t u gap : Text} {run : List Char}

@[simp] theorem beginsWith_nil : beginsWith property [] = false := rfl

@[simp] theorem beginsWith_cons (p : CodePoint) :
    beginsWith property (p :: t) = p.has property := rfl

theorem beginsWith_dropWhile (property : Char → Bool) (t : Text) :
    beginsWith property (t.dropWhile (·.has property)) = false := by
  induction t with
  | nil => rfl
  | cons p t ih =>
    cases hp : p.has property with
    | true => rwa [List.dropWhile_cons_of_pos hp]
    | false => rwa [List.dropWhile_cons_of_neg (by simp [hp]), beginsWith_cons]

/-- A digit is not blank. -/
theorem isDigit_eq_false_of_isBlank {p : CodePoint} (h : p.has isBlank = true) :
    p.has Char.isDigit = false := by
  cases p with
  | surrogate half => rfl
  | char c =>
    refine Bool.eq_false_iff.mpr fun digit => ?_
    have := isBlank_eq_false_of_isDigit digit
    rw [CodePoint.has_char, this] at h
    cases h

theorem Blank.of_cons {p : CodePoint} (h : Blank (p :: gap)) : p.has isBlank = true ∧ Blank gap :=
  List.forall_mem_cons.mp h

theorem ShortRuns.of_infix (h : ShortRuns t) (part : u <:+: t) : ShortRuns u :=
  fun run digits inside => h run digits (inside.trans part)

/-- A text that is not longer than a run may be has short runs only. -/
theorem shortRuns_of_length (h : t.length ≤ digitLimit) : ShortRuns t := by
  intro run _ inside
  have fits : (ofChars run).length ≤ t.length := inside.length_le
  rw [ofChars, List.length_map] at fits
  exact Nat.le_trans fits h

/-- A run of digits that no digit follows is all the digits that the text begins with. -/
theorem leadingDigits_append (digits : ∀ c ∈ run, c.isDigit = true)
    (stop : beginsWith Char.isDigit t = false) : leadingDigits (ofChars run ++ t) = run := by
  induction run with
  | nil =>
    match t, stop with
    | [], _ => rfl
    | .surrogate half :: t, _ => rfl
    | .char c :: t, stop =>
      have not : c.isDigit = false := stop
      simp [ofChars, leadingDigits, not]
  | cons c run ih =>
    obtain ⟨digit, later⟩ := List.forall_mem_cons.mp digits
    simp only [ofChars_cons, List.cons_append, leadingDigits, digit, if_true, ih later]

theorem leadingDigits_ne_nil (h : beginsWith Char.isDigit t = true) : leadingDigits t ≠ [] := by
  match t, h with
  | .char c :: t, h =>
    have digit : c.isDigit = true := h
    simp [leadingDigits, digit]

/-- Behind such a run the rest of the text begins. -/
theorem dropWhile_digits_append (digits : ∀ c ∈ run, c.isDigit = true)
    (stop : beginsWith Char.isDigit t = false) :
    (ofChars run ++ t).dropWhile (·.has Char.isDigit) = t := by
  have whole := map_leadingDigits_append (ofChars run ++ t)
  rw [leadingDigits_append digits stop] at whole
  exact List.append_cancel_left whole

end Text

/-! ## 2. Pieces and lexemes -/

variable {t rest gap : Text} {run : List Char}

theorem scan_nil : scan [] = [] := by rw [scan]

theorem scan_cons_of_blank {p : CodePoint} (h : p.has isBlank = true) :
    scan (p :: rest) = scan rest := by
  rw [scan, if_pos h]

/-- **Blanks in front give no lexeme.** -/
theorem scan_append_of_blank (blank : Blank gap) (rest : Text) : scan (gap ++ rest) = scan rest := by
  induction gap with
  | nil => rfl
  | cons p gap ih =>
    obtain ⟨here, later⟩ := blank.of_cons
    rw [List.cons_append, scan_cons_of_blank here, ih later]

/-- **A run of digits gives one lexeme,** when no digit follows it. -/
theorem scan_digits_append (some : run ≠ []) (digits : ∀ c ∈ run, c.isDigit = true)
    (stop : beginsWith Char.isDigit rest = false) :
    scan (ofChars run ++ rest) = .digits run :: scan rest := by
  cases run with
  | nil => exact absurd rfl some
  | cons c run =>
    obtain ⟨digit, later⟩ := List.forall_mem_cons.mp digits
    have all := leadingDigits_append digits stop
    have behind := dropWhile_digits_append later stop
    simp only [ofChars_cons, List.cons_append] at all ⊢
    rw [scan, if_neg (by simp [isBlank_eq_false_of_isDigit digit]),
      if_pos (show (CodePoint.char c).has Char.isDigit = true from digit), all, behind]

/-- Digits only give one lexeme only. -/
theorem scan_digits (some : run ≠ []) (digits : ∀ c ∈ run, c.isDigit = true) :
    scan (ofChars run) = [.digits run] := by
  have all := scan_digits_append some digits beginsWith_nil
  rwa [List.append_nil, scan_nil] at all

/-- **An operator gives one lexeme.** -/
theorem scan_operator_cons (o : Operator) (rest : Text) :
    scan (.char o.symbol :: rest) = .operator o :: scan rest := by
  have blank : isBlank o.symbol = false := by cases o <;> decide
  have digit : o.symbol.isDigit = false := by cases o <;> decide
  rw [scan, if_neg (by simp [blank]), if_neg (by simp [digit])]
  simp only [CodePoint.char?, Option.bind_some, Operator.ofSymbol?_symbol]

/-! ## 3. Letters -/

theorem toNat_of_columnOf? {c : Char} {column : Int} (h : Position.columnOf? c = some column) :
    (65 ≤ c.toNat ∧ c.toNat ≤ 90) ∧ column = (c.toNat : Int) - 65 := by
  have bounds := columnOf?_bounds h
  unfold Position.columnOf? at h
  split at h
  · cases h
    unfold Position.letterCount at bounds
    omega
  · cases h

/-- The letter of a column is the only one. -/
theorem eq_letterOf {c : Char} {column : Int} (h : Position.columnOf? c = some column) :
    c = Position.letterOf column := by
  obtain ⟨⟨above, -⟩, rfl⟩ := toNat_of_columnOf? h
  have same : 65 + ((c.toNat : Int) - 65).toNat = c.toNat := by omega
  rw [Position.letterOf, same, Char.ofNat_toNat]

theorem isBlank_of_columnOf? {c : Char} {column : Int} (h : Position.columnOf? c = some column) :
    isBlank c = false := by
  obtain ⟨⟨above, below⟩, -⟩ := toNat_of_columnOf? h
  simp [isBlank, inRanges, blankRanges]
  omega

theorem isDigit_of_columnOf? {c : Char} {column : Int} (h : Position.columnOf? c = some column) :
    c.isDigit = false := by
  obtain ⟨⟨above, -⟩, -⟩ := toNat_of_columnOf? h
  refine Bool.eq_false_iff.mpr fun digit => ?_
  have : 48 ≤ c.toNat ∧ c.toNat ≤ 57 := Char.isDigit_iff_toNat.mp digit
  omega

theorem ofSymbol?_of_columnOf? {c : Char} {column : Int}
    (h : Position.columnOf? c = some column) : Operator.ofSymbol? c = none := by
  obtain ⟨⟨above, -⟩, -⟩ := toNat_of_columnOf? h
  refine Option.eq_none_iff_forall_ne_some.mpr fun o found => ?_
  have low : o.symbol.toNat < 65 := by cases o <;> decide
  rw [Operator.ofSymbol?_eq_some_iff.mp found] at above
  omega

/-- **A letter takes the code point behind it along,** whatever that is. -/
theorem scan_letter_cons {c : Char} {column : Int} (h : Position.columnOf? c = some column)
    (rest : Text) :
    scan (.char c :: rest) = Lexeme.ofColumn column rest.head? :: scan rest.tail := by
  rw [scan, if_neg (by simp [isBlank_of_columnOf? h]), if_neg (by simp [isDigit_of_columnOf? h])]
  simp only [CodePoint.char?, Option.bind_some, ofSymbol?_of_columnOf? h, h]

/-! ## 4. Tokens -/

theorem token_of_digits (short : run.length ≤ digitLimit) :
    (Lexeme.digits run).token =
      .ok (if (digitsValue run : Int) ≤ int64Max then .operand (.number (digitsValue run))
        else .invalid) := by
  have read : readDigits run = .ok (digitsValue run) := readDigits_eq_ok_iff.mpr ⟨short, rfl⟩
  rw [Lexeme.token, read]
  rfl

/-- Tokens are taken one by one. -/
theorem mapM_token_cons_eq_ok_iff {lexeme : Lexeme} {lexemes : List Lexeme} {tokens : List Token} :
    (lexeme :: lexemes).mapM Lexeme.token = .ok tokens ↔
      ∃ token later, lexeme.token = .ok token ∧ lexemes.mapM Lexeme.token = .ok later ∧
        tokens = token :: later := by
  rw [List.mapM_cons]
  cases lexeme.token with
  | error fault => simp [bind, Except.bind]
  | ok token =>
    cases lexemes.mapM Lexeme.token with
    | error fault => simp [bind, Except.bind]
    | ok later => simp [bind, Except.bind, pure, Except.pure, eq_comm]

/-- **Short runs of digits leave nothing to fail.** -/
theorem tokens_of_short (short : ShortRuns t) : ∃ ts, tokens t none = .ok ts := by
  have each : ∀ lexeme ∈ scan t, ∃ token, lexeme.token = .ok token := by
    refine forall_mem_scan ?_ ?_ ?_ ?_
    · exact fun run digits part => ⟨_, token_of_digits (short run digits part)⟩
    · exact fun o => ⟨_, rfl⟩
    · intro c column next _
      unfold Lexeme.ofColumn
      split
      · exact ⟨_, rfl⟩
      · exact ⟨_, rfl⟩
    · exact ⟨_, rfl⟩
  show ∃ ts, (scan t).mapM Lexeme.token = .ok ts
  generalize scan t = lexemes at each
  induction lexemes with
  | nil => exact ⟨[], rfl⟩
  | cons lexeme lexemes ih =>
    obtain ⟨⟨token, here⟩, later⟩ := List.forall_mem_cons.mp each
    obtain ⟨ts, there⟩ := ih later
    exact ⟨token :: ts, mapM_token_cons_eq_ok_iff.mpr ⟨token, ts, here, there, rfl⟩⟩

/-- **Compiling reads the tokens of a text,** and finds the instructions when all are valid. -/
theorem instructions_of_mapM_token {lexemes : List Lexeme} {ts : List Token}
    (h : lexemes.mapM Lexeme.token = .ok ts) :
    Expression.instructions lexemes = .ok (ts.mapM Token.instruction?) := by
  induction lexemes generalizing ts with
  | nil =>
    cases h
    rfl
  | cons lexeme lexemes ih =>
    obtain ⟨token, later, here, there, rfl⟩ := mapM_token_cons_eq_ok_iff.mp h
    rw [Expression.instructions, here, List.mapM_cons]
    cases meant : token.instruction? with
    | none =>
      simp only [meant]
      rfl
    | some i =>
      simp only [meant, ih there, Except.map]
      cases later.mapM Token.instruction? <;> rfl

/-- **Compiling arranges the instructions of a text,** if it has some. -/
theorem compile_marked (body : Text) :
    Expression.compile (formulaMarker :: body) =
      (Expression.instructions (scan body)).map fun is =>
        ⟨formulaMarker :: body, is.map (Program.arrange [])⟩ := by
  have marked : hasMarker (formulaMarker :: body) = true := rfl
  rw [Expression.compile, if_pos marked, List.drop_one, List.tail_cons, Expression.compileBody]
  cases Expression.instructions (scan body) <;> rfl

/-- **A text whose tokens are all valid has a program,** and no other text whose runs of digits are
    short. -/
theorem compile_of_tokens {ts : List Token} (h : tokens t none = .ok ts) :
    ∃ e, Expression.compile (formulaMarker :: t) = .ok e ∧
      (e.program.isSome ↔ Token.invalid ∉ ts) := by
  have read : Expression.instructions (scan t) = .ok (ts.mapM Token.instruction?) :=
    instructions_of_mapM_token h
  refine ⟨⟨formulaMarker :: t, (ts.mapM Token.instruction?).map (Program.arrange [])⟩, ?_, ?_⟩
  · rw [compile_marked, read]
    rfl
  · rw [Option.isSome_map, Program.isSome_mapM_instruction?]

end Spreadsheet
