import Spreadsheet.Proofs.Token.Scanning

/-!
# The grammar of formulas

A valid text is written token by token (`Written`): a number in digits, with any count of leading
zeros, an operator as its symbol, a reference as its column letter and its row digit
(`Token.SpelledBy`). Blanks may stand anywhere around tokens, and they have to stand between two
numbers, since digits side by side are one number.

* `tokens_of_written`: what is written that way is read back, when the numbers and references are in
  range. A token read first leaves the rest of the text to be read (`scan_spelled`).
* `reading_of_tokens`: a text without invalid tokens is written that way, and what stands behind a
  number in it does not begin with a digit (`Reading`).
* `tokens_iff_written`: so the tokens of a text are the ones it is a writing of, and a formula
  compiles exactly when its text is a writing of some.
-/

namespace Spreadsheet

open Spreadsheet.Text

/-! ## 1. Tokens in writing -/

/-- The digit of one of the first nine rows. -/
def Position.rowDigit (row : Int) : Char := (row.toNat + 1).digitChar

namespace Token

/-- Whether the characters are a way to write the token. Numbers have many, the mark for invalid
    text has none. -/
def SpelledBy : Token → List Char → Prop
  | operand (.number n), run =>
    run ≠ [] ∧ (∀ c ∈ run, c.isDigit = true) ∧ (digitsValue run : Int) = n
  | operand (.cell p), run => run = [Position.letterOf p.column, Position.rowDigit p.row]
  | operator o, run => run = [o.symbol]
  | invalid, _ => False

/-- Whether the number fits, or the reference has a letter and a digit. -/
def InRange : Token → Prop
  | operand (.number n) => 0 ≤ n ∧ n ≤ int64Max
  | operand (.cell p) => Referable p
  | operator _ => True
  | invalid => True

def isNumber : Token → Bool
  | operand (.number _) => true
  | _ => false

end Token

/-- **What a list of tokens may be written as,** `afterNumber` telling whether a number stands in
    front of it. -/
inductive Written : Bool → List Token → Text → Prop
  | blank {afterNumber : Bool} {gap : Text} (blank : Blank gap) : Written afterNumber [] gap
  | token {afterNumber : Bool} {gap : Text} {token : Token} {run : List Char} {ts : List Token}
      {rest : Text} (blank : Blank gap)
      (apart : afterNumber = true → token.isNumber = true → gap ≠ [])
      (spelled : token.SpelledBy run) (later : Written token.isNumber ts rest) :
      Written afterNumber (token :: ts) (gap ++ ofChars run ++ rest)

variable {p : Position} {token : Token} {ts : List Token} {run : List Char} {t rest : Text}

/-! ## 2. References -/

theorem rowOf?_rowDigit {row : Int} (h0 : 0 ≤ row) (h : row < 9) :
    rowOf? (Position.rowDigit row) = some row := by
  obtain ⟨n, rfl⟩ := Int.eq_ofNat_of_zero_le h0
  have hn : n < 9 := by omega
  clear h h0
  revert hn
  revert n
  decide

/-- The digit of a row is the only one. -/
theorem eq_rowDigit {c : Char} {row : Int} (h : rowOf? c = some row) :
    c = Position.rowDigit row := by
  have bounds := rowOf?_bounds h
  unfold rowOf? at h
  split at h
  · rename_i leading
    have digit : c.isDigit = true := (Bool.and_eq_true_iff.mp leading).1
    have same : ((c.toNat : Int) - 49).toNat + 1 = c.toNat - 48 := by
      cases h
      omega
    cases h
    rw [Position.rowDigit, same, digitChar_of_isDigit digit]
  · cases h

/-- **A letter and a row digit give one lexeme.** -/
theorem scan_reference_append (h : Referable p) (rest : Text) :
    scan (ofChars [Position.letterOf p.column, Position.rowDigit p.row] ++ rest) =
      .reference p :: scan rest := by
  have column := Position.columnOf?_letterOf h.1.1 h.1.2
  have row := rowOf?_rowDigit h.2.1 h.2.2
  show scan (.char (Position.letterOf p.column) :: .char (Position.rowDigit p.row) :: rest) = _
  rw [scan_letter_cons column, List.head?_cons, List.tail_cons, Lexeme.ofColumn]
  simp only [Option.bind_some, CodePoint.char?, row]

/-- The lexeme of a letter is a reference only when a row digit follows. -/
theorem ofColumn_of_ne_other {column : Int} {next : Option CodePoint}
    (h : Lexeme.ofColumn column next ≠ .other) :
    ∃ row, next = some (.char (Position.rowDigit row)) ∧ 0 ≤ row ∧ row < 9 ∧
      Lexeme.ofColumn column next = .reference ⟨column, row⟩ := by
  cases found : (next.bind CodePoint.char?).bind rowOf? with
  | none =>
    exfalso
    apply h
    rw [Lexeme.ofColumn, found]
  | some row =>
    obtain ⟨c, char, digit⟩ := Option.bind_eq_some_iff.mp found
    obtain ⟨point, here, char⟩ := Option.bind_eq_some_iff.mp char
    have same := CodePoint.char?_eq_some_iff.mp char
    obtain ⟨above, below⟩ := rowOf?_bounds digit
    refine ⟨row, ?_, above, below, by rw [Lexeme.ofColumn, found]⟩
    rw [here, same, eq_rowDigit digit]

/-! ## 3. What is written is read -/

/-- A written token does not begin with a digit unless it is a number. -/
theorem beginsWith_digit_spelled (range : token.InRange) (spelled : token.SpelledBy run)
    (other : token.isNumber = false) (rest : Text) :
    beginsWith Char.isDigit (ofChars run ++ rest) = false := by
  match token, spelled with
  | .operand (.number n), _ => cases other
  | .operand (.cell p), spelled =>
    obtain rfl : run = [_, _] := spelled
    have column := Position.columnOf?_letterOf range.1.1 range.1.2
    exact isDigit_of_columnOf? column
  | .operator o, spelled =>
    obtain rfl : run = [o.symbol] := spelled
    cases o <;> rfl
  | .invalid, spelled => exact spelled.elim

/-- A written number does. -/
theorem beginsWith_digit_spelled_number (spelled : token.SpelledBy run)
    (number : token.isNumber = true) (rest : Text) :
    beginsWith Char.isDigit (ofChars run ++ rest) = true := by
  match token, spelled, number with
  | .operand (.number n), spelled, _ =>
    obtain ⟨some, digits, -⟩ := spelled
    cases run with
    | nil => exact absurd rfl some
    | cons c run => exact digits c List.mem_cons_self

/-- **What is written behind a number does not begin with a digit.** -/
theorem Written.beginsWith_digit (range : ∀ token ∈ ts, token.InRange) (h : Written true ts t) :
    beginsWith Char.isDigit t = false := by
  cases h with
  | blank blank =>
    cases t with
    | nil => rfl
    | cons p gap => exact isDigit_eq_false_of_isBlank blank.of_cons.1
  | @token _ gap token run ts rest blank apart spelled later =>
    cases gap with
    | nil =>
      have other : token.isNumber = false := Bool.eq_false_iff.mpr fun number => apart rfl number rfl
      exact beginsWith_digit_spelled (range token List.mem_cons_self) spelled other rest
    | cons p gap => exact isDigit_eq_false_of_isBlank blank.of_cons.1

/-- **A written token gives one lexeme,** and the lexeme the token. -/
theorem scan_spelled (range : token.InRange) (spelled : token.SpelledBy run)
    (short : token.isNumber = true → run.length ≤ digitLimit)
    (stop : token.isNumber = true → beginsWith Char.isDigit rest = false) :
    ∃ lexeme, scan (ofChars run ++ rest) = lexeme :: scan rest ∧ lexeme.token = .ok token := by
  match token, range, spelled with
  | .operand (.number n), range, spelled =>
    obtain ⟨some, digits, value⟩ := spelled
    refine ⟨.digits run, scan_digits_append some digits (stop rfl), ?_⟩
    have fits : (digitsValue run : Int) ≤ int64Max := value ▸ range.2
    rw [token_of_digits (short rfl), if_pos fits, value]
  | .operand (.cell p), range, spelled =>
    obtain rfl : run = [_, _] := spelled
    exact ⟨.reference p, scan_reference_append range rest, rfl⟩
  | .operator o, _, spelled =>
    obtain rfl : run = [o.symbol] := spelled
    exact ⟨.operator o, scan_operator_cons o rest, rfl⟩
  | .invalid, _, spelled => exact spelled.elim

/-- The token of a run of digits is the number that they spell, unless it is out of range. -/
theorem spelled_of_digits (some : run ≠ []) (digits : ∀ c ∈ run, c.isDigit = true)
    (h : (Lexeme.digits run).token = .ok token) (valid : .invalid ≠ token) :
    token.InRange ∧ token.SpelledBy run := by
  cases read : readDigits run with
  | error fault =>
    rw [Lexeme.token, read] at h
    cases h
  | ok n =>
    obtain ⟨short, -⟩ := readDigits_eq_ok_iff.mp read
    rw [token_of_digits short] at h
    split at h
    · rename_i fits
      cases h
      exact ⟨⟨Int.natCast_nonneg _, fits⟩, some, digits, rfl⟩
    · cases h
      exact absurd rfl valid

/-- The digits of a number that is written in a text of short runs are short. -/
theorem length_le_of_spelled (spelled : token.SpelledBy run) (short : ShortRuns t)
    (part : ofChars run <:+: t) (number : token.isNumber = true) : run.length ≤ digitLimit := by
  match token, spelled, number with
  | .operand (.number n), spelled, _ => exact short run spelled.2.1 part

/-- **What is written is read back,** by induction on the writing. -/
theorem tokens_of_written {afterNumber : Bool} (h : Written afterNumber ts t)
    (range : ∀ token ∈ ts, token.InRange) (short : ShortRuns t) : tokens t none = .ok ts := by
  induction h with
  | @blank _ gap blank =>
    have none : scan gap = [] := by
      have behind := scan_append_of_blank blank []
      rwa [List.append_nil, scan_nil] at behind
    show (scan gap).mapM Lexeme.token = .ok []
    rw [none]
    rfl
  | @token _ gap token run ts rest blank apart spelled later ih =>
    obtain ⟨here, there⟩ := List.forall_mem_cons.mp range
    have written : ofChars run <:+: gap ++ ofChars run ++ rest := ⟨gap, rest, rfl⟩
    have behind : rest <:+: gap ++ ofChars run ++ rest := (List.suffix_append _ _).isInfix
    have stop : token.isNumber = true → beginsWith Char.isDigit rest = false := fun number =>
      Written.beginsWith_digit there (number ▸ later)
    obtain ⟨lexeme, first, means⟩ :=
      scan_spelled here spelled (length_le_of_spelled spelled short written) stop
    have rest_read : (scan rest).mapM Lexeme.token = .ok ts := ih there (short.of_infix behind)
    show (scan (gap ++ ofChars run ++ rest)).mapM Lexeme.token = .ok (token :: ts)
    rw [List.append_assoc, scan_append_of_blank blank, first]
    exact mapM_token_cons_eq_ok_iff.mpr ⟨token, ts, means, rest_read, rfl⟩

/-! ## 4. What is read is written -/

/-- A blank in front of a writing keeps it apart from anything before. -/
theorem Written.cons_blank {point : CodePoint} (blank : point.has isBlank = true)
    {before afterNumber : Bool} (h : Written before ts rest) :
    Written afterNumber ts (point :: rest) := by
  cases h with
  | blank all => exact .blank (List.forall_mem_cons.mpr ⟨blank, all⟩)
  | @token _ gap token run ts rest all apart spelled later =>
    have wider : Blank (point :: gap) := List.forall_mem_cons.mpr ⟨blank, all⟩
    exact .token wider (fun _ _ => List.cons_ne_nil _ _) spelled later

/-- The text is a writing of the tokens, and stays one behind a number unless it begins with a
    digit. -/
structure Reading (ts : List Token) (t : Text) : Prop where
  range : ∀ token ∈ ts, token.InRange
  written : ∀ afterNumber : Bool, (afterNumber = true → beginsWith Char.isDigit t = false) →
    Written afterNumber ts t

namespace Reading

theorem nil : Reading [] [] where
  range := fun _ member => absurd member List.not_mem_nil
  written := fun _ _ => .blank fun _ member => absurd member List.not_mem_nil

theorem cons_blank {point : CodePoint} (blank : point.has isBlank = true) (h : Reading ts rest) :
    Reading ts (point :: rest) where
  range := h.range
  written := fun _ _ => (h.written false Bool.noConfusion).cons_blank blank

/-- A number takes all digits along; what is no number may stand behind one. -/
theorem cons_spelled (range : token.InRange) (spelled : token.SpelledBy run)
    (stop : token.isNumber = true → beginsWith Char.isDigit rest = false) (h : Reading ts rest) :
    Reading (token :: ts) (ofChars run ++ rest) where
  range := List.forall_mem_cons.mpr ⟨range, h.range⟩
  written := by
    intro afterNumber free
    have none : Blank [] := fun _ member => absurd member List.not_mem_nil
    show Written afterNumber (token :: ts) ([] ++ ofChars run ++ rest)
    refine .token none (fun after number => ?_) spelled (h.written _ stop)
    have digit := beginsWith_digit_spelled_number spelled number rest
    rw [free after] at digit
    cases digit

end Reading

/-- **A text without invalid tokens is a writing of its tokens,** by induction on the scan. -/
theorem reading_of_tokens (h : tokens t none = .ok ts) (valid : Token.invalid ∉ ts) :
    Reading ts t := by
  replace h : (scan t).mapM Lexeme.token = .ok ts := h
  fun_induction scan t generalizing ts with
  | case1 =>
    cases h
    exact .nil
  | case2 point rest blank ih => exact (ih valid h).cons_blank blank
  | case3 point rest _ digit ih =>
    obtain ⟨token, later, here, there, rfl⟩ := mapM_token_cons_eq_ok_iff.mp h
    rw [List.mem_cons, not_or] at valid
    have behind := ih valid.2 there
    have whole := map_leadingDigits_append (point :: rest)
    rw [List.dropWhile_cons_of_pos digit] at whole
    have some : leadingDigits (point :: rest) ≠ [] := leadingDigits_ne_nil digit
    obtain ⟨range, spelled⟩ :=
      spelled_of_digits some (fun c hc => isDigit_of_mem_leadingDigits hc) here valid.1
    have stop := beginsWith_dropWhile Char.isDigit rest
    rw [← whole]
    exact behind.cons_spelled range spelled fun _ => stop
  | case4 point rest _ _ o found ih =>
    obtain ⟨token, later, here, there, rfl⟩ := mapM_token_cons_eq_ok_iff.mp h
    rw [List.mem_cons, not_or] at valid
    have behind := ih valid.2 there
    obtain ⟨c, char, symbol⟩ := Option.bind_eq_some_iff.mp found
    have same := CodePoint.char?_eq_some_iff.mp char
    have range : (Token.operator o).InRange := trivial
    cases here
    rw [same, Operator.ofSymbol?_eq_some_iff.mp symbol]
    exact behind.cons_spelled range rfl Bool.noConfusion
  | case5 point rest _ _ _ column found ih =>
    obtain ⟨token, later, here, there, rfl⟩ := mapM_token_cons_eq_ok_iff.mp h
    rw [List.mem_cons, not_or] at valid
    have behind := ih valid.2 there
    obtain ⟨c, char, letter⟩ := Option.bind_eq_some_iff.mp found
    have same := CodePoint.char?_eq_some_iff.mp char
    have valid_lexeme : Lexeme.ofColumn column rest.head? ≠ .other := fun other => by
      rw [other] at here
      cases here
      exact valid.1 rfl
    obtain ⟨row, next, above, below, reference⟩ := ofColumn_of_ne_other valid_lexeme
    rw [reference] at here
    cases here
    have range : (Token.operand (.cell ⟨column, row⟩)).InRange :=
      ⟨columnOf?_bounds letter, above, below⟩
    obtain ⟨rest, rfl⟩ := List.head?_eq_some_iff.mp next
    rw [same, eq_letterOf letter]
    exact behind.cons_spelled range rfl Bool.noConfusion
  | case6 point rest _ _ _ _ ih =>
    obtain ⟨token, later, here, there, rfl⟩ := mapM_token_cons_eq_ok_iff.mp h
    cases here
    exact absurd List.mem_cons_self valid

/-! ## 5. Reading and writing -/

/-- **A number may stand right behind a reference,** whose row has one digit only. -/
theorem tokens_reference_number {n : Int} (reference : (Token.operand (.cell p)).InRange)
    (number : (Token.operand (.number n)).InRange)
    (spelled : (Token.operand (.number n)).SpelledBy run) (short : run.length ≤ digitLimit) :
    tokens (ofChars (Position.letterOf p.column :: Position.rowDigit p.row :: run)) none =
      .ok [.operand (.cell p), .operand (.number n)] := by
  have stop : (Token.operand (.number n)).isNumber = true → beginsWith Char.isDigit [] = false :=
    fun _ => rfl
  obtain ⟨lexeme, second, means⟩ := scan_spelled number spelled (fun _ => short) stop
  rw [List.append_nil, scan_nil] at second
  have lexemes := scan_reference_append reference (ofChars run)
  rw [second] at lexemes
  show (scan (ofChars [Position.letterOf p.column, Position.rowDigit p.row] ++
    ofChars run)).mapM Lexeme.token = .ok [.operand (.cell p), .operand (.number n)]
  rw [lexemes]
  have nothing : ([] : List Lexeme).mapM Lexeme.token = .ok [] := rfl
  have last := mapM_token_cons_eq_ok_iff.mpr ⟨_, [], means, nothing, rfl⟩
  exact mapM_token_cons_eq_ok_iff.mpr ⟨_, _, rfl, last, rfl⟩

/-- **The tokens of a text are those it is a writing of.** For a text without invalid tokens and
    without too long runs of digits, being read as the tokens is being a writing of them, with
    numbers and references in range. A number needs no blank behind a reference. A formula compiles
    exactly when what stands behind its marker is such a writing. -/
theorem tokens_iff_written {text : Text} (short : ShortRuns text) :
    (∀ ts : List Token, Token.invalid ∉ ts →
      (tokens text none = .ok ts ↔ (∀ token ∈ ts, token.InRange) ∧ Written false ts text)) ∧
    (∀ (p : Position) (n : Int) (run : List Char),
      (Token.operand (.cell p)).InRange → (Token.operand (.number n)).InRange →
      (Token.operand (.number n)).SpelledBy run → run.length ≤ digitLimit →
      tokens (ofChars (Position.letterOf p.column :: Position.rowDigit p.row :: run)) none =
        .ok [.operand (.cell p), .operand (.number n)]) ∧
    ∃ e, Expression.compile (formulaMarker :: text) = .ok e ∧
      (e.program.isSome ↔ ∃ ts : List Token, Token.invalid ∉ ts ∧
        (∀ token ∈ ts, token.InRange) ∧ Written false ts text) := by
  have read_iff : ∀ ts : List Token, Token.invalid ∉ ts →
      (tokens text none = .ok ts ↔ (∀ token ∈ ts, token.InRange) ∧ Written false ts text) := by
    intro ts valid
    constructor
    · intro read
      have reading := reading_of_tokens read valid
      exact ⟨reading.range, reading.written false Bool.noConfusion⟩
    · rintro ⟨range, written⟩
      exact tokens_of_written written range short
  refine ⟨read_iff, fun p n run reference number => tokens_reference_number reference number, ?_⟩
  obtain ⟨ts, read⟩ := tokens_of_short short
  obtain ⟨e, compiled, program⟩ := compile_of_tokens read
  refine ⟨e, compiled, program.trans ?_⟩
  constructor
  · intro valid
    exact ⟨ts, valid, (read_iff ts valid).mp read⟩
  · rintro ⟨ts', valid, written⟩
    have again := (read_iff ts' valid).mpr written
    rw [read] at again
    cases again
    exact valid

/-- Two numbers that a blank keeps apart, one of them behind a reference and one with zeros in
    front. -/
theorem tokens_iff_written_zeros :
    let text := ofChars ['A', '1', '2', ' ', '0', '0', '7']
    let ts : List Token := [.operand (.cell ⟨0, 0⟩), .operand (.number 2), .operand (.number 7)]
    (ShortRuns text ∧ Token.invalid ∉ ts ∧ tokens text none = .ok ts) ∧ Written false ts text ∧
      ∃ e, Expression.compile (formulaMarker :: text) = .ok e ∧ e.program.isSome := by
  intro text ts
  have short : ShortRuns text := shortRuns_of_length (by decide)
  have valid : Token.invalid ∉ ts := by decide
  have lexemes : scan text = [.reference ⟨0, 0⟩, .digits ['2'], .digits ['0', '0', '7']] := by
    decide +kernel
  have read : tokens text none = .ok ts := by
    show (scan text).mapM Lexeme.token = .ok ts
    rw [lexemes]
    rfl
  obtain ⟨read_iff, -, e, compiled, program⟩ := tokens_iff_written short
  have written := (read_iff ts valid).mp read
  exact ⟨⟨short, valid, read⟩, written.2, e, compiled, program.mpr ⟨ts, valid, written⟩⟩

end Spreadsheet
