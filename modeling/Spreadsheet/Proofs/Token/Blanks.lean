import Spreadsheet.Proofs.Token.Scanning

/-!
# Blanks cut a text

Blanks end whatever stands in front of them, so a text with a gap in it is scanned on both sides of the
gap apart from each other (`scan_append_blank`). This holds for every text. A run of digits ends at the
gap. A letter right in front of it takes the first blank along, where at the end of a text it would
have found nothing to take; neither is a row digit, so the letter is invalid both times
(`ofColumn_of_blank`), and the blanks that are left give no lexeme.

Nothing in this depends on how many blanks there are, and blanks at the two ends of a text are gaps with
nothing on one side (`scan_surrounded`). `tokens_split_at_blank` says both for tokens.
-/

namespace Spreadsheet

open Spreadsheet.Text

variable {p : CodePoint} {t u v gap gap' lead trail : Text}

/-! ## 1. What stands in front of a gap -/

/-- A run of digits ends at a gap. -/
theorem Text.beginsWith_digit_append_blank (blank : Blank gap) (nonempty : gap ≠ [])
    (stop : beginsWith Char.isDigit u = false) (v : Text) :
    beginsWith Char.isDigit (u ++ gap ++ v) = false := by
  cases u with
  | cons p u => exact stop
  | nil =>
    obtain ⟨p, gap, rfl⟩ := List.exists_cons_of_ne_nil nonempty
    exact isDigit_eq_false_of_isBlank blank.of_cons.1

/-- **A letter in front of a blank is invalid,** as it is at the end of a text. -/
theorem ofColumn_of_blank (blank : p.has isBlank = true) (column : Int) :
    Lexeme.ofColumn column (some p) = Lexeme.ofColumn column none := by
  have none : (p.char?).bind rowOf? = none := by
    cases p with
    | surrogate half => rfl
    | char c =>
      have digit : c.isDigit = false := isDigit_eq_false_of_isBlank blank
      simp [CodePoint.char?, rowOf?, Position.isLeadingDigit, digit]
  rw [Lexeme.ofColumn, Option.bind_some, none]
  rfl

/-- **A code point without meaning gives one lexeme.** -/
theorem scan_other_cons (blank : ¬ p.has isBlank = true) (digit : ¬ p.has Char.isDigit = true)
    (operator : p.char?.bind Operator.ofSymbol? = none)
    (letter : p.char?.bind Position.columnOf? = none) (rest : Text) :
    scan (p :: rest) = .other :: scan rest := by
  rw [scan, if_neg blank, if_neg digit]
  simp only [operator, letter]

/-! ## 2. Both sides of a gap -/

/-- **A text with a gap in it gives the lexemes of its two sides,** by induction on the scan of the
    first one. -/
theorem scan_append_blank (blank : Blank gap) (nonempty : gap ≠ []) (u v : Text) :
    scan (u ++ gap ++ v) = scan u ++ scan v := by
  fun_induction scan u with
  | case1 => exact scan_append_of_blank blank v
  | case2 p rest here ih =>
    rw [List.cons_append, List.cons_append, scan_cons_of_blank here, ih]
  | case3 p rest _ digit ih =>
    have whole := map_leadingDigits_append (p :: rest)
    rw [List.dropWhile_cons_of_pos digit] at whole
    have stop := beginsWith_digit_append_blank blank nonempty
      (beginsWith_dropWhile Char.isDigit rest) v
    have some : leadingDigits (p :: rest) ≠ [] := leadingDigits_ne_nil digit
    have first := scan_digits_append some
      (fun c hc => isDigit_of_mem_leadingDigits hc) stop
    rw [← List.append_assoc, ← List.append_assoc, whole, ih] at first
    exact first
  | case4 p rest _ _ o found ih =>
    obtain ⟨c, char, symbol⟩ := Option.bind_eq_some_iff.mp found
    rw [CodePoint.char?_eq_some_iff.mp char, Operator.ofSymbol?_eq_some_iff.mp symbol,
      List.cons_append, List.cons_append, scan_operator_cons, ih, List.cons_append]
  | case5 p rest _ _ _ column found ih =>
    obtain ⟨c, char, letter⟩ := Option.bind_eq_some_iff.mp found
    rw [CodePoint.char?_eq_some_iff.mp char, List.cons_append, List.cons_append,
      scan_letter_cons letter]
    cases rest with
    | cons q rest =>
      show Lexeme.ofColumn column (some q) :: scan (rest ++ gap ++ v) =
        Lexeme.ofColumn column (some q) :: (scan rest ++ scan v)
      exact congrArg _ ih
    | nil =>
      -- the letter takes the first blank of the gap along
      obtain ⟨q, gap, rfl⟩ := List.exists_cons_of_ne_nil nonempty
      obtain ⟨here, behind⟩ := blank.of_cons
      show Lexeme.ofColumn column (some q) :: scan (gap ++ v) =
        Lexeme.ofColumn column none :: (scan [] ++ scan v)
      rw [ofColumn_of_blank here, scan_append_of_blank behind, scan_nil, List.nil_append]
  | case6 p rest noBlank noDigit noOperator noLetter ih =>
    rw [List.cons_append, List.cons_append, scan_other_cons noBlank noDigit noOperator noLetter, ih]
    rfl

/-- **Blanks at the two ends of a text give nothing.** -/
theorem scan_surrounded (blank : Blank lead) (blank' : Blank trail) (t : Text) :
    scan (lead ++ t ++ trail) = scan t := by
  rw [List.append_assoc, scan_append_of_blank blank]
  by_cases nonempty : trail = []
  · rw [nonempty, List.append_nil]
  · have behind := scan_append_blank blank' nonempty t []
    rwa [List.append_nil, scan_nil, List.append_nil] at behind

/-! ## 3. Tokens -/

/-- Where there is a gap, its length makes no difference. -/
theorem tokens_of_other_gap (blank : Blank gap) (nonempty : gap ≠ []) (blank' : Blank gap')
    (nonempty' : gap' ≠ []) (u v : Text) (limit : Option Nat) :
    tokens (u ++ gap ++ v) limit = tokens (u ++ gap' ++ v) limit := by
  rw [tokens, tokens, scan_append_blank blank nonempty, scan_append_blank blank' nonempty']

/-- Nor do blanks at the two ends. -/
theorem tokens_surrounded (blank : Blank lead) (blank' : Blank trail) (t : Text)
    (limit : Option Nat) : tokens (lead ++ t ++ trail) limit = tokens t limit := by
  rw [tokens, tokens, scan_surrounded blank blank']

/-- **The tokens on both sides of a gap, one after the other.** A text with a gap in it has the tokens
    of what stands in front of the gap and then of what stands behind it, valid or not. Another gap in
    its place makes no difference, however many tokens are taken, nor do blanks at the two ends. -/
theorem tokens_split_at_blank (u v : Text) :
    (ShortRuns u → ShortRuns v → ∃ ts ts', tokens u none = .ok ts ∧ tokens v none = .ok ts' ∧
      ∀ gap, Blank gap → gap ≠ [] → tokens (u ++ gap ++ v) none = .ok (ts ++ ts')) ∧
    (∀ gap gap' limit, Blank gap → gap ≠ [] → Blank gap' → gap' ≠ [] →
      tokens (u ++ gap ++ v) limit = tokens (u ++ gap' ++ v) limit) ∧
    ∀ lead trail limit, Blank lead → Blank trail →
      tokens (lead ++ u ++ trail) limit = tokens u limit := by
  refine ⟨fun short short' => ?_, ?_, ?_⟩
  · obtain ⟨ts, first⟩ := tokens_of_short short
    obtain ⟨ts', second⟩ := tokens_of_short short'
    refine ⟨ts, ts', first, second, fun gap blank nonempty => ?_⟩
    replace first : (scan u).mapM Lexeme.token = .ok ts := first
    replace second : (scan v).mapM Lexeme.token = .ok ts' := second
    show (scan (u ++ gap ++ v)).mapM Lexeme.token = .ok (ts ++ ts')
    rw [scan_append_blank blank nonempty, List.mapM_append, first, second]
    rfl
  · exact fun gap gap' limit blank nonempty blank' nonempty' =>
      tokens_of_other_gap blank nonempty blank' nonempty' u v limit
  · exact fun lead trail limit blank blank' => tokens_surrounded blank blank' u limit

/-- The general statement at `7A` and `1`: side by side they are a number and a reference, and with a
    gap between them the letter is invalid, whether the gap is a space or a tab and a space. -/
theorem tokens_split_at_blank_letter :
    let u := ofString "7A"
    let v := ofString "1"
    tokens (u ++ v) none = .ok [.operand (.number 7), .operand (.cell ⟨0, 0⟩)] ∧
    tokens (u ++ ofString " " ++ v) none =
      .ok [.operand (.number 7), .invalid, .operand (.number 1)] ∧
    tokens (u ++ ofString "\t " ++ v) (some 2) = tokens (u ++ ofString " " ++ v) (some 2) ∧
    tokens (ofString " " ++ u ++ ofString "\t ") none = tokens u none := by
  intro u v
  have side : scan (u ++ v) = [.digits ['7'], .reference ⟨0, 0⟩] := by decide +kernel
  have left : scan u = [.digits ['7'], .other] := by decide +kernel
  have right : scan v = [.digits ['1']] := by decide +kernel
  have space : Blank (ofString " ") := by decide
  have wide : Blank (ofString "\t ") := by decide
  obtain ⟨split, other, ends⟩ := tokens_split_at_blank u v
  obtain ⟨ts, ts', first, second, both⟩ :=
    split (shortRuns_of_length (by decide)) (shortRuns_of_length (by decide))
  rw [tokens, left] at first
  rw [tokens, right] at second
  cases first
  cases second
  refine ⟨?_, both _ space (by decide), other _ _ _ wide (by decide) space (by decide), ?_⟩
  · rw [tokens, side]
    rfl
  · exact ends _ _ _ space wide

end Spreadsheet
