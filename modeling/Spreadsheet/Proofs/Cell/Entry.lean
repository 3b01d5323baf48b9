import Spreadsheet.Cell.Entry
import Spreadsheet.Proofs.Text.Decimal

/-!
# Entering a cell again

A cell tells the text that enters it again (`Cell.told?`). A cell that a text entered always has one,
since a 64-bit number is far from the digit limit (`Cell.told?_of_ofEntry`), and comes back to the
same cell (`Cell.ofEntry_entry`): the text is the very one that was entered, unless a number was; of
that the sign and the zeros in front may be lost, but a 64-bit number is read from its decimal form
(`Cell.ofEntry_decimal`).

A sheet evaluates the formulas that it stores, so a stored cell comes back as its contents only; it
is `Enterable` if it does.
-/

namespace Spreadsheet

/-! ## 1. Numbers -/

namespace Text

theorem splitSign_of_digit {c : Char} (h : c.isDigit = true) (rest : Text) :
    splitSign (.char c :: rest) = (false, .char c :: rest) := by
  have minus : c ≠ '-' := by
    rintro rfl
    cases h
  have plus : c ≠ '+' := by
    rintro rfl
    cases h
  unfold splitSign
  split
  · rename_i same
    cases same
    exact absurd rfl minus
  · rename_i same
    cases same
    exact absurd rfl plus
  · rfl

/-- A number is written with a digit in front. -/
theorem decimalDigits_eq_cons (n : Nat) :
    ∃ c run, decimalDigits n = c :: run ∧ c.isDigit = true := by
  obtain ⟨c, run, digits⟩ := List.exists_cons_of_ne_nil (decimalDigits_ne_nil n)
  have member : c ∈ decimalDigits n := digits ▸ List.mem_cons_self
  exact ⟨c, run, digits, isDigit_of_mem_decimalDigits member⟩

theorem splitSign_digits (n : Nat) :
    splitSign (ofChars (decimalDigits n)) = (false, ofChars (decimalDigits n)) := by
  obtain ⟨c, run, digits, digit⟩ := decimalDigits_eq_cons n
  rw [digits, ofChars_cons]
  exact splitSign_of_digit digit _

/-- **The decimal form of a number spells it.** -/
theorem spelledInteger?_decimal (n : Int) :
    spelledInteger? (ofString (decimal n)) = some (decide (n < 0), decimalDigits n.natAbs) := by
  have digits (m : Nat) : decimalDigits m ≠ [] ∧ (decimalDigits m).all Char.isDigit = true :=
    ⟨decimalDigits_ne_nil m, List.all_eq_true.mpr fun _ hc => isDigit_of_mem_decimalDigits hc⟩
  cases n with
  | ofNat m =>
    have sign : decide (Int.ofNat m < 0) = false := by simp
    have size : (Int.ofNat m).natAbs = m := rfl
    simp only [ofString, decimal, String.toList_ofList, spelledInteger?, splitSign_digits,
      chars?_ofChars, Option.bind_some, if_pos (digits m), sign, size]
  | negSucc m =>
    have sign : decide (Int.negSucc m < 0) = true := by simp
    simp only [ofString, decimal, String.toList_ofList, ofChars_cons, spelledInteger?, splitSign,
      chars?_ofChars, Option.bind_some, if_pos (digits (m + 1)), sign, Int.natAbs_negSucc]

theorem signed_natAbs (n : Int) : signed (decide (n < 0)) n.natAbs = n := by
  unfold signed
  split
  · rename_i negative
    have := of_decide_eq_true negative
    omega
  · rename_i positive
    have := mt decide_eq_true positive
    omega

/-- **A number of 64 bits is short enough to be written:** it has nineteen digits at most. -/
theorem isWritable_of_fits {n : Int} (fits : fitsInt64 n = true) : isWritable n = true := by
  have bounds := fitsInt64_iff.mp fits
  unfold int64Min int64Max at bounds
  have short : n.natAbs < 10 ^ 19 := by omega
  have length : (decimalDigits n.natAbs).length ≤ 19 :=
    (length_decimalDigits_le_iff (by decide)).mpr short
  exact decide_eq_true (Nat.le_trans length (by decide))

/-- It is short enough to be read as well. -/
theorem readDigits_of_fits {n : Int} (fits : fitsInt64 n = true) :
    readDigits (decimalDigits n.natAbs) = .ok n.natAbs :=
  readDigits_eq_ok_iff.mpr
    ⟨of_decide_eq_true (isWritable_of_fits fits), digitsValue_decimalDigits _⟩

end Text

namespace Cell

open Spreadsheet.Text

variable {text : Text} {c : Cell} {n : Int}

theorem ofPlainEntry_decimal (fits : fitsInt64 n = true) :
    ofPlainEntry (ofString (decimal n)) = .ok (.number n) := by
  have ne : ofString (decimal n) ≠ [] := by
    intro empty
    have spelled := spelledInteger?_decimal n
    rw [empty] at spelled
    cases spelled
  unfold ofPlainEntry
  simp only [if_neg ne, spelledInteger?_decimal, readDigits_of_fits fits, signed_natAbs, Except.map,
    fits, if_true]

theorem hasMarker_decimal (n : Int) : hasMarker (ofString (decimal n)) = false := by
  cases n with
  | ofNat m =>
    obtain ⟨c, run, digits, digit⟩ := decimalDigits_eq_cons m
    have other : c ≠ '=' := by
      rintro rfl
      cases digit
    simp [hasMarker, formulaMarker, ofString, decimal, digits, other]
  | negSucc m => simp [hasMarker, formulaMarker, ofString, decimal]

/-- **The decimal form of a 64-bit number enters that number.** -/
theorem ofEntry_decimal (fits : fitsInt64 n = true) :
    ofEntry (ofString (decimal n)) = .ok (.number n) := by
  unfold ofEntry
  rw [hasMarker_decimal]
  exact ofPlainEntry_decimal fits

/-! ## 2. Cells -/

/-- What a text without the formula marker can enter. -/
theorem ofPlainEntry_cases (ok : ofPlainEntry text = .ok c) :
    (text = [] ∧ c = .empty) ∨ c = .text text ∨ ∃ n, fitsInt64 n = true ∧ c = .number n := by
  unfold ofPlainEntry at ok
  split at ok
  · rename_i nothing
    cases ok
    exact .inl ⟨nothing, rfl⟩
  · split at ok
    · cases ok
      exact .inr (.inl rfl)
    · rename_i negative run _
      cases read : readDigits run with
      | ok m =>
        simp only [read, Except.map, Except.ok.injEq] at ok
        split at ok
        · rename_i fits
          exact .inr (.inr ⟨_, fits, ok.symm⟩)
        · exact .inr (.inl ok.symm)
      | error fault =>
        rw [read] at ok
        cases ok

/-- **What a text can enter.** -/
theorem ofEntry_cases (ok : ofEntry text = .ok c) :
    (∃ e, Expression.compile text = .ok e ∧ c = .unevaluated e) ∨ (text = [] ∧ c = .empty) ∨
      c = .text text ∨ ∃ n, fitsInt64 n = true ∧ c = .number n := by
  unfold ofEntry at ok
  split at ok
  · cases compiled : Expression.compile text with
    | ok e =>
      rw [compiled] at ok
      cases ok
      exact .inl ⟨e, rfl, rfl⟩
    | error fault =>
      rw [compiled] at ok
      cases ok
  · exact .inr (ofPlainEntry_cases ok)

/-- **A cell tells the text that entered it,** unless it is a number. -/
theorem entry_of_ofEntry (ok : ofEntry text = .ok c) :
    c.entry = text ∨ ∃ n, fitsInt64 n = true ∧ c = .number n := by
  rcases ofEntry_cases ok with ⟨e, compiled, rfl⟩ | ⟨rfl, rfl⟩ | rfl | number
  · exact .inl (Expression.text_of_compile compiled)
  · exact .inl rfl
  · exact .inl rfl
  · exact .inr number

theorem told?_number (fits : fitsInt64 n = true) : (number n).told? = some (number n).entry :=
  if_pos (isWritable_of_fits fits)

/-- **A cell that a text entered tells a text.** -/
theorem told?_of_ofEntry (ok : ofEntry text = .ok c) : c.told? = some c.entry := by
  rcases ofEntry_cases ok with ⟨e, -, rfl⟩ | ⟨-, rfl⟩ | rfl | ⟨n, fits, rfl⟩
  · rfl
  · rfl
  · rfl
  · exact told?_number fits

/-- **A cell that a text entered is entered again by the text that it tells.** -/
theorem ofEntry_entry (ok : ofEntry text = .ok c) : ofEntry c.entry = .ok c := by
  rcases entry_of_ofEntry ok with same | ⟨n, fits, rfl⟩
  · rw [same]
    exact ok
  · exact ofEntry_decimal fits

end Cell

end Spreadsheet
