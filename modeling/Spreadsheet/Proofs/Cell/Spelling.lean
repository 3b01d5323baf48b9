import Spreadsheet.Proofs.Cell.Entry
import Spreadsheet.Sheet.Insert

/-!
# Spelled numbers

Of all texts only those that spell a 64-bit number enter something that does not keep them: a sign and
zeros in front are lost, and texts that spell one number enter one cell. Every other text is kept, so
the cell tells which one it was.

* `Spells`: what it means that a text spells an integer; the decimal form of a number spells it
  (`spells_decimal`).
* `ofEntry_eq_number_iff`: the numbers that texts enter are the ones of 64 bits that they spell.
* `eq_iff_of_ofEntry`: when two texts enter equal cells.
* `set_decimal`: a sheet does not tell a number from its decimal form.
* `ofEntry_exact` puts them together.
-/

namespace Spreadsheet

/-! ## 1. Spellings -/

namespace Text

variable {t : Text} {n : Int} {negative : Bool} {run : List Char}

/-- The text spells the integer: a sign, which may be missing, and ASCII digits, of which there may be
    more than are needed. -/
inductive Spells : Text → Int → Prop
  | plain {run : List Char} (nonempty : run ≠ []) (digits : ∀ c ∈ run, c.isDigit = true) :
      Spells (ofChars run) (digitsValue run)
  | plus {run : List Char} (nonempty : run ≠ []) (digits : ∀ c ∈ run, c.isDigit = true) :
      Spells (.char '+' :: ofChars run) (digitsValue run)
  | minus {run : List Char} (nonempty : run ≠ []) (digits : ∀ c ∈ run, c.isDigit = true) :
      Spells (.char '-' :: ofChars run) (-digitsValue run)

/-- The text spells an integer of 64 bits. -/
def SpellsInt64 (t : Text) (n : Int) : Prop := Spells t n ∧ -2 ^ 63 ≤ n ∧ n ≤ 2 ^ 63 - 1

theorem spellsInt64_iff : SpellsInt64 t n ↔ Spells t n ∧ fitsInt64 n = true := by
  have least : int64Min = -2 ^ 63 := by decide
  have greatest : int64Max = 2 ^ 63 - 1 := by decide
  rw [SpellsInt64, fitsInt64_iff, least, greatest]

theorem spelledInteger?_eq_some_iff :
    spelledInteger? t = some (negative, run) ↔
      splitSign t = (negative, ofChars run) ∧ run ≠ [] ∧ ∀ c ∈ run, c.isDigit = true := by
  cases split : splitSign t
  simp only [spelledInteger?, split, Option.bind_eq_some_iff, chars?_eq_some_iff,
    Option.ite_none_right_eq_some, Option.some.injEq, Prod.mk.injEq, List.all_eq_true]
  constructor
  · rintro ⟨run, rfl, ⟨nonempty, digits⟩, rfl, rfl⟩
    exact ⟨⟨rfl, rfl⟩, nonempty, digits⟩
  · rintro ⟨⟨rfl, rfl⟩, nonempty, digits⟩
    exact ⟨run, rfl, ⟨nonempty, digits⟩, rfl, rfl⟩

/-- The sign in front of a text is one of the two characters, or there is none. -/
theorem eq_of_splitSign {rest : Text} (h : splitSign t = (negative, rest)) :
    (negative = false ∧ t = rest) ∨ (negative = false ∧ t = .char '+' :: rest) ∨
      (negative = true ∧ t = .char '-' :: rest) := by
  unfold splitSign at h
  split at h <;> cases h
  · exact .inr (.inr ⟨rfl, rfl⟩)
  · exact .inr (.inl ⟨rfl, rfl⟩)
  · exact .inl ⟨rfl, rfl⟩

/-- In front of digits nothing else counts as a sign. -/
theorem splitSign_eq_iff (nonempty : run ≠ []) (digits : ∀ c ∈ run, c.isDigit = true) :
    splitSign t = (negative, ofChars run) ↔
      (negative = false ∧ t = ofChars run) ∨ (negative = false ∧ t = .char '+' :: ofChars run) ∨
        (negative = true ∧ t = .char '-' :: ofChars run) := by
  constructor
  · exact eq_of_splitSign
  · rintro (⟨rfl, rfl⟩ | ⟨rfl, rfl⟩ | ⟨rfl, rfl⟩)
    · obtain ⟨c, rest, rfl⟩ := List.exists_cons_of_ne_nil nonempty
      have first : c.isDigit = true := digits c List.mem_cons_self
      exact splitSign_of_digit first (ofChars rest)
    · rfl
    · rfl

/-- **A text spells what is read from it.** -/
theorem spells_iff :
    Spells t n ↔ ∃ negative run, spelledInteger? t = some (negative, run) ∧
      signed negative (digitsValue run) = n := by
  simp only [spelledInteger?_eq_some_iff]
  constructor
  · rintro (⟨nonempty, digits⟩ | ⟨nonempty, digits⟩ | ⟨nonempty, digits⟩)
    · have split := (splitSign_eq_iff nonempty digits).mpr (.inl ⟨rfl, rfl⟩)
      exact ⟨false, _, ⟨split, nonempty, digits⟩, rfl⟩
    · exact ⟨false, _, ⟨rfl, nonempty, digits⟩, rfl⟩
    · exact ⟨true, _, ⟨rfl, nonempty, digits⟩, rfl⟩
  · rintro ⟨negative, run, ⟨split, nonempty, digits⟩, rfl⟩
    rcases eq_of_splitSign split with ⟨rfl, rfl⟩ | ⟨rfl, rfl⟩ | ⟨rfl, rfl⟩
    · exact .plain nonempty digits
    · exact .plus nonempty digits
    · exact .minus nonempty digits

/-- **The decimal form of a number spells it.** -/
theorem spells_decimal (n : Int) : Spells (ofString (decimal n)) n := by
  refine spells_iff.mpr ⟨_, _, spelledInteger?_decimal n, ?_⟩
  rw [digitsValue_decimalDigits]
  exact signed_natAbs n

theorem Spells.ne_nil (h : Spells t n) : t ≠ [] := by
  rintro rfl
  obtain ⟨negative, run, read, -⟩ := spells_iff.mp h
  cases read

/-- The formula marker is neither a sign nor a digit. -/
theorem Spells.hasMarker_eq_false (h : Spells t n) : hasMarker t = false := by
  rcases h with ⟨nonempty, digits⟩ | ⟨nonempty, digits⟩ | ⟨nonempty, digits⟩
  · obtain ⟨c, rest, rfl⟩ := List.exists_cons_of_ne_nil nonempty
    have other : c ≠ '=' := by
      rintro rfl
      cases digits '=' List.mem_cons_self
    simp [hasMarker, formulaMarker, other]
  · rfl
  · rfl

end Text

/-! ## 2. What a spelling enters -/

namespace Cell

open Spreadsheet.Text

variable {t t' : Text} {c c' : Cell} {n : Int}

/-- **A text enters a number when it spells it and the number fits.** -/
theorem ofEntry_eq_number_iff (ok : ofEntry t = .ok c) : c = .number n ↔ SpellsInt64 t n := by
  rw [spellsInt64_iff]
  constructor
  · rintro rfl
    unfold ofEntry at ok
    split at ok
    · cases compiled : Expression.compile t <;> rw [compiled] at ok <;> cases ok
    · unfold ofPlainEntry at ok
      split at ok
      · cases ok
      · split at ok
        · cases ok
        · rename_i negative run spelled
          cases read : readDigits run with
          | error fault =>
            rw [read] at ok
            cases ok
          | ok m =>
            obtain ⟨-, rfl⟩ := readDigits_eq_ok_iff.mp read
            simp only [read, Except.map, Except.ok.injEq] at ok
            split at ok
            · rename_i fits
              cases ok
              exact ⟨spells_iff.mpr ⟨negative, run, spelled, rfl⟩, fits⟩
            · cases ok
  · rintro ⟨spells, fits⟩
    obtain ⟨negative, run, spelled, rfl⟩ := spells_iff.mp spells
    rw [ofEntry, spells.hasMarker_eq_false, if_neg Bool.false_ne_true, ofPlainEntry,
      if_neg spells.ne_nil, spelled] at ok
    cases read : readDigits run with
    | error fault =>
      simp only [read, Except.map] at ok
      cases ok
    | ok m =>
      obtain ⟨-, rfl⟩ := readDigits_eq_ok_iff.mp read
      simp only [read, Except.map, fits, if_true, Except.ok.injEq] at ok
      exact ok.symm

/-- **A cell tells the text that entered it,** unless the text spells a number of 64 bits. -/
theorem entry_of_not_spells (ok : ofEntry t = .ok c) (none : ¬ ∃ n, SpellsInt64 t n) :
    c.entry = t := by
  rcases entry_of_ofEntry ok with same | ⟨n, -, number⟩
  · exact same
  · exact absurd ⟨n, (ofEntry_eq_number_iff ok).mp number⟩ none

/-- **Two texts enter equal cells** when they are equal or spell one number of 64 bits. -/
theorem eq_iff_of_ofEntry (ok : ofEntry t = .ok c) (ok' : ofEntry t' = .ok c') :
    c = c' ↔ t = t' ∨ ∃ n, SpellsInt64 t n ∧ SpellsInt64 t' n := by
  constructor
  · rintro rfl
    by_cases spelled : ∃ n, SpellsInt64 t n
    · obtain ⟨n, spells⟩ := spelled
      have number : c = .number n := (ofEntry_eq_number_iff ok).mpr spells
      exact .inr ⟨n, spells, (ofEntry_eq_number_iff ok').mp number⟩
    · have other : ¬ ∃ n, SpellsInt64 t' n := by
        rintro ⟨n, spells⟩
        exact spelled ⟨n, (ofEntry_eq_number_iff ok).mp ((ofEntry_eq_number_iff ok').mpr spells)⟩
      exact .inl ((entry_of_not_spells ok spelled).symm.trans (entry_of_not_spells ok' other))
  · rintro (rfl | ⟨n, spells, spells'⟩)
    · exact Except.ok.inj (ok.symm.trans ok')
    · have number : c = .number n := (ofEntry_eq_number_iff ok).mpr spells
      have number' : c' = .number n := (ofEntry_eq_number_iff ok').mpr spells'
      rw [number, number']

end Cell

namespace Sheet

open Spreadsheet.Text

/-- **A sheet does not tell a number from its decimal form:** entering the text stores the number and
    leaves the cache alone. -/
theorem set_decimal {n : Int} (fits : fitsInt64 n = true) (s : Sheet) (key : Key) :
    s.set key (.text (ofString (decimal n))) = s.set key (.int n) := by
  have entered : s.cache.ofEntry (ofString (decimal n)) = (s.cache, .ok (.number n)) := by
    rw [Cache.ofEntry, if_neg (Bool.eq_false_iff.mp (Cell.hasMarker_decimal n)),
      Cell.ofPlainEntry_decimal fits]
  simp only [set, enter, entered, fits, if_true]

end Sheet

/-! ## 3. Texts and cells -/

namespace Cell

open Spreadsheet.Text

/-- **Texts and cells tell each other.** A cell that a text entered tells a text and is entered again by
    it. This is the text that entered it, unless that spells a number of 64 bits; then the cell is
    that number, and tells its decimal form. Two texts enter equal cells exactly when they are equal or
    spell the same number of 64 bits. And the decimal form of such a number always enters it, so that a
    sheet takes one for the other at every key, with what it stores and how it answers. -/
theorem ofEntry_exact :
    (∀ t c, ofEntry t = .ok c → c.told? = some c.entry ∧ ofEntry c.entry = .ok c ∧
      ((¬ ∃ n, SpellsInt64 t n) → c.entry = t) ∧
      ∀ n, SpellsInt64 t n → c = .number n ∧ c.entry = ofString (decimal n)) ∧
    (∀ t t' c c', ofEntry t = .ok c → ofEntry t' = .ok c' →
      (c = c' ↔ t = t' ∨ ∃ n, SpellsInt64 t n ∧ SpellsInt64 t' n)) ∧
    ∀ n : Int, -2 ^ 63 ≤ n → n ≤ 2 ^ 63 - 1 →
      Spells (ofString (decimal n)) n ∧ ofEntry (ofString (decimal n)) = .ok (.number n) ∧
      ∀ (s : Sheet) (key : Key), s.set key (.text (ofString (decimal n))) = s.set key (.int n) := by
  refine ⟨fun t c ok => ⟨told?_of_ofEntry ok, ofEntry_entry ok, entry_of_not_spells ok,
    fun n spells => ?_⟩, fun t t' c c' => eq_iff_of_ofEntry, fun n least greatest => ?_⟩
  · have number : c = .number n := (ofEntry_eq_number_iff ok).mpr spells
    exact ⟨number, number ▸ rfl⟩
  · have spells : SpellsInt64 (ofString (decimal n)) n := ⟨spells_decimal n, least, greatest⟩
    have fits : fitsInt64 n = true := (spellsInt64_iff.mp spells).2
    exact ⟨spells.1, ofEntry_decimal fits, Sheet.set_decimal fits⟩

/-- The general statement at `-007`, which spells what `-7` spells, and at `- 7`, which spells nothing:
    the first tells `-7`, and the second itself. -/
theorem ofEntry_exact_padded :
    ofEntry (ofString "-007") = .ok (.number (-7)) ∧
    ofEntry (ofString "- 7") = .ok (.text (ofString "- 7")) ∧
    ofEntry (Cell.number (-7)).entry = .ok (.number (-7)) ∧
    (∃ n, SpellsInt64 (ofString "-007") n ∧ SpellsInt64 (ofString "-7") n) ∧
    (¬ ∃ n, SpellsInt64 (ofString "-007") n ∧ SpellsInt64 (ofString "- 7") n) ∧
    ∀ (s : Sheet) (key : Key), s.set key (.text (ofString "-7")) = s.set key (.int (-7)) := by
  have padded : ofEntry (ofString "-007") = .ok (.number (-7)) := by decide
  have apart : ofEntry (ofString "- 7") = .ok (.text (ofString "- 7")) := by decide
  obtain ⟨trips, equal, numbers⟩ := ofEntry_exact
  obtain ⟨-, canonical, same⟩ := numbers (-7) (by decide) (by decide)
  have form : ofString (decimal (-7)) = ofString "-7" := by decide
  rw [form] at canonical same
  refine ⟨padded, apart, (trips _ _ padded).2.1, ?_, ?_, same⟩
  · exact ((equal _ _ _ _ padded canonical).mp rfl).resolve_left (by decide)
  · intro spelled
    cases (equal _ _ _ _ padded apart).mpr (.inr spelled)

end Cell

end Spreadsheet
