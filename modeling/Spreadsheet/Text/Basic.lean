/-!
# Texts

A text, as it is entered or as it labels something, is a sequence of code points. Nearly all of them
are characters; the 2048 others are halves of surrogate pairs, which mean nothing alone but can
occur in what is entered, and are kept as they are. This file fixes

* the two kinds of code points, and that every property of characters is false of a half that stands
  alone (`CodePoint.has`);
* when a text is made of characters only, and of which (`Text.chars?_eq_some_iff`);
* the digits that a text begins with (`Text.map_leadingDigits_append`).

What the library itself writes holds characters only and is a `String`.
-/

namespace Spreadsheet

/-! ## 1. Code points -/

/-- A code point: a character, or the half of a surrogate pair that stands alone. -/
inductive CodePoint
  | char (c : Char)
  | surrogate (half : Fin 2048)
  deriving DecidableEq

/-- A sequence of code points. -/
abbrev Text := List CodePoint

namespace CodePoint

/-- The character, if the code point is one. -/
def char? : CodePoint → Option Char
  | char c => some c
  | surrogate _ => none

/-- Whether the code point is a character with the property. -/
def has (property : Char → Bool) : CodePoint → Bool
  | char c => property c
  | surrogate _ => false

/-- The number of the code point; the surrogates lie from 0xD800 on. -/
def code : CodePoint → Nat
  | char c => c.toNat
  | surrogate half => 0xD800 + half

@[simp] theorem has_char (property : Char → Bool) (c : Char) :
    (char c).has property = property c := rfl

@[simp] theorem has_surrogate (property : Char → Bool) (half : Fin 2048) :
    (surrogate half).has property = false := rfl

end CodePoint

namespace Text

/-! ## 2. Texts of characters -/

/-- Characters as a text. -/
def ofChars (cs : List Char) : Text := cs.map .char

/-- A string as a text. -/
def ofString (s : String) : Text := ofChars s.toList

/-- The characters of a text that has nothing else. -/
def chars? (t : Text) : Option (List Char) := t.mapM CodePoint.char?

@[simp] theorem ofChars_cons (c : Char) (cs : List Char) :
    ofChars (c :: cs) = .char c :: ofChars cs := rfl

theorem chars?_eq_some_iff {t : Text} {cs : List Char} : chars? t = some cs ↔ t = ofChars cs := by
  unfold chars? ofChars
  induction t generalizing cs with
  | nil => cases cs <;> simp
  | cons p t ih =>
    cases p with
    | surrogate half => cases cs <;> simp [CodePoint.char?]
    | char c =>
      cases cs with
      | nil => simp [CodePoint.char?, Option.bind_eq_some_iff]
      | cons d cs =>
        simp only [List.mapM_cons, CodePoint.char?, Option.pure_def, Option.bind_eq_bind,
          Option.bind_some, Option.bind_eq_some_iff, ih, Option.some.injEq, List.cons.injEq,
          List.map_cons, CodePoint.char.injEq]
        constructor
        · rintro ⟨cs', ht, hd, rfl⟩
          exact ⟨hd, ht⟩
        · rintro ⟨hd, ht⟩
          exact ⟨cs, ht, hd, rfl⟩

@[simp] theorem chars?_ofChars (cs : List Char) : chars? (ofChars cs) = some cs :=
  chars?_eq_some_iff.2 rfl

theorem ofChars_inj {cs cs' : List Char} : ofChars cs = ofChars cs' ↔ cs = cs' := by
  rw [← chars?_eq_some_iff, chars?_ofChars, Option.some.injEq]

/-! ## 3. Digits in front -/

/-- The digits that a text begins with. -/
def leadingDigits : Text → List Char
  | .char c :: rest => if c.isDigit then c :: leadingDigits rest else []
  | _ => []

/-- A text is its leading digits and what follows them. -/
theorem map_leadingDigits_append (t : Text) :
    ofChars (leadingDigits t) ++ t.dropWhile (·.has Char.isDigit) = t := by
  induction t with
  | nil => rfl
  | cons p t ih =>
    cases p with
    | surrogate half => simp [leadingDigits, ofChars]
    | char c => by_cases hc : c.isDigit = true <;> simp [leadingDigits, hc, ih, ofChars] at ih ⊢

theorem isDigit_of_mem_leadingDigits {t : Text} {c : Char} (h : c ∈ leadingDigits t) :
    c.isDigit = true := by
  fun_induction leadingDigits t with
  | case1 d rest hd ih =>
    rcases List.mem_cons.1 h with rfl | h
    · exact hd
    · exact ih h
  | case2 => simp at h
  | case3 => simp at h

end Text

end Spreadsheet
