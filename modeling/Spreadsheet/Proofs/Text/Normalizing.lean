import Spreadsheet.Position.Label
import Spreadsheet.Proofs.Token.Scanning

/-!
# Blanks and case around a label

A label is read without the blanks at its ends and in upper case. A text of capitals and digits is what
is left of itself, of itself between blanks, and of itself in small letters
(`normalLabel_of_plain`, `normalLabel_lower_of_plain`).

The upper-case mapping can lengthen a text and can bring letters of ASCII in from beyond it, but no
digits: a digit stays what it is, and nothing else becomes one (`countP_isDigit_upperPoint`). So a label
in normal form has no more digits than it was written with (`countP_isDigit_normalLabel_le`).
-/

namespace Spreadsheet

open Spreadsheet.Text

/-- The code point in small letters; only the letters of ASCII change. -/
def CodePoint.lower : CodePoint → CodePoint
  | char c => char c.toLower
  | surrogate half => surrogate half

namespace Text

variable {p : CodePoint} {c : Char} {cs : List Char} {t gap gap' : Text} {n m : Nat}

/-! ## 1. Blanks -/

theorem dropWhile_of_not_beginsWith {property : Char → Bool} (h : beginsWith property t = false) :
    t.dropWhile (·.has property) = t := by
  cases t with
  | nil => rfl
  | cons p t => exact List.dropWhile_cons_of_neg (Bool.eq_false_iff.mp h)

theorem beginsWith_of_forall {property : Char → Bool} (h : ∀ p ∈ t, p.has property = false) :
    beginsWith property t = false := by
  cases t with
  | nil => rfl
  | cons p t => exact h p List.mem_cons_self

/-- **A text without blanks is what is left when it stands between blanks.** -/
theorem trimBlanks_between (blank : Blank gap) (blank' : Blank gap')
    (solid : ∀ p ∈ t, p.has isBlank = false) : trimBlanks (gap ++ t ++ gap') = t := by
  have front : (gap ++ t ++ gap').dropWhile (CodePoint.has isBlank) =
      (t ++ gap').dropWhile (CodePoint.has isBlank) := by
    rw [List.append_assoc, List.dropWhile_append_of_pos blank]
  rw [trimBlanks, front]
  cases t with
  | nil =>
    have nothing : ([] ++ gap').dropWhile (CodePoint.has isBlank) = [] :=
      List.dropWhile_eq_nil_iff.mpr blank'
    rw [nothing]
    rfl
  | cons p t =>
    have first : beginsWith isBlank (p :: t ++ gap') = false := solid p List.mem_cons_self
    have behind : ∀ q ∈ gap'.reverse, q.has isBlank = true := fun q member =>
      blank' q (List.mem_reverse.mp member)
    have last : beginsWith isBlank (p :: t).reverse = false :=
      beginsWith_of_forall fun q member => solid q (List.mem_reverse.mp member)
    rw [dropWhile_of_not_beginsWith first, List.reverse_append, List.dropWhile_append_of_pos behind,
      dropWhile_of_not_beginsWith last, List.reverse_reverse]

theorem trimBlanks_sublist (t : Text) : (trimBlanks t).Sublist t := by
  have back := List.dropWhile_sublist (CodePoint.has isBlank)
    (l := (t.dropWhile (CodePoint.has isBlank)).reverse)
  have whole : (trimBlanks t).Sublist (t.dropWhile (CodePoint.has isBlank)) := by
    rw [← List.reverse_sublist, trimBlanks, List.reverse_reverse]
    exact back
  exact whole.trans (List.dropWhile_sublist _)

/-! ## 2. Upper case in ASCII -/

/-- A capital or a digit of ASCII. -/
def isPlain (c : Char) : Bool := c.isUpper || c.isDigit

theorem lt_of_isPlain (h : isPlain c = true) : c.toNat < 128 := by
  rw [isPlain, Bool.or_eq_true] at h
  rcases h with upper | digit
  · have between : 'A'.val ≤ c.val ∧ c.val ≤ 'Z'.val := of_decide_eq_true upper
    have below : c.toNat ≤ 90 := UInt32.le_iff_toNat_le.mp between.2
    omega
  · have between : 48 ≤ c.toNat ∧ c.toNat ≤ 57 := Char.isDigit_iff_toNat.mp digit
    omega

/-- **A capital or a digit is not blank,** nor is its small letter, and both have it as their upper
    case. -/
theorem ascii_of_isPlain (h : isPlain c = true) :
    (isBlank c = false ∧ c.toUpper = c) ∧
      isBlank c.toLower = false ∧ c.toLower.toNat < 128 ∧ c.toLower.toUpper = c := by
  have each : ∀ n : Fin 128, isPlain (Char.ofNat n) = true →
      (isBlank (Char.ofNat n) = false ∧ (Char.ofNat n).toUpper = Char.ofNat n) ∧
      isBlank (Char.ofNat n).toLower = false ∧ (Char.ofNat n).toLower.toNat < 128 ∧
      (Char.ofNat n).toLower.toUpper = Char.ofNat n := by
    decide
  have here := each ⟨c.toNat, lt_of_isPlain h⟩
  simp only [Char.ofNat_toNat] at here
  exact here h

theorem upper_of_isPlain (h : isPlain c = true) : upper c = [c] := by
  rw [upper_of_lt (lt_of_isPlain h), (ascii_of_isPlain h).1.2]

theorem upper_toLower_of_isPlain (h : isPlain c = true) : upper c.toLower = [c] := by
  obtain ⟨-, -, small, back⟩ := ascii_of_isPlain h
  rw [upper_of_lt small, back]

theorem uppercase_ofChars (cs : List Char) : uppercase (ofChars cs) = ofChars (cs.flatMap upper) := by
  induction cs with
  | nil => rfl
  | cons c cs ih =>
    show ofChars (upper c) ++ uppercase (ofChars cs) = ofChars (upper c ++ cs.flatMap upper)
    rw [ih, ofChars, ofChars, ofChars, List.map_append]

theorem flatMap_eq_self {f : Char → List Char} (h : ∀ c ∈ cs, f c = [c]) : cs.flatMap f = cs := by
  induction cs with
  | nil => rfl
  | cons c cs ih =>
    obtain ⟨here, later⟩ := List.forall_mem_cons.mp h
    rw [List.flatMap_cons, here, ih later, List.singleton_append]

/-- **Capitals and digits are in normal form,** also between blanks. -/
theorem normalLabel_of_plain (plain : ∀ c ∈ cs, isPlain c = true) (blank : Blank gap)
    (blank' : Blank gap') : Position.normalLabel (gap ++ ofChars cs ++ gap') = ofChars cs := by
  have solid : ∀ p ∈ ofChars cs, p.has isBlank = false := by
    intro p member
    obtain ⟨c, here, rfl⟩ := List.mem_map.mp member
    exact (ascii_of_isPlain (plain c here)).1.1
  rw [Position.normalLabel, trimBlanks_between blank blank' solid, uppercase_ofChars,
    flatMap_eq_self fun c member => upper_of_isPlain (plain c member)]

theorem normalLabel_lower_of_plain (plain : ∀ c ∈ cs, isPlain c = true) (blank : Blank gap)
    (blank' : Blank gap') :
    Position.normalLabel (gap ++ (ofChars cs).map CodePoint.lower ++ gap') = ofChars cs := by
  have small : (ofChars cs).map CodePoint.lower = ofChars (cs.map Char.toLower) := by
    simp [ofChars, CodePoint.lower]
  have solid : ∀ p ∈ ofChars (cs.map Char.toLower), p.has isBlank = false := by
    intro p member
    obtain ⟨d, lower, rfl⟩ := List.mem_map.mp member
    obtain ⟨c, here, rfl⟩ := List.mem_map.mp lower
    exact (ascii_of_isPlain (plain c here)).2.1
  rw [small, Position.normalLabel, trimBlanks_between blank blank' solid, uppercase_ofChars,
    List.flatMap_map]
  rw [flatMap_eq_self fun c member => upper_toLower_of_isPlain (plain c member)]

/-! ## 3. Upper case and digits -/

/-- No letter beyond ASCII has a digit in its upper case. -/
theorem upperBeyondAscii_not_digit (h : 128 ≤ n) (member : m ∈ upperBeyondAscii n) :
    m < 48 ∨ 57 < m := by
  unfold upperBeyondAscii at member
  split at member
  · rename_i several found
    have each : ∀ e ∈ caseExpansions, ∀ m ∈ e.2, m < 48 ∨ 57 < m := by decide
    obtain ⟨before, after, all, -⟩ := List.lookup_eq_some_iff.mp found
    have listed : (n, several) ∈ caseExpansions := by
      rw [all]
      simp
    exact each _ listed m member
  · split at member
    · rename_i r found
      have each : ∀ r ∈ caseRuns, 57 < (r.first : Int) + r.shift := by decide +kernel
      have covered := List.find?_some found
      have above := each r (List.mem_of_find?_eq_some found)
      simp only [CaseRun.covers, Bool.and_eq_true, decide_eq_true_eq] at covered
      rw [List.mem_singleton.mp member]
      omega
    · rw [List.mem_singleton.mp member]
      omega

theorem isDigit_ofNat (h : m < 48 ∨ 57 < m) : (Char.ofNat m).isDigit = false := by
  refine Bool.eq_false_iff.mpr fun digit => ?_
  have between : 48 ≤ (Char.ofNat m).toNat ∧ (Char.ofNat m).toNat ≤ 57 :=
    Char.isDigit_iff_toNat.mp digit
  by_cases valid : m.isValidChar
  · have same : (Char.ofNat m).toNat = m := by
      rw [Char.ofNat, dif_pos valid]
      rfl
    omega
  · rw [Char.ofNat, dif_neg valid] at digit
    cases digit

theorem isDigit_toUpper (h : c.toNat < 128) : c.toUpper.isDigit = c.isDigit := by
  have each : ∀ n : Fin 128, (Char.ofNat n).toUpper.isDigit = (Char.ofNat n).isDigit := by decide
  have here := each ⟨c.toNat, h⟩
  rwa [Char.ofNat_toNat] at here

/-- **A digit is its own upper case, and no other upper case has a digit.** -/
theorem countP_isDigit_upperPoint (p : CodePoint) :
    (upperPoint p).countP (·.has Char.isDigit) = [p].countP (·.has Char.isDigit) := by
  cases p with
  | surrogate half => rfl
  | char c =>
    by_cases ascii : c.toNat < 128
    · show (ofChars (upper c)).countP (·.has Char.isDigit) = _
      rw [upper_of_lt ascii]
      show [CodePoint.char c.toUpper].countP (·.has Char.isDigit) = _
      rw [List.countP_singleton, List.countP_singleton, CodePoint.has_char, CodePoint.has_char,
        isDigit_toUpper ascii]
    · have digit : c.isDigit = false := by
        refine Bool.eq_false_iff.mpr fun digit => ?_
        have : 48 ≤ c.toNat ∧ c.toNat ≤ 57 := Char.isDigit_iff_toNat.mp digit
        omega
      have none : ∀ q ∈ ofChars ((upperBeyondAscii c.toNat).map Char.ofNat),
          ¬ q.has Char.isDigit = true := by
        intro q member
        obtain ⟨d, upper, rfl⟩ := List.mem_map.mp member
        obtain ⟨m, listed, rfl⟩ := List.mem_map.mp upper
        exact Bool.eq_false_iff.mp
          (isDigit_ofNat (upperBeyondAscii_not_digit (Nat.not_lt.mp ascii) listed))
      show (ofChars (upper c)).countP (·.has Char.isDigit) = _
      rw [upper, if_neg ascii, List.countP_eq_zero.mpr none]
      simp [digit]

/-- **A label has no more digits in normal form than it was written with.** -/
theorem countP_isDigit_normalLabel_le (t : Text) :
    (Position.normalLabel t).countP (·.has Char.isDigit) ≤ t.countP (·.has Char.isDigit) := by
  have upper (u : Text) :
      (uppercase u).countP (·.has Char.isDigit) = u.countP (·.has Char.isDigit) := by
    induction u with
    | nil => rfl
    | cons p u ih =>
      show (upperPoint p ++ uppercase u).countP _ = ([p] ++ u).countP _
      rw [List.countP_append, List.countP_append, countP_isDigit_upperPoint, ih]
  rw [Position.normalLabel, upper]
  exact (trimBlanks_sublist t).countP_le

end Text

end Spreadsheet
