import Spreadsheet.Proofs.Text.Decimal
import Spreadsheet.Proofs.Text.Normalizing

/-!
# Labels and positions

A position is written as a label and a label is read as a position, and the two undo each other.

* `label_eq_ok_iff`: which positions have a label, and what it is: a column letter, and then the row
  number in decimal, which has no leading zero (`exists_leading_digit`).
* `ofNormalLabel?_eq_some_iff`: what is read in normal form: the same letters, and digits without a
  leading zero.
* `ofLabel_eq_ok_iff`: a text is read as a position exactly when its normal form is the label of the
  position. So texts of different normal forms name different positions.
* `ofLabel_of_no_label`: a text whose normal form is no label is refused for that, unless it has too
  many digits to be looked at.

The digit limit shows in both directions: beyond it no row number is read, and none is written
(`label_tooLong`).
-/

namespace Spreadsheet

open Spreadsheet.Text

namespace Text

variable {c : Char} {rest run : List Char} {n : Nat}

/-! ## 1. Row numbers in decimal -/

/-- **A positive number is written without a leading zero,** by induction on the digits from the last
    one. -/
theorem exists_leading_digit (h : 0 < n) :
    ∃ c rest, decimalDigits n = c :: rest ∧ Position.isLeadingDigit c = true := by
  induction n using Nat.strongRecOn with
  | ind n ih =>
    by_cases small : n < 10
    · refine ⟨n.digitChar, [], Nat.toDigits_of_lt_base small, ?_⟩
      have each : ∀ m : Fin 10, 0 < m.val → Position.isLeadingDigit m.val.digitChar = true := by
        decide
      exact each ⟨n, small⟩ h
    · obtain ⟨c, rest, front, leading⟩ := ih (n / 10) (by omega) (by omega)
      have digits : decimalDigits n = decimalDigits (n / 10) ++ [(n % 10).digitChar] :=
        Nat.toDigits_of_base_le (by decide) (by omega)
      exact ⟨c, rest ++ [(n % 10).digitChar], by rw [digits, front, List.cons_append], leading⟩

/-- The digits of a number without a leading zero are the ones it is written with. -/
theorem decimalDigits_digitsValue_of_leading (leading : Position.isLeadingDigit c = true)
    (digits : ∀ d ∈ rest, d.isDigit = true) :
    decimalDigits (digitsValue (c :: rest)) = c :: rest := by
  simp only [Position.isLeadingDigit, Bool.and_eq_true, bne_iff_ne, ne_eq] at leading
  exact decimalDigits_digitsValue leading.1 leading.2 digits

theorem digitsValue_pos_of_leading (leading : Position.isLeadingDigit c = true)
    (digits : ∀ d ∈ rest, d.isDigit = true) : 0 < digitsValue (c :: rest) := by
  refine Nat.pos_of_ne_zero fun zero => ?_
  have written := decimalDigits_digitsValue_of_leading leading digits
  rw [zero, decimalDigits, Nat.toDigits_zero] at written
  cases written
  cases leading

theorem isDigit_of_leading (leading : Position.isLeadingDigit c = true)
    (digits : ∀ d ∈ rest, d.isDigit = true) : ∀ d ∈ c :: rest, d.isDigit = true :=
  List.forall_mem_cons.mpr ⟨(Bool.and_eq_true_iff.mp leading).1, digits⟩

theorem countP_isDigit_ofChars (digits : ∀ d ∈ run, d.isDigit = true) :
    (ofChars run).countP (·.has Char.isDigit) = run.length := by
  have all : ∀ p ∈ ofChars run, p.has Char.isDigit = true := by
    intro p member
    obtain ⟨d, here, rfl⟩ := List.mem_map.mp member
    exact digits d here
  rw [List.countP_eq_length.mpr all, ofChars, List.length_map]

end Text

namespace Position

variable {p : Position} {cs : List Char} {t gap gap' : Text}

/-! ## 2. Writing -/

theorem hasLabel_iff :
    p.hasLabel = true ↔ (0 ≤ p.column ∧ p.column < letterCount) ∧ 0 ≤ p.row := by
  simp [hasLabel]

/-- The row number has no more digits than can be written. -/
def WritableRow (p : Position) : Prop := p.row + 1 < 10 ^ digitLimit

theorem isWritable_row_iff (h : 0 ≤ p.row) :
    Text.isWritable (p.row + 1) = true ↔ p.WritableRow := by
  have row : p.row + 1 = ((p.row + 1).natAbs : Int) := by omega
  rw [isWritable_iff, WritableRow, row]
  exact_mod_cast Iff.rfl

theorem writableRow_iff (h : 0 ≤ p.row) :
    p.WritableRow ↔ (decimalDigits (p.row.toNat + 1)).length ≤ digitLimit := by
  have row : (p.row + 1).natAbs = p.row.toNat + 1 := by omega
  rw [← isWritable_row_iff h, Text.isWritable, row, decide_eq_true_iff]

/-- **The label of a position:** its column letter and its row number. -/
theorem label_eq_ok_iff :
    p.label = .ok t ↔ ((0 ≤ p.column ∧ p.column < letterCount) ∧ 0 ≤ p.row) ∧ p.WritableRow ∧
      t = ofChars (letterOf p.column :: decimalDigits (p.row.toNat + 1)) := by
  unfold label
  by_cases has : p.hasLabel = true
  · have here := hasLabel_iff.mp has
    rw [if_pos has]
    by_cases writable : p.WritableRow
    · rw [if_pos ((isWritable_row_iff here.2).mpr writable)]
      simp [writable, here, eq_comm]
    · rw [if_neg (mt (isWritable_row_iff here.2).mp writable)]
      simp [writable]
  · rw [if_neg has]
    simp [← hasLabel_iff, has]

theorem label_eq_error_iff {fault : Fault} :
    p.label = .error fault ↔
      (p.hasLabel = false ∧ fault = (Fault.unaddressable p).raised) ∨
        (p.hasLabel = true ∧ ¬ p.WritableRow ∧ fault = .tooLongToWrite) := by
  unfold label
  by_cases has : p.hasLabel = true
  · have here := hasLabel_iff.mp has
    rw [if_pos has]
    by_cases writable : p.WritableRow
    · rw [if_pos ((isWritable_row_iff here.2).mpr writable)]
      simp [writable, has]
    · rw [if_neg (mt (isWritable_row_iff here.2).mp writable)]
      simp [writable, has, eq_comm]
  · rw [if_neg has]
    simp [has, eq_comm]

theorem exists_label_error_iff :
    (∃ fault, p.label = .error fault) ↔
      p.column < 0 ∨ letterCount ≤ p.column ∨ p.row < 0 ∨ ¬ p.WritableRow := by
  simp only [label_eq_error_iff, exists_or, exists_and_left, exists_eq, and_true,
    ← Bool.not_eq_true, hasLabel_iff]
  by_cases writable : p.WritableRow
  · simp only [writable, not_true_eq_false, and_false, or_false]
    omega
  · simp only [writable, not_false_eq_true, and_true, or_true, iff_true]
    omega

/-- A label is made of capitals and digits. -/
theorem isPlain_of_label (h : p.label = .ok (ofChars cs)) : ∀ c ∈ cs, isPlain c = true := by
  obtain ⟨⟨column, -⟩, -, same⟩ := label_eq_ok_iff.mp h
  rw [ofChars_inj.mp same]
  refine List.forall_mem_cons.mpr ⟨?_, fun d member => ?_⟩
  · have letter := columnOf?_letterOf column.1 column.2
    unfold columnOf? at letter
    split at letter
    · rename_i upper
      rw [isPlain, upper, Bool.true_or]
    · cases letter
  · rw [isPlain, isDigit_of_mem_decimalDigits member, Bool.or_true]

/-! ## 3. Reading -/

/-- **What is read in normal form:** a column letter, and digits without a leading zero, unless they
    are too many. -/
theorem ofNormalLabel?_eq_some_iff {outcome : Except Fault Position} :
    ofNormalLabel? cs = some outcome ↔
      ∃ column first rest, (0 ≤ column ∧ column < letterCount) ∧ isLeadingDigit first = true ∧
        (∀ d ∈ rest, d.isDigit = true) ∧ cs = letterOf column :: first :: rest ∧
        outcome = (readDigits (first :: rest)).map fun n => ⟨column, (n : Int) - 1⟩ := by
  constructor
  · intro read
    unfold ofNormalLabel? at read
    split at read
    · rename_i letter first rest
      split at read
      · rename_i column found
        split at read
        · rename_i digits
          obtain ⟨leading, later⟩ := Bool.and_eq_true_iff.mp digits
          cases read
          refine ⟨column, first, rest, columnOf?_bounds found, leading, List.all_eq_true.mp later,
            by rw [eq_letterOf found], ?_⟩
          cases readDigits (first :: rest) <;> rfl
        · cases read
      · cases read
    · cases read
  · rintro ⟨column, first, rest, range, leading, digits, rfl, rfl⟩
    have both : (isLeadingDigit first && rest.all Char.isDigit) = true :=
      Bool.and_eq_true_iff.mpr ⟨leading, List.all_eq_true.mpr digits⟩
    simp only [ofNormalLabel?, columnOf?_letterOf range.1 range.2, both, if_true]
    cases readDigits (first :: rest) <;> rfl

/-- **In normal form, what is read as a position is its label.** -/
theorem ofNormalLabel?_eq_ok_iff :
    ofNormalLabel? cs = some (.ok p) ↔ p.label = .ok (ofChars cs) := by
  rw [ofNormalLabel?_eq_some_iff, label_eq_ok_iff]
  constructor
  · rintro ⟨column, first, rest, range, leading, digits, rfl, outcome⟩
    cases read : readDigits (first :: rest) with
    | error fault =>
      rw [read] at outcome
      cases outcome
    | ok n =>
      obtain ⟨short, rfl⟩ := readDigits_eq_ok_iff.mp read
      rw [read] at outcome
      cases outcome
      have positive := digitsValue_pos_of_leading leading digits
      have row : ((digitsValue (first :: rest) : Int) - 1).toNat + 1 =
          digitsValue (first :: rest) := by omega
      have form := decimalDigits_digitsValue_of_leading leading digits
      have above : 0 ≤ (digitsValue (first :: rest) : Int) - 1 := by omega
      refine ⟨⟨range, above⟩, (writableRow_iff above).mpr ?_, ?_⟩
      · rwa [row, form]
      · rw [row, form]
  · rintro ⟨⟨column, above⟩, writable, same⟩
    obtain ⟨first, rest, form, leading⟩ := exists_leading_digit p.row.toNat.succ_pos
    have short := (writableRow_iff above).mp writable
    have digits : ∀ d ∈ first :: rest, d.isDigit = true := fun d member =>
      isDigit_of_mem_decimalDigits (form ▸ member)
    have value : digitsValue (first :: rest) = p.row.toNat + 1 := by
      rw [← form]
      exact digitsValue_decimalDigits _
    have read : readDigits (first :: rest) = .ok (p.row.toNat + 1) :=
      readDigits_eq_ok_iff.mpr ⟨form ▸ short, value⟩
    refine ⟨p.column, first, rest, column, leading, (List.forall_mem_cons.mp digits).2, ?_, ?_⟩
    · rw [← form]
      exact ofChars_inj.mp same
    · have row : ((p.row.toNat + 1 : Nat) : Int) - 1 = p.row := by omega
      rw [read, Except.map, row]

/-- **A text is read as a position exactly when its normal form is the label of the position.** -/
theorem ofLabel_eq_ok_iff : ofLabel t = .ok p ↔ p.label = .ok (normalLabel t) := by
  constructor
  · intro read
    unfold ofLabel at read
    cases found : (chars? (normalLabel t)).bind ofNormalLabel? with
    | none =>
      rw [found] at read
      cases read
    | some outcome =>
      rw [found] at read
      obtain rfl : outcome = .ok p := read
      obtain ⟨cs, whole, read⟩ := Option.bind_eq_some_iff.mp found
      rw [chars?_eq_some_iff.mp whole]
      exact ofNormalLabel?_eq_ok_iff.mp read
  · intro written
    have same := (label_eq_ok_iff.mp written).2.2
    rw [same] at written
    rw [ofLabel, same, chars?_ofChars, Option.bind_some, ofNormalLabel?_eq_ok_iff.mpr written,
      Option.getD_some]

/-- **A text whose normal form is no label is refused for that,** unless it has too many digits. -/
theorem ofLabel_of_no_label (none : ¬ ∃ p : Position, p.label = .ok (normalLabel t))
    (short : t.countP (·.has Char.isDigit) ≤ digitLimit) :
    ofLabel t = .error (.invalidLabel t) := by
  cases found : (chars? (normalLabel t)).bind ofNormalLabel? with
  | none => rw [ofLabel, found, Option.getD_none]
  | some outcome =>
    exfalso
    obtain ⟨cs, whole, read⟩ := Option.bind_eq_some_iff.mp found
    obtain ⟨column, first, rest, -, leading, digits, rfl, outcome⟩ :=
      ofNormalLabel?_eq_some_iff.mp read
    cases converted : readDigits (first :: rest) with
    | ok n =>
      rw [converted] at outcome
      rw [outcome] at read
      exact none ⟨_, chars?_eq_some_iff.mp whole ▸ ofNormalLabel?_eq_ok_iff.mp read⟩
    | error fault =>
      -- the digits that were read are digits of the text as well
      have long := (readDigits_eq_error_iff.mp converted).1
      have count := countP_isDigit_ofChars (isDigit_of_leading leading digits)
      have counted := countP_isDigit_normalLabel_le t
      rw [chars?_eq_some_iff.mp whole, ofChars_cons, List.countP_cons, count] at counted
      omega

/-- **A label between blanks is read back,** also in small letters. -/
theorem ofLabel_between (h : p.label = .ok (ofChars cs)) (blank : Blank gap)
    (blank' : Blank gap') :
    ofLabel (gap ++ ofChars cs ++ gap') = .ok p ∧
      ofLabel (gap ++ (ofChars cs).map CodePoint.lower ++ gap') = .ok p := by
  have plain := isPlain_of_label h
  constructor
  · rwa [ofLabel_eq_ok_iff, normalLabel_of_plain plain blank blank']
  · rwa [ofLabel_eq_ok_iff, normalLabel_lower_of_plain plain blank blank']

/-- **A label is read back.** -/
theorem ofLabel_label (h : p.label = .ok t) : ofLabel t = .ok p := by
  have same := (label_eq_ok_iff.mp h).2.2
  have nothing : Blank [] := fun _ member => absurd member List.not_mem_nil
  have read := (ofLabel_between (same ▸ h) nothing nothing).1
  rwa [List.nil_append, List.append_nil, ← same] at read

/-! ## 4. Labels and positions undo each other -/

/-- **Labels and positions undo each other.** A position in a lettered column and a row that is not
    negative and can be written has a label, and is read back from it, also from the label between
    blanks and in small letters. A text is read as a position exactly when its normal form is the label
    of the position, so that two texts that are read name one position only if their normal forms are
    the same; every other text that has no more digits than a numeral may have is refused for being no
    label. And writing fails exactly when the column has no letter, the row is negative or the row
    number has too many digits. -/
theorem ofLabel_exact :
    (∀ p : Position, 0 ≤ p.column → p.column < 26 → 0 ≤ p.row → p.WritableRow →
      ∃ l, p.label = .ok l ∧ ofLabel l = .ok p ∧
        ∀ gap gap', Blank gap → Blank gap' → ofLabel (gap ++ l ++ gap') = .ok p ∧
          ofLabel (gap ++ l.map CodePoint.lower ++ gap') = .ok p) ∧
    (∀ t p, ofLabel t = .ok p ↔ p.label = .ok (normalLabel t)) ∧
    (∀ t u p q, ofLabel t = .ok p → ofLabel u = .ok q →
      (p = q ↔ normalLabel t = normalLabel u)) ∧
    (∀ t, (¬ ∃ p : Position, p.label = .ok (normalLabel t)) →
      t.countP (·.has Char.isDigit) ≤ digitLimit → ofLabel t = .error (.invalidLabel t)) ∧
    ∀ p : Position, (∃ fault, p.label = .error fault) ↔
      p.column < 0 ∨ 26 ≤ p.column ∨ p.row < 0 ∨ ¬ p.WritableRow := by
  refine ⟨fun p above below row writable => ?_, fun t p => ofLabel_eq_ok_iff,
    fun t u p q read read' => ?_, fun t => ofLabel_of_no_label, fun p => exists_label_error_iff⟩
  · have written := label_eq_ok_iff.mpr ⟨⟨⟨above, below⟩, row⟩, writable, rfl⟩
    exact ⟨_, written, ofLabel_label written, fun gap gap' => ofLabel_between written⟩
  · have written := ofLabel_eq_ok_iff.mp read
    have written' := ofLabel_eq_ok_iff.mp read'
    constructor
    · rintro rfl
      exact Except.ok.inj (written.symm.trans written')
    · intro same
      have reread : ofLabel u = .ok p := ofLabel_eq_ok_iff.mpr (same ▸ written)
      exact Except.ok.inj (reread.symm.trans read')

/-- The general statement at `B3`, whose position is also read from ` b3 `; at `ı1`, whose normal form
    is the label `I1`; at `ß1`, whose normal form `SS1` is none; and at a column without a letter. -/
theorem ofLabel_exact_letters :
    ofLabel (ofString " b3 ") = .ok ⟨1, 2⟩ ∧ ofLabel (ofString "ı1") = .ok ⟨8, 0⟩ ∧
    (⟨1, 2⟩ : Position) ≠ ⟨8, 0⟩ ∧
    ofLabel (ofString "ß1") = .error (.invalidLabel (ofString "ß1")) ∧
    ∃ fault, (⟨26, 0⟩ : Position).label = .error fault := by
  obtain ⟨trips, texts, equal, others, failing⟩ := ofLabel_exact
  have writable : (⟨1, 2⟩ : Position).WritableRow :=
    (writableRow_iff (by decide)).mpr (by decide)
  obtain ⟨l, written, -, between⟩ := trips ⟨1, 2⟩ (by decide) (by decide) (by decide) writable
  have form : l = ofString "B3" := Except.ok.inj (written.symm.trans (by decide))
  have blank : Blank (ofString " ") := by decide
  have padded := (between (ofString " ") (ofString " ") blank blank).2
  rw [form] at padded
  have dotless : ofLabel (ofString "ı1") = .ok ⟨8, 0⟩ := (texts _ _).mpr (by decide)
  have unlabeled : ¬ ∃ p : Position, p.label = .ok (normalLabel (ofString "ß1")) := by
    rintro ⟨p, written⟩
    have normal : normalLabel (ofString "ß1") = ofChars ['S', 'S', '1'] := by decide
    have same := (label_eq_ok_iff.mp written).2.2
    rw [normal] at same
    have listed := ofChars_inj.mp same
    have digit : 'S' ∈ decimalDigits (p.row.toNat + 1) := by
      rw [← (List.cons.inj listed).2]
      exact List.mem_cons_self
    cases isDigit_of_mem_decimalDigits digit
  refine ⟨padded, dotless, fun same => ?_, others _ unlabeled (by decide), ?_⟩
  · have normal := (equal _ _ _ _ padded dotless).mp same
    revert normal
    decide
  · exact (failing ⟨26, 0⟩).mpr (.inr (.inl (by decide)))

/-- **A row number of too many digits is not written,** although the column has a letter and the row
    is not negative. -/
theorem label_tooLong :
    (⟨0, 10 ^ digitLimit - 1⟩ : Position).label = .error .tooLongToWrite ∧
    ¬ ∀ p : Position, (∃ fault, p.label = .error fault) ↔
      p.column < 0 ∨ 26 ≤ p.column ∨ p.row < 0 := by
  have positive : (0 : Int) < 10 ^ digitLimit := Int.pow_pos (by decide)
  have unwritten : (⟨0, 10 ^ digitLimit - 1⟩ : Position).label = .error .tooLongToWrite := by
    refine label_eq_error_iff.mpr (.inr ⟨hasLabel_iff.mpr ⟨by decide, ?_⟩, ?_, rfl⟩)
    · exact Int.le_sub_one_of_lt positive
    · simp [WritableRow]
  refine ⟨unwritten, fun only => ?_⟩
  rcases (only _).mp ⟨_, unwritten⟩ with left | right | above
  · cases left
  · exact absurd right (by decide)
  · exact absurd (Int.le_sub_one_of_lt positive) (Int.not_le.mpr above)

end Position

end Spreadsheet
