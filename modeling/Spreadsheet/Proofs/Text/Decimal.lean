import Mathlib.Data.Nat.Digits.Defs
import Spreadsheet.Position.Basic

/-!
# Numbers short enough to be written

The digit limit as a bound on numbers: those can be written whose size is less than a power of ten
(`isWritable_iff`), and this power itself cannot (`isWritable_limit`). So there are positions that no
message can show (`Position.isWritable_far`).
-/

namespace Spreadsheet

namespace Text

/-- A number has so many digits at most when it is less than that power of ten. -/
theorem length_decimalDigits_le_iff {n k : Nat} (h : 0 < k) :
    (decimalDigits n).length ≤ k ↔ n < 10 ^ k :=
  Nat.length_toDigits_le_iff (by decide) h

/-- **An integer can be written when its size is less than a power of ten.** -/
theorem isWritable_iff {n : Int} : isWritable n = true ↔ n.natAbs < 10 ^ digitLimit := by
  rw [isWritable, decide_eq_true_iff, length_decimalDigits_le_iff (by decide)]

/-- The power itself has one digit too many. -/
theorem isWritable_limit : isWritable (10 ^ digitLimit) = false := by
  have size (k : Nat) : (10 ^ k : Int).natAbs = 10 ^ k := Int.natAbs_pow 10 k
  refine Bool.eq_false_iff.mpr fun writable => ?_
  have less := isWritable_iff.mp writable
  rw [size] at less
  exact Nat.lt_irrefl _ less

end Text

/-- A position so far down cannot be told. -/
theorem Position.isWritable_far (column : Int) :
    (⟨column, 10 ^ Text.digitLimit⟩ : Position).isWritable = false := by
  rw [Position.isWritable, Text.isWritable_limit, Bool.and_false]

end Spreadsheet
