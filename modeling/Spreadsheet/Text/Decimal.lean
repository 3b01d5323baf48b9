/-!
# Decimal numerals

How integers are written, and the value of a run of digits. Digits are the ten of ASCII. The two
statements that matter are that reading undoes writing (`digitsValue_decimalDigits`), and that a
run of digits without a leading zero is the written form of its value
(`decimalDigits_digitsValue`).

A run of more than `digitLimit` digits is not converted to a number, and a number of more digits is
not written (`isWritable`), neither as a label or an entry nor inside a message; the limit is a
safeguard against conversions of quadratic cost.
-/

namespace Spreadsheet.Text

/-! ## 1. Digits of a natural number -/

/-- The longest run of digits that is converted, from a number or to one. -/
def digitLimit : Nat := 4300

/-- The digits of a natural number, most significant first. -/
def decimalDigits (n : Nat) : List Char := Nat.toDigits 10 n

/-- The number that a run of digits stands for; leading zeros count for nothing. -/
def digitsValue (run : List Char) : Nat := Nat.ofDigitChars 10 run 0

/-- **Reading back what was written gives the number that was written.** -/
theorem digitsValue_decimalDigits (n : Nat) : digitsValue (decimalDigits n) = n :=
  Nat.ofDigitChars_ten_toDigits

theorem isDigit_of_mem_decimalDigits {n : Nat} {c : Char} (h : c ∈ decimalDigits n) :
    c.isDigit = true :=
  Nat.isDigit_of_mem_toDigits (by omega) (by omega) h

theorem decimalDigits_ne_nil (n : Nat) : decimalDigits n ≠ [] := Nat.toDigits_ne_nil

theorem digitChar_of_isDigit {c : Char} (h : c.isDigit = true) :
    (c.toNat - 48).digitChar = c := by
  have h' : 48 ≤ c.toNat ∧ c.toNat ≤ 57 := Char.isDigit_iff_toNat.1 h
  apply Char.toNat_inj.1
  rw [Nat.toNat_digitChar_of_lt_ten (by omega)]
  omega

/-- Digits that follow a positive number are written after it. -/
theorem toDigits_ofDigitChars {run : List Char} (hd : ∀ c ∈ run, c.isDigit = true) {n : Nat}
    (hn : 0 < n) : Nat.toDigits 10 (Nat.ofDigitChars 10 run n) = Nat.toDigits 10 n ++ run := by
  induction run generalizing n with
  | nil => simp
  | cons c run ih =>
    have hc := hd c (by simp)
    have h' : 48 ≤ c.toNat ∧ c.toNat ≤ 57 := Char.isDigit_iff_toNat.1 hc
    have h48 : '0'.toNat = 48 := rfl
    rw [Nat.ofDigitChars_cons, ih (fun d hd' => hd d (by simp [hd'])) (by omega), h48,
      ← Nat.toDigits_append_toDigits (by omega) hn (by omega : c.toNat - 48 < 10),
      Nat.toDigits_of_lt_base (by omega : c.toNat - 48 < 10), digitChar_of_isDigit hc]
    simp

/-- **A run of digits without a leading zero is the written form of its value.** -/
theorem decimalDigits_digitsValue {c : Char} {run : List Char} (hc : c.isDigit = true)
    (h0 : c ≠ '0') (hd : ∀ d ∈ run, d.isDigit = true) :
    decimalDigits (digitsValue (c :: run)) = c :: run := by
  have h' : 48 ≤ c.toNat ∧ c.toNat ≤ 57 := Char.isDigit_iff_toNat.1 hc
  have h48 : '0'.toNat = 48 := rfl
  have hne : c.toNat ≠ 48 := fun e => h0 (Char.toNat_inj.1 e)
  have hv : 10 * 0 + (c.toNat - '0'.toNat) = c.toNat - 48 := by omega
  rw [digitsValue, decimalDigits, Nat.ofDigitChars_cons, hv,
    toDigits_ofDigitChars hd (by omega), Nat.toDigits_of_lt_base (by omega),
    digitChar_of_isDigit hc]
  simp

/-! ## 2. Integers -/

/-- An integer in decimal, with a minus sign when it is negative. -/
def decimal : Int → String
  | .ofNat n => String.ofList (decimalDigits n)
  | .negSucc n => String.ofList ('-' :: decimalDigits (n + 1))

/-- **Whether an integer is short enough to be written;** its sign does not count. -/
def isWritable (n : Int) : Bool := decide ((decimalDigits n.natAbs).length ≤ digitLimit)

end Spreadsheet.Text
