import Spreadsheet.Proofs.Program.Bounds
import Spreadsheet.Proofs.Sheet.Reentry

/-!
# All numbers of a sheet are of 64 bits

What is typed into a sheet is looked at when it enters: an integer is refused outside the range, a
text that spells such an integer stays a text, and a formula with such a literal does not compile.
Results are looked at operation by operation. Reading a cell is not looked at, so a formula calculates
within the range only if the cells do that it reads; and these may be formulas in turn (`Bounded`).

* `Bounded.fits_valueAt`: what a bounded sheet shows is in the range.
* `Bounded.fits_of_evaluate`: so is what a compiled formula gives on it.
* `Bounded.step`: every operation that is handed no cell keeps the sheet bounded.
* `int64_of_typedIn`: so every number is in the range after every history of them.
-/

namespace Spreadsheet

open Spreadsheet.Text

/-! ## 1. What a text enters -/

theorem Expression.fits_of_compile {text : Text} {e : Expression} (h : compile text = .ok e) :
    ∀ program ∈ e.program, program.Fits := by
  intro program compiled n literal
  obtain ⟨nonneg, small⟩ := literal_of_compile h compiled literal
  have least : int64Min ≤ 0 := by decide
  exact fitsInt64_iff.mpr ⟨least.trans nonneg, small⟩

namespace Cell

variable {e : Expression} {r : Result} {n : Int}

/-- A number that can be entered again is of 64 bits. -/
theorem Enterable.fits (h : (Cell.number n).Enterable) : fitsInt64 n = true := by
  rcases ofEntry_cases h.2 with ⟨e, -, same⟩ | ⟨-, same⟩ | same | ⟨m, fits, same⟩
  · cases same
  · cases same
  · cases same
  · cases same
    exact fits

/-- A formula that can be entered again is what its text compiles to. -/
theorem Enterable.compiled (h : (Cell.formula e r).Enterable) :
    Expression.compile e.text = .ok e := by
  rcases ofEntry_cases h.2 with ⟨e', compiled, same⟩ | ⟨-, same⟩ | same | ⟨m, -, same⟩
  · cases same
    exact compiled
  · cases same
  · cases same
  · cases same

end Cell

namespace Sheet

variable {s s' : Sheet} {p : Position} {e : Expression} {c c' : Cell} {command : Command} {n : Int}

/-! ## 2. The invariant -/

/-- Every cell can be entered again, and every number that a formula holds is of 64 bits. -/
structure Bounded (s : Sheet) : Prop extends s.Entered where
  results : ∀ p e n, s.cellAt p = .formula e (.value n) → fitsInt64 n = true

theorem bounded_fresh (config : SheetConfig) : (fresh config).Bounded where
  toEntered := entered_fresh config
  results p e n stored := by cases stored

/-- The formulas of a sheet are what their texts compile to. -/
theorem Entered.compiled {r : Result} (h : s.Entered) (stored : s.cellAt p = .formula e r) :
    Expression.compile e.text = .ok e :=
  Cell.Enterable.compiled (stored ▸ h.cells p)

/-- **What a bounded sheet shows is of 64 bits.** -/
theorem Bounded.fits_valueAt (h : s.Bounded) : Source.Fits s.valueAt := by
  intro p n shown
  unfold valueAt at shown
  split at shown
  · cases stored : s.cellAt p with
    | number m =>
      rw [stored] at shown
      cases shown
      exact Cell.Enterable.fits (stored ▸ h.cells p)
    | formula e r =>
      rw [stored] at shown
      cases r with
      | value m =>
        cases shown
        exact h.results p e n stored
      | error _ => cases shown
    | empty =>
      rw [stored] at shown
      cases shown
    | text t =>
      rw [stored] at shown
      cases shown
  · cases shown

/-- **What a compiled formula gives on a bounded sheet is of 64 bits.** -/
theorem Bounded.fits_of_evaluate (h : s.Bounded) (compiled : Expression.compile e.text = .ok e)
    (evaluated : s.evaluate e = .ok (.value n)) : fitsInt64 n = true := by
  have ended := (result_of_evaluate evaluated).symm
  refine Program.fits_of_execute (Expression.fits_of_compile compiled) ?_ ended
  intro values given
  cases given
  exact h.fits_valueAt

/-! ## 3. Every history -/

/-- A formula that was put at a place holds a number of 64 bits, if it holds one. -/
theorem Bounded.placed (h : s.Bounded) (enterable : c.Enterable) (placed : Placed s p c c')
    (holds : c' = .formula e (.value n)) : fitsInt64 n = true := by
  cases placed with
  | plain _ noFormula => exact absurd holds (noFormula e _)
  | rejected => cases holds
  | evaluated e' r result ok =>
    cases holds
    exact h.fits_of_evaluate enterable.compiled ok

/-- **Evaluating a reader again keeps the sheet bounded.** -/
theorem Bounded.refresh (h : s.Bounded) (p : Position) : (s.refresh p).1.Bounded where
  cells q := (h.cells q).congr (s.contents_refresh p q)
  faithful := (s.onlyCells_refresh p).cache ▸ h.faithful
  results q e n stored := by
    rcases s.cellAt_refresh p q with same | ⟨e', before, after, stored', evaluated, renewed⟩
    · exact h.results q e n (same ▸ stored)
    · rw [renewed] at stored
      cases stored
      exact h.fits_of_evaluate (h.compiled stored') evaluated

/-- **Every operation that is handed no cell keeps the sheet bounded.** -/
theorem Bounded.step (h : s.Bounded) (typed : command.Typed) (step : Step s command s') :
    s'.Bounded where
  toEntered := h.toEntered.step typed step
  results q e n stored := by
    cases step with
    | kept => exact h.results q e n stored
    | inserted _ _ p c cache outcome _ _ offered after inserted =>
      have start : ({ s with cache := cache } : Sheet).Bounded :=
        ⟨⟨h.cells, after.faithful h.faithful⟩, h.results⟩
      rcases placed_inserted inserted q with same | ⟨-, placed⟩
      · exact h.results q e n (same.symm.trans stored)
      · -- also a copied formula is evaluated anew
        exact start.placed (h.toEntered.offered typed offered) placed stored
    | recalculated keys =>
      -- each formula is evaluated on what those before it left, so all sheets in between are bounded
      have again : (s.recalculate keys).1.Bounded :=
        recalculate_kept Bounded h (fun t p bounded => bounded.refresh p) keys
      exact again.results q e n stored

theorem TypedIn.bounded (h : s.TypedIn) : s.Bounded := by
  obtain ⟨config, commands, typed, rfl⟩ := h
  exact run_invariant Bounded (bounded_fresh config) typed fun s c h typed =>
    h.step typed (s.step_perform c typed.1)

/-- **All numbers are of 64 bits.** On a sheet into which everything was typed every position shows no
    number or one of 64 bits; so does every formula, whether its place can be asked or not; and the
    literals of its formulas, and of the expressions that it keeps, are numbers without sign of 64
    bits. That formulas calculate within the range they owe to their operations: a program whose
    literals are of 64 bits gives an error or a number of 64 bits on every source that finds no other
    numbers, and of its divisions one only overflows, that of the least number by -1. -/
theorem int64_of_typedIn (s : Sheet) (typed : s.TypedIn) :
    (∀ key p, key.position = .ok p →
      s.value key = .ok none ∨ ∃ n, s.value key = .ok (some n) ∧ fitsInt64 n = true) ∧
    (∀ p e n, s.cellAt p = .formula e (.value n) → fitsInt64 n = true) ∧
    (∀ e, ((∃ p r, s.cellAt p = .formula e r) ∨ ∃ text, s.cache.find? text = some e) →
      ∀ program n, e.program = some program → Instruction.operand (.number n) ∈ program →
        0 ≤ n ∧ n ≤ int64Max) ∧
    (∀ (program : Option Program) (source : Option Source),
      (∀ instructions ∈ program, instructions.Fits) → (∀ values ∈ source, values.Fits) →
      (∃ e, (Program.execute program source).result = .error e) ∨
        ∃ n, (Program.execute program source).result = .value n ∧ fitsInt64 n = true) ∧
    ∀ (source : Option Source) (before later : Program) (left right : Int) (stack : List Int),
      Program.Fits (before ++ .operator .div :: later) → (∀ values ∈ source, values.Fits) →
      Program.stackAfter source before [] = .ok (right :: left :: stack) →
      (Program.step source (.operator .div) (right :: left :: stack) = .error .overflow ↔
        left = int64Min ∧ right = -1) := by
  have bounded := typed.bounded
  refine ⟨?_, bounded.results, ?_, ?_, ?_⟩
  · intro key p named
    have asked : s.value key = .ok (s.valueAt p) := by
      unfold value
      rw [named]
      rfl
    rw [asked]
    cases shown : s.valueAt p with
    | none => exact .inl rfl
    | some n => exact .inr ⟨n, rfl, bounded.fits_valueAt p n shown⟩
  · intro e stored program n compiled literal
    rcases stored with ⟨p, r, stored⟩ | ⟨text, kept⟩
    · exact Expression.literal_of_compile (bounded.compiled stored) compiled literal
    · exact Expression.literal_of_compile (bounded.faithful text e kept) compiled literal
  · intro program source literals cells
    cases ended : (Program.execute program source).result with
    | error e => exact .inl ⟨e, rfl⟩
    | value n => exact .inr ⟨n, rfl, Program.fits_of_execute literals cells ended⟩
  · intro source before later left right stack literals cells reached
    exact Program.step_div_eq_overflow_iff literals cells reached

/-- A1 becomes the least number of all and A2 becomes -1; B1 divides one by the other, C1 subtracts and
    is entered again at D1; A3 may not become a smaller number. -/
def leastNumber : List Command :=
  [.set (.label (ofString "A1")) (.text (ofString "-9223372036854775808")),
    .set (.label (ofString "A2")) (.int (-1)),
    .set (.label (ofString "B1")) (.text (ofString "=A1/A2")),
    .set (.label (ofString "C1")) (.text (ofString "=A1-A2")),
    .reenter (.label (ofString "C1")) (.label (ofString "D1")),
    .set (.label (ofString "A3")) (.int (-9223372036854775809)),
    .recalculate [.label (ofString "A1")]]

/-- The least number of all and -1, calculated. -/
def leastAndMinusOne : Program :=
  [.operand (.number 0), .operand (.number 9223372036854775807), .operator .sub,
    .operand (.number 1), .operator .sub, .operand (.number 0), .operand (.number 1),
    .operator .sub]

/-- The general statement at this history, where B1 shows no number, and at this division, which
    overflows. -/
theorem int64_of_typedIn_least_number :
    (∀ c ∈ leastNumber, c.Typed) ∧
    ((fresh .standard).run leastNumber).value (.label (ofString "B1")) = .ok none ∧
    (∃ n, ((fresh .standard).run leastNumber).value (.label (ofString "D1")) = .ok (some n) ∧
      fitsInt64 n = true) ∧
    Program.stackAfter none leastAndMinusOne [] = .ok [-1, int64Min] ∧
    Program.step none (.operator .div) [-1, int64Min] = .error .overflow := by
  have typed : ∀ c ∈ leastNumber, c.Typed := by decide
  have shown : ((fresh .standard).run leastNumber).value (.label (ofString "D1")) =
      .ok (some (-9223372036854775807)) := by decide +kernel
  have literals : Program.Fits (leastAndMinusOne ++ [.operator .div]) := by
    intro n literal
    have numbers : n = 0 ∨ n = 9223372036854775807 ∨ n = 1 ∨ n = 0 ∨ n = 1 := by
      simpa [leastAndMinusOne] using literal
    rcases numbers with rfl | rfl | rfl | rfl | rfl <;> decide
  have reached : Program.stackAfter none leastAndMinusOne [] = .ok [-1, int64Min] := by decide
  obtain ⟨values, -, -, -, divisions⟩ :=
    int64_of_typedIn _ ⟨.standard, leastNumber, typed, rfl⟩
  refine ⟨typed, by decide +kernel, ?_, reached, ?_⟩
  · rcases values (.label (ofString "D1")) ⟨3, 0⟩ (by decide +kernel) with nothing | fits
    · rw [shown] at nothing
      cases nothing
    · exact fits
  · exact (divisions none leastAndMinusOne [] int64Min (-1) [] literals nofun reached).mpr ⟨rfl, rfl⟩

end Sheet

end Spreadsheet
