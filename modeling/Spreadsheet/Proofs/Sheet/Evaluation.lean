import Spreadsheet.Proofs.Expression.References
import Spreadsheet.Proofs.Sheet.Step

/-!
# Formulas of a sheet and their results

A formula stored at a place is accepted unless its result says that it is cyclic (`acceptedAt?`),
and the accepted formula of a place is current when it holds what its expression gives on the sheet
as it stands (`CurrentAt`). Evaluation looks at the references only (`evaluate_congr`) and stops for
a negative one only (`negative_of_evaluate`); without one it always has a result
(`evaluate_of_nonNegative`).
-/

namespace Spreadsheet

/-- The expression of a formula, unless it was rejected as cyclic. -/
def Cell.accepted? : Cell → Option Expression
  | .formula e r => if r = .error .cyclic then none else some e
  | _ => none

theorem Cell.accepted?_eq_some_iff {c : Cell} {e : Expression} :
    c.accepted? = some e ↔ ∃ r, c = .formula e r ∧ r ≠ .error .cyclic := by
  unfold accepted?
  cases c with
  | formula e' r =>
    by_cases cyclic : r = .error .cyclic
    · simp [cyclic]
    · simp only [if_neg cyclic, Option.some.injEq, formula.injEq]
      exact ⟨fun same => ⟨r, ⟨same, rfl⟩, cyclic⟩, fun ⟨_, ⟨same, _⟩, _⟩ => same⟩
  | _ => simp

theorem Cell.accepted?_of_plain {c : Cell} (h : ∀ e r, c ≠ .formula e r) : c.accepted? = none := by
  cases c with
  | formula e r => exact absurd rfl (h e r)
  | _ => rfl

namespace Sheet

variable {s s' : Sheet} {p : Position} {e : Expression}

/-! ## 1. Accepted formulas -/

/-- The expression of the formula at a place, unless the formula was rejected as cyclic. -/
def acceptedAt? (s : Sheet) (p : Position) : Option Expression := (s.cellAt p).accepted?

theorem acceptedAt?_eq_some_iff :
    s.acceptedAt? p = some e ↔ ∃ r, s.cellAt p = .formula e r ∧ r ≠ .error .cyclic :=
  Cell.accepted?_eq_some_iff

theorem acceptedAt?_of_formula {r : Result} (h : s.cellAt p = .formula e r)
    (accepted : r ≠ .error .cyclic) : s.acceptedAt? p = some e :=
  acceptedAt?_eq_some_iff.mpr ⟨r, h, accepted⟩

theorem acceptedAt?_congr (h : s'.cellAt p = s.cellAt p) : s'.acceptedAt? p = s.acceptedAt? p :=
  congrArg Cell.accepted? h

theorem acceptedAt?_store (s : Sheet) (p q : Position) (c : Cell) :
    (s.store p c).acceptedAt? q = if q = p then c.accepted? else s.acceptedAt? q := by
  unfold acceptedAt?
  rw [cellAt_store]
  split <;> rfl

/-! ## 2. Evaluation -/

theorem valueAt_congr (config : s'.config = s.config) (h : s'.cellAt p = s.cellAt p) :
    s'.valueAt p = s.valueAt p := by
  unfold valueAt
  rw [config, h]

/-- **Sheets that show the same numbers at the references give the same result.** -/
theorem evaluate_congr (same : ∀ t ∈ e.references, s'.valueAt t = s.valueAt t) :
    s'.evaluate e = s.evaluate e := by
  unfold evaluate
  rw [Expression.execute_congr same]

/-- **Evaluation stops exactly where a negative position is asked for,** and tells the first one. -/
theorem evaluate_eq_error_iff {fault : Fault} :
    s.evaluate e = .error fault ↔
      ∃ q, (e.execute (some s.valueAt)).reads.find? Position.isNegative = some q ∧
        fault = (Fault.negativePosition q).raised := by
  unfold evaluate
  cases found : (e.execute (some s.valueAt)).reads.find? Position.isNegative with
  | none =>
    simp only [found]
    simp
  | some q =>
    simp only [found]
    simp [eq_comm]

/-- Evaluation stops for a negative reference only. -/
theorem negative_of_evaluate {fault : Fault} (h : s.evaluate e = .error fault) :
    ∃ p ∈ e.references, p.isNegative = true ∧ fault = (Fault.negativePosition p).raised := by
  obtain ⟨p, found, same⟩ := evaluate_eq_error_iff.mp h
  have read := List.mem_of_find?_eq_some found
  exact ⟨p, Expression.mem_references_of_mem_reads read, List.find?_some found, same⟩

/-- An expression that gives a result gives that of its run. -/
theorem result_of_evaluate {r : Result} (h : s.evaluate e = .ok r) :
    r = (e.execute (some s.valueAt)).result := by
  unfold evaluate at h
  cases found : (e.execute (some s.valueAt)).reads.find? Position.isNegative with
  | none =>
    simp only [found] at h
    cases h
    rfl
  | some p =>
    simp only [found] at h
    cases h

/-- **Without a negative reference there is always a result.** -/
theorem evaluate_of_nonNegative (h : e.nonNegative = true) : ∃ r, s.evaluate e = .ok r := by
  cases evaluated : s.evaluate e with
  | ok r => exact ⟨r, rfl⟩
  | error fault =>
    obtain ⟨p, hp, negative, -⟩ := negative_of_evaluate evaluated
    rw [Expression.nonNegative_iff.mp h p hp] at negative
    cases negative

theorem evaluate_ne_error (h : e.nonNegative = true) (fault : Fault) :
    s.evaluate e ≠ .error fault := by
  obtain ⟨r, ok⟩ := evaluate_of_nonNegative (s := s) h
  rw [ok]
  exact nofun

/-- Evaluation never finds a formula cyclic. -/
theorem ne_cyclic_of_evaluate {r : Result} (h : s.evaluate e = .ok r) : r ≠ .error .cyclic :=
  result_of_evaluate h ▸ e.execute_ne_cyclic s.valueAt

/-! ## 3. Current formulas -/

/-- The formula at a place, if it was accepted, holds what its expression gives on the sheet as it
    stands. -/
def CurrentAt (s : Sheet) (p : Position) : Prop :=
  ∀ e r, s.cellAt p = .formula e r → r ≠ .error .cyclic → s.evaluate e = .ok r

/-- Every accepted formula of the sheet is current. -/
def Current (s : Sheet) : Prop := ∀ p, s.CurrentAt p

/-- **A formula stays current while its place and the places that it reads stay as they are.** -/
theorem CurrentAt.congr (h : s.CurrentAt p) (config : s'.config = s.config)
    (here : s'.cellAt p = s.cellAt p)
    (reads : ∀ e, s.acceptedAt? p = some e → ∀ t ∈ e.references, s'.cellAt t = s.cellAt t) :
    s'.CurrentAt p := by
  intro e r stored accepted
  rw [here] at stored
  have same : s'.evaluate e = s.evaluate e := evaluate_congr fun t ht =>
    valueAt_congr config (reads e (acceptedAt?_of_formula stored accepted) t ht)
  rw [same]
  exact h e r stored accepted

end Sheet

end Spreadsheet
