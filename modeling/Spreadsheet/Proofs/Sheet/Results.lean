import Spreadsheet.Proofs.Sheet.History

/-!
# Stored results are real

A formula may be handed to a sheet with any result. What is stored is another one: what the formula
gives on the sheet, or that it is cyclic (`Expression.CanHold`). A formula that did not compile has no
references, and on an acyclic graph a formula without references closes no loop, so only one with
references is stored as cyclic (`Linked.references_of_loop`); and it is the one sort of formula with
references that has no edges.

A cyclic formula is not evaluated again, for nothing leads to it (`Linked.cellAt_step_of_rejected`).
It stays until its own place is written (`results_of_reached`).
-/

namespace Spreadsheet

/-! ## 1. Results that a formula can hold -/

namespace Expression

variable {e : Expression} {r : Result}

/-- The result is that of a run on some source, or tells a formula with references that it is
    cyclic. -/
def CanHold (e : Expression) (r : Result) : Prop :=
  (∃ values, r = (e.execute (some values)).result) ∨ (r = .error .cyclic ∧ e.references ≠ [])

theorem program_of_references (h : e.references ≠ []) : e.program ≠ none := by
  intro uncompiled
  rw [references, uncompiled] at h
  exact h rfl

/-- **The errors that a formula can hold:** that it did not compile, if it did not, and otherwise that
    it is cyclic or that a run failed. -/
theorem CanHold.error {err : ErrorValue} (h : e.CanHold (.error err)) :
    (err = .compile ∧ e.program = none) ∨
      (e.program ≠ none ∧ (err = .cyclic ∨ Program.Runtime err)) := by
  rcases h with ⟨values, ran⟩ | ⟨cyclic, reads⟩
  · by_cases compiled : e.program = none
    · rw [execute_of_uncompiled compiled] at ran
      cases ran
      exact .inl ⟨rfl, compiled⟩
    · exact .inr ⟨compiled, .inr (runtime_of_execute compiled ran.symm)⟩
  · cases cyclic
    exact .inr ⟨program_of_references reads, .inl rfl⟩

/-- A formula holds neither that it was not evaluated nor that there was nothing to read cells from. -/
theorem CanHold.evaluated (h : e.CanHold r) :
    r ≠ .error .notExecuted ∧ r ≠ .error .notImplemented := by
  have other : ∀ err, r = .error err → err ≠ .notExecuted ∧ err ≠ .notImplemented := by
    intro err same
    subst same
    rcases h.error with ⟨rfl, -⟩ | ⟨-, rfl | rfl | rfl | rfl | rfl⟩ <;> decide
  exact ⟨fun same => (other _ same).1 rfl, fun same => (other _ same).2 rfl⟩

theorem CanHold.compile_iff (h : e.CanHold r) : r = .error .compile ↔ e.program = none := by
  constructor
  · intro same
    subst same
    rcases h.error with ⟨-, uncompiled⟩ | ⟨-, same | same | same | same | same⟩
    · exact uncompiled
    all_goals cases same
  · intro uncompiled
    rcases h with ⟨values, ran⟩ | ⟨-, reads⟩
    · rw [ran, execute_of_uncompiled uncompiled]
    · exact absurd uncompiled (program_of_references reads)

end Expression

namespace Sheet

open Spreadsheet.Graph Spreadsheet.Text

variable {s s' : Sheet} {p : Position} {e : Expression} {c c' : Cell} {command : Command}
variable {r : Result}

/-! ## 2. The invariant -/

/-- Every stored formula has a result that it can hold. -/
def Resolved (s : Sheet) : Prop := ∀ p e r, s.cellAt p = .formula e r → e.CanHold r

theorem canHold_of_evaluate (evaluated : s.evaluate e = .ok r) : e.CanHold r :=
  .inl ⟨s.valueAt, result_of_evaluate evaluated⟩

/-- **Only a formula with references closes a loop:** without it the graph has none. -/
theorem Linked.references_of_loop (h : s.Linked)
    (loop : (s.graph.clear p).wouldCycle p e.references = true) : e.references ≠ [] := by
  intro none
  rw [none] at loop
  rcases wouldCycle_eq_true_iff.mp loop with own | ⟨q, path, same | own⟩
  · cases own
  · exact (h.toSound.cleared p).acyclic p (same ▸ path)
  · cases own

theorem Linked.canHold_of_placed (h : s.Linked) (placed : Placed s p c c')
    (holds : c' = .formula e r) : e.CanHold r := by
  cases placed with
  | plain _ noFormula => exact absurd holds (noFormula e r)
  | rejected _ _ loop =>
    cases holds
    exact .inr ⟨rfl, h.references_of_loop loop⟩
  | evaluated _ _ _ ok =>
    -- the result that the formula came with is not asked for
    cases holds
    exact canHold_of_evaluate ok

theorem Resolved.refresh (h : s.Resolved) (p : Position) : (s.refresh p).1.Resolved := by
  intro q e r stored
  rcases s.cellAt_refresh p q with same | ⟨e', before, after, -, evaluated, renewed⟩
  · exact h q e r (same.symm.trans stored)
  · rw [renewed] at stored
    cases stored
    exact canHold_of_evaluate evaluated

/-- **Every operation leaves results that formulas can hold,** whatever results it was handed. -/
theorem Resolved.step (h : s.Resolved) (linked : s.Linked) (step : Step s command s') :
    s'.Resolved := by
  cases step with
  | kept => exact h
  | inserted _ _ p c cache outcome _ _ _ after inserted =>
    intro q e r stored
    have start : ({ s with cache := cache } : Sheet).Linked := linked.kept after
    rcases placed_inserted inserted q with same | ⟨-, placed⟩
    · exact h q e r (same.symm.trans stored)
    · exact start.canHold_of_placed placed stored
  | recalculated keys =>
    exact recalculate_kept Resolved h (fun t p resolved => resolved.refresh p) keys

theorem Reached.resolved (h : s.Reached) : s.Resolved := by
  obtain ⟨config, commands, plain, rfl⟩ := h
  have start : (fresh config).Resolved := by
    intro p e r stored
    cases stored
  have both : ((fresh config).run commands).Linked ∧ ((fresh config).run commands).Resolved := by
    refine run_invariant (fun t => t.Linked ∧ t.Resolved) ⟨linked_fresh config, start⟩ plain ?_
    intro t command both plain
    obtain ⟨linked, resolved⟩ := both
    have step := t.step_perform command plain.1
    exact ⟨linked.step plain.2 step, resolved.step linked step⟩
  exact both.2

theorem acceptedAt?_of_rejectedAt (rejected : s.RejectedAt p) : s.acceptedAt? p = none := by
  obtain ⟨e, stored⟩ := rejected
  rw [acceptedAt?, stored]
  rfl

/-- **A stored formula is cyclic exactly if it has references and no edges.** -/
theorem Linked.cyclic_iff (h : s.Linked) (resolved : s.Resolved)
    (stored : s.cellAt p = .formula e r) :
    r = .error .cyclic ↔ e.references ≠ [] ∧ s.graph.reads.get? p = none := by
  constructor
  · intro same
    subst same
    -- a rejected formula is not accepted, so its place is none of those that are listed
    refine ⟨?_, h.agrees.reads_otherwise p ?_⟩
    · rcases resolved p e _ stored with ⟨values, ran⟩ | ⟨-, reads⟩
      · exact absurd ran.symm (e.execute_ne_cyclic values)
      · exact reads
    · intro e' accepted
      rw [acceptedAt?_of_rejectedAt ⟨e, stored⟩] at accepted
      cases accepted
  · intro both
    obtain ⟨reads, unlisted⟩ := both
    by_contra accepted
    obtain ⟨targets, listed, -⟩ :=
      h.agrees.reads_of_accepted p e (acceptedAt?_of_formula stored accepted) reads
    rw [unlisted] at listed
    cases listed

/-! ## 3. Cyclic formulas stay -/

/-- The place is the one that the operation writes. -/
def Targets (s : Sheet) (command : Command) (p : Position) : Prop :=
  command.target?.map s.locate = some (.ok p)

instance (s : Sheet) (command : Command) (p : Position) : Decidable (s.Targets command p) :=
  inferInstanceAs (Decidable (_ = _))

theorem targets_congr (config : s'.config = s.config) :
    s'.Targets command p ↔ s.Targets command p := by
  have same : s'.locate = s.locate := funext (locate_congr config)
  unfold Targets
  rw [same]

/-- Nothing leads to a rejected formula. -/
theorem Linked.not_downstream_of_rejected {keys : List Key} (h : s.Linked)
    (rejected : s.RejectedAt p) : ¬ s.Downstream keys p := by
  intro downstream
  obtain ⟨-, e, accepted, -⟩ := h.evaluable_of_downstream downstream
  rw [acceptedAt?_of_rejectedAt rejected] at accepted
  cases accepted

/-- **A rejected formula is left as it is by every operation that does not write its place.** -/
theorem Linked.cellAt_step_of_rejected (h : s.Linked) (rejected : s.RejectedAt p)
    (apart : ¬ s.Targets command p) (step : Step s command s') : s'.cellAt p = s.cellAt p := by
  cases step with
  | kept => rfl
  | inserted _ key q c cache outcome target located _ _ inserted =>
    rcases placed_inserted inserted p with same | ⟨here, -⟩
    · exact same
    · refine absurd ?_ apart
      rw [Targets, target, here]
      exact congrArg some located
  | recalculated keys =>
    cases located : keys.mapM s.locate with
    | error fault => rw [recalculate_of_fault located]
    | ok roots =>
      exact h.cellAt_recalculate located fun downstream =>
        absurd downstream (h.not_downstream_of_rejected rejected)

/-- **So it is by every history of them.** -/
theorem Linked.cellAt_run_of_rejected {later : List Command} (h : s.Linked)
    (rejected : s.RejectedAt p) (apart : ∀ c ∈ later, c.Plain ∧ ¬ s.Targets c p) :
    (s.run later).cellAt p = s.cellAt p := by
  have kept : (s.run later).Linked ∧ (s.run later).config = s.config ∧
      (s.run later).cellAt p = s.cellAt p := by
    refine run_invariant (fun t => t.Linked ∧ t.config = s.config ∧ t.cellAt p = s.cellAt p)
      ⟨h, rfl, rfl⟩ apart ?_
    intro t command here allowed
    obtain ⟨linked, config, same⟩ := here
    obtain ⟨plain, apart⟩ := allowed
    have step := t.step_perform command plain.1
    have still : t.RejectedAt p := by
      unfold RejectedAt
      rw [same]
      exact rejected
    have apart' : ¬ t.Targets command p := fun targets => apart ((targets_congr config).mp targets)
    exact ⟨linked.step plain.2 step, step.config.trans config,
      (linked.cellAt_step_of_rejected still apart' step).trans same⟩
  exact kept.2.2

/-- **The results that a sheet stores are real,** after every history of operations that neither edit
    the graph nor are handed a negative reference, whatever results the formulas that they were handed
    had. No stored formula tells that it was not evaluated or that there was nothing to read cells from;
    one tells that it did not compile exactly if it has no program, and that it is cyclic exactly if it
    has references and its place is not listed as a reader. And a cyclic formula is left as it is,
    edits elsewhere and recalculations of any keys included, until an operation writes its own
    place. -/
theorem results_of_reached (s : Sheet) (reached : s.Reached) :
    (∀ p e r, s.cellAt p = .formula e r →
      r ≠ .error .notExecuted ∧ r ≠ .error .notImplemented ∧
      (r = .error .compile ↔ e.program = none) ∧
      (r = .error .cyclic ↔ e.references ≠ [] ∧ s.graph.reads.get? p = none)) ∧
    ∀ p, s.RejectedAt p → ∀ later : List Command,
      (∀ c ∈ later, c.Plain ∧ ¬ s.Targets c p) → (s.run later).cellAt p = s.cellAt p := by
  have linked := reached.linked
  have resolved := reached.resolved
  constructor
  · intro p e r stored
    have holds := resolved p e r stored
    obtain ⟨executed, implemented⟩ := holds.evaluated
    exact ⟨executed, implemented, holds.compile_iff, linked.cyclic_iff resolved stored⟩
  · intro p rejected later apart
    exact linked.cellAt_run_of_rejected rejected apart

/-- A1 reads B1, so B1 may not read A1, though it comes with a number; C1 did not compile, though it
    comes as cyclic. -/
def presetResults : List Command :=
  [.set (.label (ofString "A1")) (.text (ofString "=B1")),
    .insert (.cell (.formula ⟨ofString "=A1", some [.operand (.cell ⟨0, 0⟩)]⟩ (.value 7)))
      (.label (ofString "B1")),
    .set (.label (ofString "C1")) (.cell (.formula ⟨ofString "=?", none⟩ (.error .cyclic)))]

/-- A1 no longer reads B1, which is a key of the recalculation and is copied. -/
def loopGone : List Command :=
  [.set (.label (ofString "A1")) (.int 5),
    .recalculate [.label (ofString "A1"), .label (ofString "B1")],
    .copy (.label (ofString "B1")) (.label (ofString "B2")),
    .reenter (.label (ofString "B1")) (.label (ofString "B99"))]

/-- The general statement at these histories: B1 has no edges and stays cyclic, its copy is accepted. -/
theorem results_of_reached_preset :
    (∀ c ∈ presetResults, c.Plain) ∧
    ((fresh .standard).run presetResults).RejectedAt ⟨1, 0⟩ ∧
    ((fresh .standard).run presetResults).graph.reads.get? ⟨1, 0⟩ = none ∧
    ((fresh .standard).run presetResults).cellAt ⟨2, 0⟩ =
      .formula ⟨ofString "=?", none⟩ (.error .compile) ∧
    (∀ c ∈ loopGone, c.Plain ∧ ¬ ((fresh .standard).run presetResults).Targets c ⟨1, 0⟩) ∧
    (((fresh .standard).run presetResults).run loopGone).cellAt ⟨1, 0⟩ =
      .formula ⟨ofString "=A1", some [.operand (.cell ⟨0, 0⟩)]⟩ (.error .cyclic) ∧
    (((fresh .standard).run presetResults).run loopGone).cellAt ⟨1, 1⟩ =
      .formula ⟨ofString "=A1", some [.operand (.cell ⟨0, 0⟩)]⟩ (.value 5) := by
  have plain : ∀ c ∈ presetResults, c.Plain := by decide
  have stored : ((fresh .standard).run presetResults).cellAt ⟨1, 0⟩ =
      .formula ⟨ofString "=A1", some [.operand (.cell ⟨0, 0⟩)]⟩ (.error .cyclic) := by
    decide +kernel
  have rejected : ((fresh .standard).run presetResults).RejectedAt ⟨1, 0⟩ := ⟨_, stored⟩
  have apart : ∀ c ∈ loopGone,
      c.Plain ∧ ¬ ((fresh .standard).run presetResults).Targets c ⟨1, 0⟩ := by decide +kernel
  obtain ⟨results, kept⟩ := results_of_reached _ ⟨.standard, presetResults, plain, rfl⟩
  obtain ⟨-, -, -, cyclic⟩ := results _ _ _ stored
  exact ⟨plain, rejected, (cyclic.mp rfl).2, by decide +kernel, apart,
    (kept _ rejected loopGone apart).trans stored, by decide +kernel⟩

end Sheet

end Spreadsheet
