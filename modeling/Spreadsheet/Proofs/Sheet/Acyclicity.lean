import Spreadsheet.Proofs.Graph.Order
import Spreadsheet.Proofs.Sheet.Refresh

/-!
# The graph of a sheet is acyclic

Whatever is put into a sheet, its graph stays well-formed, simple and acyclic, and only places of the
grid read others (`Sound`). The old edges of a place are dropped before the test for loops and the
new ones are registered exactly when it passes, also where the evaluation then stops; so each outcome
of `Inserted` keeps the invariant (`Sound.inserted`), each operation does (`Sound.step`), and so does
every history (`sound_run`).

Recalculation then never meets a circle: the cells downstream of its roots come in an order of
evaluation (`recalculate_of_located`), and all that can stop it is a negative reference.
-/

namespace Spreadsheet

namespace Sheet

open Spreadsheet.Graph Spreadsheet.Text

variable {s s' : Sheet} {p : Position} {e : Expression} {c : Cell} {keys : List Key}

/-! ## 1. The invariant -/

/-- What the graph of a sheet is like as long as nobody edits it behind the back of the cells. -/
structure Sound (s : Sheet) : Prop where
  wellFormed : s.graph.WellFormed
  simple : s.graph.Simple
  acyclic : s.graph.Acyclic
  /-- Only places of the grid read others. -/
  inside : ∀ t r, s.graph.Edge t r → s.config.holds r = true

theorem sound_fresh (config : SheetConfig) : (fresh config).Sound where
  wellFormed := wellFormed_empty
  simple := simple_empty
  acyclic := acyclic_empty
  inside _ _ e := absurd e not_edge_empty

/-- The invariant speaks about the graph and the extents only. -/
theorem Sound.of_eq (h : s.Sound) (graph : s'.graph = s.graph) (config : s'.config = s.config) :
    s'.Sound := by
  refine ⟨graph ▸ h.wellFormed, graph ▸ h.simple, graph ▸ h.acyclic, ?_⟩
  intro t r e
  rw [config]
  exact h.inside t r (graph ▸ e)

theorem Sound.cleared (h : s.Sound) (p : Position) : (s.cleared p).Sound where
  wellFormed := h.wellFormed.clear p
  simple := h.simple.clear h.wellFormed p
  acyclic := h.acyclic.mono fun _ _ e => ((edge_clear h.wellFormed).mp e).1
  inside t r e := h.inside t r ((edge_clear h.wellFormed).mp e).1

/-- **A formula that passes the test is registered without closing a loop.** -/
theorem Sound.linked (h : s.Sound) (grid : s.config.holds p = true)
    (free : (s.graph.clear p).wouldCycle p e.references = false) : (s.linked p e).Sound where
  wellFormed := (h.wellFormed.clear p).registerAll e.references p
  simple := (h.cleared p).simple.registerAll e.references_nodup fun _ old =>
    ((edge_clear h.wellFormed).mp old).2 rfl
  acyclic := acyclic_of_added (h.cleared p).acyclic free fun _ _ => edge_registerAll.mp
  inside t r e := by
    rcases edge_registerAll.mp e with old | ⟨rfl, -⟩
    · exact (h.cleared p).inside t r old
    · exact grid

theorem Sound.inserted {outcome : Sheet × Except Fault Unit} (h : s.Sound)
    (grid : s.config.holds p = true) (inserted : Inserted s p c outcome) : outcome.1.Sound := by
  cases inserted with
  | plain => exact (h.cleared p).of_eq rfl rfl
  | rejected => exact (h.cleared p).of_eq rfl rfl
  | accepted e _ _ free => exact (h.linked grid free).of_eq rfl rfl
  | stopped e _ _ free => exact h.linked grid free

theorem holds_of_locate {key : Key} (h : s.locate key = .ok p) : s.config.holds p = true := by
  unfold locate at h
  split at h
  · cases h
  · split at h
    · rename_i grid
      cases h
      exact grid
    · cases h

/-- **Every operation other than an edit of the graph keeps the invariant.** -/
theorem Sound.step {command : Command} (h : s.Sound) (step : Step s command s') : s'.Sound := by
  cases step with
  | kept => exact h.of_eq rfl rfl
  | inserted _ key p c cache outcome _ located _ _ inserted =>
    have start : ({ s with cache := cache } : Sheet).Sound := h.of_eq rfl rfl
    exact start.inserted (holds_of_locate located) inserted
  | recalculated keys =>
    have only := s.onlyCells_recalculate keys
    exact h.of_eq only.graph only.config

/-- No operation changes the extents of the sheet. -/
theorem Step.config {command : Command} (step : Step s command s') : s'.config = s.config := by
  cases step with
  | kept => rfl
  | inserted _ _ _ _ _ _ _ _ _ _ inserted => cases inserted <;> rfl
  | recalculated keys => exact (s.onlyCells_recalculate keys).config

theorem config_run {commands : List Command} (s : Sheet)
    (own : ∀ c ∈ commands, c.editsGraph = false) : (s.run commands).config = s.config :=
  run_invariant (fun t => t.config = s.config) rfl own fun t c same own =>
    (t.step_perform c own).config.trans same

/-- **The invariant holds after every history.** -/
theorem sound_run (config : SheetConfig) {commands : List Command}
    (own : ∀ c ∈ commands, c.editsGraph = false) : ((fresh config).run commands).Sound :=
  run_invariant Sound (sound_fresh config) own fun s c h own => h.step (s.step_perform c own)

/-! ## 2. Roots -/

/-- Which place a key names depends on the extents only. -/
theorem locate_congr (config : s'.config = s.config) (key : Key) : s'.locate key = s.locate key := by
  unfold locate
  rw [config]

/-- One of the keys names the place. -/
def Names (s : Sheet) (keys : List Key) (p : Position) : Prop := ∃ key ∈ keys, s.locate key = .ok p

/-- The place is reached by one or more edges from one that a key names. -/
def Downstream (s : Sheet) (keys : List Key) (p : Position) : Prop :=
  ∃ k, s.Names keys k ∧ s.graph.Reaches k p

theorem contains_congr (config : s'.config = s.config) (key : Key) :
    s'.contains key = s.contains key := by
  unfold contains
  rw [config]

theorem contains_iff {key : Key} : s.contains key = true ↔ ∃ p, s.locate key = .ok p := by
  unfold contains locate
  cases key.position with
  | error fault => simp
  | ok p => by_cases grid : s.config.holds p = true <;> simp [grid]

theorem exists_roots (inside : ∀ key ∈ keys, s.contains key = true) :
    ∃ roots, keys.mapM s.locate = .ok roots := by
  induction keys with
  | nil => exact ⟨[], rfl⟩
  | cons key keys ih =>
    obtain ⟨here, later⟩ := List.forall_mem_cons.mp inside
    obtain ⟨p, located⟩ := contains_iff.mp here
    obtain ⟨roots, others⟩ := ih later
    refine ⟨p :: roots, ?_⟩
    rw [List.mapM_cons, located, others]
    rfl

theorem mem_roots {roots : List Position} (h : keys.mapM s.locate = .ok roots) :
    p ∈ roots ↔ s.Names keys p := by
  unfold Names
  induction keys generalizing roots with
  | nil =>
    cases h
    simp
  | cons key keys ih =>
    rw [List.mapM_cons] at h
    cases located : s.locate key with
    | error fault =>
      rw [located] at h
      cases h
    | ok q =>
      cases others : keys.mapM s.locate with
      | error fault =>
        rw [located, others] at h
        cases h
      | ok rest =>
        rw [located, others] at h
        cases h
        rw [List.mem_cons, ih others]
        simp [located, eq_comm]

/-! ## 3. Recalculation -/

/-- Keys that do not all name places of the grid leave the sheet as it is. -/
theorem recalculate_of_fault {fault : Fault} (h : keys.mapM s.locate = .error fault) :
    s.recalculate keys = (s, .error fault) := by
  unfold recalculate
  rw [h]

/-- **Recalculation evaluates the cells strictly downstream of its roots in an order of evaluation.** -/
theorem recalculate_of_located {roots : List Position} (sound : s.Sound)
    (located : keys.mapM s.locate = .ok roots) :
    ∃ cells, s.recalculate keys = ((s.refreshAll cells).1,
        (s.refreshAll cells).2.map fun deltas => ⟨roots, deltas, cells.length⟩) ∧
      cells.Nodup ∧ (∀ p, p ∈ cells ↔ ¬ s.Names keys p ∧ s.Downstream keys p) ∧
      cells.Pairwise fun p q => ¬ s.graph.Edge q p := by
  obtain ⟨cells, ok, nodup, member, ordered⟩ :=
    affected_of_acyclic sound.wellFormed sound.simple sound.acyclic roots
  refine ⟨cells, ?_, nodup, ?_, ordered⟩
  · unfold recalculate
    simp only [located, ok]
  · intro p
    simp only [member, mem_roots located, Downstream]

/-- What is strictly downstream lies inside the grid. -/
theorem Sound.holds_of_downstream (h : s.Sound) (reached : s.Downstream keys p) :
    s.config.holds p = true := by
  obtain ⟨k, -, path⟩ := reached
  obtain ⟨t, -, edge⟩ := path.last
  exact h.inside t p edge

/-- **All that stops a recalculation with keys of the grid is a negative reference.** -/
theorem negative_of_recalculate {fault : Fault} (sound : s.Sound)
    (inside : ∀ key ∈ keys, s.contains key = true)
    (stopped : (s.recalculate keys).2 = .error fault) :
    ∃ q, q.isNegative = true ∧ fault = (Fault.negativePosition q).raised := by
  obtain ⟨roots, located⟩ := exists_roots inside
  obtain ⟨cells, eq, -, member, -⟩ := recalculate_of_located sound located
  rw [eq] at stopped
  cases outcome : (s.refreshAll cells).2 with
  | ok deltas =>
    rw [outcome] at stopped
    cases stopped
  | error fault' =>
    rw [outcome] at stopped
    cases stopped
    have grid : ∀ p ∈ cells, s.config.holds p = true := fun p hp =>
      sound.holds_of_downstream ((member p).mp hp).2
    exact negative_of_refreshAll grid outcome

/-! ## 4. Every history -/

/-- **After every history the graph is acyclic, and recalculation never gets stuck:** both sides of
    the graph hold the same edges, none of them twice and none on a loop; only places of the grid
    read others; there is an order of evaluation; and a recalculation with keys of the grid is
    stopped by a negative reference or not at all. -/
theorem acyclic_run (config : SheetConfig) (commands : List Command)
    (own : ∀ c ∈ commands, c.editsGraph = false) :
    ((fresh config).run commands).graph.Acyclic ∧
    (∀ t r, r ∈ ((fresh config).run commands).graph.readersOf t ↔
      t ∈ ((fresh config).run commands).graph.readsOf r) ∧
    (∀ t, (((fresh config).run commands).graph.readersOf t).Nodup) ∧
    (∀ t r, r ∈ ((fresh config).run commands).graph.readersOf t → config.holds r = true) ∧
    (∃ order, ((fresh config).run commands).graph.evaluationOrder = .ok order) ∧
    ∀ keys, (∀ key ∈ keys, ((fresh config).run commands).contains key = true) →
      ∀ fault, (((fresh config).run commands).recalculate keys).2 = .error fault →
        ∃ q, q.isNegative = true ∧ fault = (Fault.negativePosition q).raised := by
  have sound := sound_run config own
  obtain ⟨order, ok, -⟩ :=
    evaluationOrder_of_acyclic sound.wellFormed sound.simple sound.acyclic
  have same : ((fresh config).run commands).config = config := config_run (fresh config) own
  refine ⟨sound.acyclic, sound.wellFormed.paired, sound.simple, ?_, ⟨order, ok⟩, ?_⟩
  · intro t r edge
    exact same ▸ sound.inside t r edge
  · intro keys inside fault stopped
    exact negative_of_recalculate sound inside stopped

/-- A1 adds A2, which is empty, and a place that does not exist, so it is stored before anybody looks
    at that place; then A2 may not read A1 and becomes a number instead. -/
def negativeLater : List Command :=
  [.insert (.cell (.formula ⟨ofString "=A2+?", some [.operand (.cell ⟨0, 1⟩),
      .operand (.cell ⟨-1, 0⟩), .operator .add]⟩ (.error .notExecuted))) (.label (ofString "A1")),
    .set (.label (ofString "A2")) (.text (ofString "=A1")),
    .set (.label (ofString "A2")) (.int 1)]

/-- The general statement at this history. Recalculating A2 is stopped by that place. -/
theorem acyclic_negative_later :
    (∀ c ∈ negativeLater, c.editsGraph = false) ∧
    ((fresh .standard).run negativeLater).graph.Acyclic ∧
    (∃ order, ((fresh .standard).run negativeLater).graph.evaluationOrder = .ok order) ∧
    (((fresh .standard).run negativeLater).recalculate [.label (ofString "A2")]).2 =
      .error (.negativePosition ⟨-1, 0⟩) ∧
    ∀ fault, (((fresh .standard).run negativeLater).recalculate [.label (ofString "A2")]).2 =
      .error fault → ∃ q, q.isNegative = true ∧ fault = (Fault.negativePosition q).raised := by
  have own : ∀ c ∈ negativeLater, c.editsGraph = false := by decide
  have inside : ∀ key ∈ [Key.label (ofString "A2")],
      ((fresh .standard).run negativeLater).contains key = true := by decide +kernel
  obtain ⟨acyclic, -, -, -, order, faults⟩ := acyclic_run .standard negativeLater own
  exact ⟨own, acyclic, order, by decide +kernel, faults _ inside⟩

end Sheet

end Spreadsheet
