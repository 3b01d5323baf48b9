import Spreadsheet.Proofs.Sheet.Acyclicity
import Spreadsheet.Proofs.Sheet.NonNegative

/-!
# Cells and graph agree

On a sheet that was handed no negative reference the graph holds exactly the reads of the accepted
formulas that stand in the cells (`Linked`). Each operation keeps it so: an insertion replaces the
edges of one place together with its cell (`Linked.inserted`), and recalculation renews the results
of accepted formulas, which stay accepted (`Linked.recalculate`).

`agrees_run` says what that means for the two maps of the graph, after every history.
-/

namespace Spreadsheet

namespace Sheet

open Spreadsheet.Graph Spreadsheet.Text

variable {s s' : Sheet} {p q : Position} {e : Expression} {c : Cell} {keys : List Key}

/-! ## 1. The invariant -/

/-- The graph holds the reads of the accepted formulas, and no formula reads a negative position. -/
structure Linked (s : Sheet) : Prop extends s.Sound where
  edges : ∀ t r, s.graph.Edge t r ↔ s.Reads r t
  nonNegative : s.NonNegative

theorem linked_fresh (config : SheetConfig) : (fresh config).Linked where
  toSound := sound_fresh config
  edges t r := by
    constructor
    · exact fun e => absurd e not_edge_empty
    · intro reads
      obtain ⟨e, accepted, -⟩ := reads
      cases accepted
  nonNegative := nonNegative_fresh config

theorem Linked.kept {widths : List Int} {cache : Cache} (h : s.Linked)
    (after : s.CacheAfter cache) : ({ s with widths := widths, cache := cache } : Sheet).Linked where
  toSound := h.toSound.of_eq rfl rfl
  edges := h.edges
  nonNegative := ⟨h.nonNegative.cells, h.nonNegative.cacheAfter after⟩

/-! ## 2. Insertion -/

theorem reads_store (s : Sheet) (p r t : Position) (c : Cell) :
    (s.store p c).Reads r t ↔
      (r = p ∧ ∃ e, c.accepted? = some e ∧ t ∈ e.references) ∨ (r ≠ p ∧ s.Reads r t) := by
  unfold Reads
  rw [acceptedAt?_store]
  by_cases here : r = p <;> simp [here]

theorem NonNegative.store (h : s.NonNegative) (p : Position) (nonNegative : c.nonNegative = true) :
    (s.store p c).NonNegative where
  cells q := by
    rw [cellAt_store]
    split
    · exact nonNegative
    · exact h.cells q
  kept := h.kept

/-- A cell that is not accepted leaves the place without edges. -/
theorem Linked.store_cleared (h : s.Linked) (p : Position) (unaccepted : c.accepted? = none)
    (nonNegative : c.nonNegative = true) : ((s.cleared p).store p c).Linked where
  toSound := (h.toSound.cleared p).of_eq rfl rfl
  edges t r := by
    show (s.graph.clear p).Edge t r ↔ ((s.cleared p).store p c).Reads r t
    rw [edge_clear h.wellFormed, h.edges, reads_store, unaccepted]
    constructor
    · exact fun ⟨old, other⟩ => .inr ⟨other, old⟩
    · intro reads
      rcases reads with ⟨-, e, accepted, -⟩ | ⟨other, old⟩
      · cases accepted
      · exact ⟨old, other⟩
  nonNegative :=
    NonNegative.store (s := s.cleared p) ⟨h.nonNegative.cells, h.nonNegative.kept⟩ p nonNegative

/-- An accepted formula has an edge from each of its references. -/
theorem Linked.store_linked {r : Result} (h : s.Linked) (sound : (s.linked p e).Sound)
    (accepted : r ≠ .error .cyclic) (nonNegative : e.nonNegative = true) :
    ((s.linked p e).store p (.formula e r)).Linked where
  toSound := sound.of_eq rfl rfl
  edges t q := by
    have here : (Cell.formula e r).accepted? = some e :=
      Cell.accepted?_eq_some_iff.mpr ⟨r, rfl, accepted⟩
    show ((s.graph.clear p).registerAll e.references p).Edge t q ↔
      ((s.linked p e).store p (.formula e r)).Reads q t
    rw [edge_registerAll, edge_clear h.wellFormed, h.edges, reads_store, here]
    constructor
    · intro edge
      rcases edge with ⟨old, other⟩ | ⟨same, ht⟩
      · exact .inr ⟨other, old⟩
      · exact .inl ⟨same, e, rfl, ht⟩
    · intro reads
      rcases reads with ⟨same, e', accepted', ht⟩ | ⟨other, old⟩
      · cases accepted'
        exact .inr ⟨same, ht⟩
      · exact .inl ⟨old, other⟩
  nonNegative := NonNegative.store (s := s.linked p e) (c := .formula e r)
    ⟨h.nonNegative.cells, h.nonNegative.kept⟩ p nonNegative

/-- **Every insertion of a cell without negative references keeps cells and graph in agreement.** -/
theorem Linked.inserted {outcome : Sheet × Except Fault Unit} (h : s.Linked)
    (grid : s.config.holds p = true) (nonNegative : c.nonNegative = true)
    (inserted : Inserted s p c outcome) : outcome.1.Linked := by
  cases inserted with
  | plain c noFormula => exact h.store_cleared p (Cell.accepted?_of_plain noFormula) nonNegative
  | rejected e r => exact h.store_cleared p (by simp [Cell.accepted?]) nonNegative
  | accepted e _ result free ok =>
    exact h.store_linked (h.toSound.linked grid free) (ne_cyclic_of_evaluate ok) nonNegative
  | stopped e _ fault _ error => exact absurd error (evaluate_ne_error nonNegative fault)

/-! ## 3. Recalculation -/

/-- On such a sheet what an edge leads to is an accepted formula that can be evaluated. -/
theorem Linked.evaluable {t : Position} (h : s.Linked) (edge : s.graph.Edge t p) :
    s.Evaluable p := by
  obtain ⟨e, accepted, -⟩ := (h.edges t p).mp edge
  obtain ⟨r, stored, -⟩ := acceptedAt?_eq_some_iff.mp accepted
  have nonNegative := h.nonNegative.cells p
  rw [stored] at nonNegative
  exact ⟨h.inside t p edge, e, accepted, nonNegative⟩

theorem Linked.evaluable_of_downstream (h : s.Linked) (reached : s.Downstream keys p) :
    s.Evaluable p := by
  obtain ⟨k, -, path⟩ := reached
  obtain ⟨t, -, edge⟩ := path.last
  exact h.evaluable edge

/-- No accepted formula reads its own place. -/
theorem Linked.not_reads_self (h : s.Linked) (p : Position) : ¬ s.Reads p p := fun reads =>
  h.acyclic p (.single ((h.edges p p).mpr reads))

/-- The results of formulas without negative references can be renewed. -/
theorem NonNegative.of_renewed {cells : List Position} (h : s.NonNegative)
    (renewed : Renewed s s' cells) (evaluable : ∀ p ∈ cells, s.Evaluable p) : s'.NonNegative where
  cells p := by
    by_cases here : p ∈ cells
    · obtain ⟨-, e, accepted, nonNegative⟩ := evaluable p here
      rw [← renewed.accepted] at accepted
      obtain ⟨r, stored, -⟩ := acceptedAt?_eq_some_iff.mp accepted
      rw [stored]
      exact nonNegative
    · rw [renewed.elsewhere p here]
      exact h.cells p
  kept := renewed.only.cache ▸ h.kept

theorem Linked.of_renewed {cells : List Position} (h : s.Linked) (renewed : Renewed s s' cells)
    (evaluable : ∀ p ∈ cells, s.Evaluable p) : s'.Linked where
  toSound := h.toSound.of_eq renewed.only.graph renewed.only.config
  edges t r := by rw [renewed.reads_iff, ← h.edges, renewed.only.graph]
  nonNegative := h.nonNegative.of_renewed renewed evaluable

/-- **Recalculation evaluates the formulas strictly downstream of its roots,** each once and none before
    one that it reads, and nothing stops it. -/
theorem Linked.recalculate_eq {roots : List Position} (h : s.Linked)
    (located : keys.mapM s.locate = .ok roots) :
    ∃ cells deltas,
      s.recalculate keys = ((s.refreshAll cells).1, .ok ⟨roots, deltas, cells.length⟩) ∧
      (s.refreshAll cells).2 = .ok deltas ∧ Renewed s (s.refreshAll cells).1 cells ∧
      cells.Nodup ∧ (∀ p, p ∈ cells ↔ ¬ s.Names keys p ∧ s.Downstream keys p) ∧
      cells.Pairwise fun p q => ¬ s.Reads p q := by
  obtain ⟨cells, eq, nodup, member, ordered⟩ := recalculate_of_located h.toSound located
  have evaluable : ∀ p ∈ cells, s.Evaluable p := fun p hp =>
    h.evaluable_of_downstream ((member p).mp hp).2
  have reads : cells.Pairwise fun p q => ¬ s.Reads p q :=
    ordered.imp fun hn reads => hn ((h.edges _ _).mpr reads)
  obtain ⟨⟨deltas, ok⟩, renewed⟩ := renewed_refreshAll evaluable nodup
    (fun p _ => h.not_reads_self p) reads
  rw [ok] at eq
  exact ⟨cells, deltas, eq, ok, renewed, nodup, member, reads⟩

/-- **Recalculation answers, and renews exactly the formulas strictly downstream of its roots.** -/
theorem Linked.recalculate {roots : List Position} (h : s.Linked)
    (located : keys.mapM s.locate = .ok roots) :
    ∃ cells, (∃ answer, (s.recalculate keys).2 = .ok answer) ∧
      (s.recalculate keys).1.Linked ∧ Renewed s (s.recalculate keys).1 cells ∧
      ∀ p, p ∈ cells ↔ ¬ s.Names keys p ∧ s.Downstream keys p := by
  obtain ⟨cells, deltas, eq, -, renewed, -, member, -⟩ := h.recalculate_eq located
  have evaluable : ∀ p ∈ cells, s.Evaluable p := fun p hp =>
    h.evaluable_of_downstream ((member p).mp hp).2
  rw [eq]
  exact ⟨cells, ⟨_, rfl⟩, h.of_renewed renewed evaluable, renewed, member⟩

/-! ## 4. Every history -/

/-- **Every operation that is handed no negative reference keeps cells and graph in agreement.** -/
theorem Linked.step {command : Command} (h : s.Linked) (handed : command.nonNegative = true)
    (step : Step s command s') : s'.Linked := by
  cases step with
  | kept _ widths cache after => exact h.kept after
  | inserted _ key p c cache outcome _ located offered after inserted =>
    have start : ({ s with cache := cache } : Sheet).Linked := h.kept after
    exact start.inserted (holds_of_locate located) (nonNegative_of_offered h.nonNegative handed offered)
      inserted
  | recalculated keys =>
    cases located : keys.mapM s.locate with
    | error fault =>
      rw [recalculate_of_fault located]
      exact h
    | ok roots =>
      obtain ⟨-, -, linked, -⟩ := h.recalculate located
      exact linked

/-- An operation that neither edits the graph nor is handed a negative reference. -/
def Command.Plain (command : Command) : Prop :=
  command.editsGraph = false ∧ command.nonNegative = true

instance (command : Command) : Decidable command.Plain := inferInstanceAs (Decidable (_ ∧ _))

theorem linked_run (config : SheetConfig) {commands : List Command}
    (plain : ∀ c ∈ commands, c.Plain) : ((fresh config).run commands).Linked :=
  run_invariant Linked (linked_fresh config) plain fun s c h plain =>
    h.step plain.2 (s.step_perform c plain.1)

/-- The sheet comes about from a fresh one by operations that neither edit the graph nor are handed a
    negative reference. -/
def Reached (s : Sheet) : Prop :=
  ∃ config commands, (∀ c ∈ commands, Command.Plain c) ∧ (fresh config).run commands = s

theorem Reached.linked (h : s.Reached) : s.Linked := by
  obtain ⟨config, commands, plain, rfl⟩ := h
  exact linked_run config plain

/-- Both maps of the graph hold the reads of the accepted formulas, and nothing else. -/
structure Agrees (s : Sheet) : Prop where
  /-- An accepted formula with references is listed with exactly these. -/
  reads_of_accepted : ∀ p e, s.acceptedAt? p = some e → e.references ≠ [] →
    ∃ targets, s.graph.reads.get? p = some targets ∧ ∀ t, t ∈ targets ↔ t ∈ e.references
  /-- No other place is listed as a reader. -/
  reads_otherwise : ∀ p, (∀ e, s.acceptedAt? p = some e → e.references = []) →
    s.graph.reads.get? p = none
  /-- The readers of a place are the accepted formulas that refer to it. -/
  readers : ∀ t r, r ∈ s.graph.readersOf t ↔ ∃ e, s.acceptedAt? r = some e ∧ t ∈ e.references
  /-- Each of them is listed once. -/
  readers_once : ∀ t, (s.graph.readersOf t).Nodup
  /-- A place that no accepted formula refers to is not listed as a target. -/
  readers_otherwise : ∀ t, (∀ r e, s.acceptedAt? r = some e → t ∉ e.references) →
    s.graph.readers.get? t = none

theorem Linked.agrees (h : s.Linked) : s.Agrees where
  reads_of_accepted p e accepted ne := by
    have member : ∀ t, t ∈ s.graph.readsOf p ↔ t ∈ e.references := by
      intro t
      rw [← h.wellFormed.paired]
      refine (h.edges t p).trans ⟨?_, fun ht => ⟨e, accepted, ht⟩⟩
      intro reads
      obtain ⟨e', accepted', ht⟩ := reads
      rw [accepted] at accepted'
      cases accepted'
      exact ht
    obtain ⟨t, ht⟩ := List.exists_mem_of_ne_nil _ ne
    cases listed : s.graph.reads.get? p with
    | none => exact absurd ((member t).mpr ht) ((h.wellFormed.get?_reads p).mp listed t)
    | some targets =>
      refine ⟨targets, rfl, ?_⟩
      intro t
      rw [← member t, readsOf, listed]
      rfl
  reads_otherwise p unread := by
    refine (h.wellFormed.get?_reads p).mpr ?_
    intro t ht
    obtain ⟨e, accepted, read⟩ := (h.edges t p).mp ((h.wellFormed.paired t p).mpr ht)
    rw [unread e accepted] at read
    exact List.not_mem_nil read
  readers t r := h.edges t r
  readers_once := h.simple
  readers_otherwise t unread := by
    refine (h.wellFormed.get?_readers t).mpr (List.eq_nil_iff_forall_not_mem.mpr ?_)
    intro r hr
    obtain ⟨e, accepted, read⟩ := (h.edges t r).mp hr
    exact unread r e accepted read

/-- **Cells and graph agree after every history** of operations that neither edit the graph nor are
    handed a negative reference, refused ones included: no edge of an overwritten formula survives,
    and no rejected formula has an edge. -/
theorem agrees_run (config : SheetConfig) (commands : List Command)
    (plain : ∀ c ∈ commands, c.Plain) : ((fresh config).run commands).Agrees :=
  (linked_run config plain).agrees

/-- A1 reads B1, so B1 may not read A1; then A1 becomes a number, and B1 is entered again. -/
def rejectedThenOverwritten : List Command :=
  [.set (.label (ofString "A1")) (.text (ofString "=B1+B1")),
    .set (.label (ofString "B1")) (.text (ofString "=A1")),
    .set (.label (ofString "A1")) (.int 5),
    .reenter (.label (ofString "B1")) (.label (ofString "B1")),
    .recalculate [.label (ofString "A1")]]

/-- The general statement at this history. -/
theorem agrees_rejected_then_overwritten :
    (∀ c ∈ rejectedThenOverwritten, c.Plain) ∧
    ((fresh .standard).run rejectedThenOverwritten).Agrees := by
  have plain : ∀ c ∈ rejectedThenOverwritten, c.Plain := by decide
  exact ⟨plain, agrees_run .standard rejectedThenOverwritten plain⟩

end Sheet

end Spreadsheet
