import Spreadsheet.Proofs.Cell.Entry
import Spreadsheet.Proofs.Sheet.Caching
import Spreadsheet.Proofs.Sheet.History

/-!
# Entering a place again

A sheet into which everything was typed holds cells that are entered again by the text that they tell
(`Entered`, kept by every operation that is handed no cell). So a place can be entered again with its
own text, and this puts its contents there once more (`reenter_eq`).

An accepted formula passes the test for loops once more: with its own edges dropped and registered
again the graph has no other edges than before, and it had no loop (`Linked.free_of_accepted`). So
the formula stays accepted, and what is stored is the result that it gives on the sheet as it stands.
A rejected formula may be accepted now.
-/

namespace Spreadsheet

/-! ## 1. Cells that can be entered again -/

namespace Cell

variable {c c' : Cell}

theorem entry_contents (c : Cell) : c.contents.entry = c.entry := by
  cases c <;> rfl

theorem told?_contents (c : Cell) : c.contents.told? = c.told? := by
  cases c <;> rfl

theorem contents_contents (c : Cell) : c.contents.contents = c.contents := by
  cases c <;> rfl

theorem nonNegative_contents (c : Cell) : c.contents.nonNegative = c.nonNegative := by
  cases c <;> rfl

/-- The cell tells a text, and this enters the contents of the cell. -/
def Enterable (c : Cell) : Prop := c.told? = some c.entry ∧ ofEntry c.entry = .ok c.contents

/-- It depends on the contents only. -/
theorem Enterable.congr (h : c.Enterable) (same : c'.contents = c.contents) : c'.Enterable := by
  unfold Enterable at h ⊢
  rw [← entry_contents c', ← told?_contents c', same, entry_contents c, told?_contents c]
  exact h

/-- A formula that a text entered was not evaluated yet. -/
theorem contents_of_ofEntry {text : Text} (ok : ofEntry text = .ok c) : c.contents = c := by
  rcases ofEntry_cases ok with ⟨e, -, rfl⟩ | ⟨-, rfl⟩ | rfl | ⟨n, -, rfl⟩
  · rfl
  · rfl
  · rfl
  · rfl

theorem enterable_of_ofEntry {text : Text} (ok : ofEntry text = .ok c) : c.Enterable := by
  unfold Enterable
  rw [contents_of_ofEntry ok]
  exact ⟨told?_of_ofEntry ok, ofEntry_entry ok⟩

end Cell

namespace Sheet

open Relation Spreadsheet.Graph Spreadsheet.Text

variable {s s' : Sheet} {p q : Position} {e : Expression} {c : Cell} {key : Key}
variable {command : Command}

/-! ## 2. What operations leave of the contents -/

/-- **Evaluating a reader again keeps all contents.** -/
theorem contents_refresh (s : Sheet) (p q : Position) :
    ((s.refresh p).1.cellAt q).contents = (s.cellAt q).contents := by
  rcases s.cellAt_refresh p q with same | ⟨e, before, after, stored, -, renewed⟩
  · rw [same]
  · rw [renewed, stored]
    rfl

/-- **Recalculation keeps all contents,** answered or not. -/
theorem contents_recalculate (s : Sheet) (keys : List Key) (q : Position) :
    ((s.recalculate keys).1.cellAt q).contents = (s.cellAt q).contents :=
  recalculate_kept (fun t => (t.cellAt q).contents = (s.cellAt q).contents) rfl
    (fun t p same => (t.contents_refresh p q).trans same) keys

theorem Placed.contents {c' : Cell} (placed : Placed s p c c') : c'.contents = c.contents := by
  cases placed with
  | plain => rfl
  | rejected => rfl
  | evaluated => rfl

/-- **An insertion leaves every cell as it was,** or gives its place the contents of the new cell. -/
theorem cellAt_inserted {outcome : Sheet × Except Fault Unit} (inserted : Inserted s p c outcome)
    (q : Position) :
    outcome.1.cellAt q = s.cellAt q ∨ (q = p ∧ (outcome.1.cellAt q).contents = c.contents) := by
  rcases placed_inserted inserted q with same | ⟨here, placed⟩
  · exact .inl same
  · exact .inr ⟨here, placed.contents⟩

/-! ## 3. Sheets into which everything was typed -/

/-- Whether an operation is handed a cell. -/
def Command.handsCell : Command → Bool
  | .set _ (.cell _) => true
  | .insert (.cell _) _ => true
  | _ => false

/-- An operation that neither edits the graph nor is handed a cell: what it enters is a text, an
    integer or nothing. -/
def Command.Typed (command : Command) : Prop :=
  command.editsGraph = false ∧ command.handsCell = false

instance (command : Command) : Decidable command.Typed := inferInstanceAs (Decidable (_ ∧ _))

theorem Command.Typed.plain (typed : command.Typed) : command.Plain := by
  obtain ⟨own, cellless⟩ := typed
  refine ⟨own, ?_⟩
  cases command with
  | set key item =>
    cases item with
    | cell c => cases cellless
    | _ => rfl
  | insert item key =>
    cases item with
    | cell c => cases cellless
    | _ => rfl
  | _ => rfl

/-- Every cell of the sheet can be entered again, and the cache is faithful. -/
structure Entered (s : Sheet) : Prop where
  cells : ∀ p, (s.cellAt p).Enterable
  faithful : s.cache.Faithful

theorem entered_fresh (config : SheetConfig) : (fresh config).Entered where
  cells _ := ⟨rfl, rfl⟩
  faithful := Cache.faithful_empty

theorem Entered.offered (h : s.Entered) (typed : command.Typed) (offered : Offered s command c) :
    c.Enterable := by
  have typedText : ∀ text, (s.cache.ofEntry text).2 = .ok c → c.Enterable := fun text ok =>
    Cell.enterable_of_ofEntry ((h.faithful.ofEntry_eq text).symm.trans ok)
  cases offered with
  | set => cases typed.2
  | insert => cases typed.2
  | emptied => exact ⟨rfl, rfl⟩
  | number _ n fits => exact ⟨Cell.told?_number fits, Cell.ofEntry_decimal fits⟩
  | entered _ text _ ok => exact typedText text ok
  | copied _ _ _ ok =>
    obtain ⟨p, -, rfl⟩ := cellAt_of_cell ok
    exact h.cells p
  | reentered _ _ text _ _ ok => exact typedText text ok

/-- **Every operation that is handed no cell keeps it so that all cells can be entered again.** -/
theorem Entered.step (h : s.Entered) (typed : command.Typed) (step : Step s command s') :
    s'.Entered where
  cells q := by
    cases step with
    | kept => exact h.cells q
    | inserted _ _ p c cache outcome _ _ offered _ inserted =>
      rcases cellAt_inserted inserted q with same | ⟨-, same⟩
      · rw [same]
        exact h.cells q
      · exact (h.offered typed offered).congr same
    | recalculated keys => exact (h.cells q).congr (s.contents_recalculate keys q)
  faithful := step.cacheAfter.faithful h.faithful

/-- The sheet comes about from a fresh one by operations that neither edit the graph nor are handed a
    cell. -/
def TypedIn (s : Sheet) : Prop :=
  ∃ config commands, (∀ c ∈ commands, Command.Typed c) ∧ (fresh config).run commands = s

theorem TypedIn.entered (h : s.TypedIn) : s.Entered := by
  obtain ⟨config, commands, typed, rfl⟩ := h
  exact run_invariant Entered (entered_fresh config) typed fun s c h typed =>
    h.step typed (s.step_perform c typed.1)

theorem TypedIn.linked (h : s.TypedIn) : s.Linked := by
  obtain ⟨config, commands, typed, rfl⟩ := h
  exact linked_run config fun c hc => (typed c hc).plain

/-! ## 4. Putting the contents of a place there again -/

/-- **Entering a place again with its own text puts its contents there,** the cache apart. -/
theorem reenter_eq (h : s.Entered) (located : s.locate key = .ok p) :
    ∃ cache, s.reenter key key = ((s.insertAt p (s.cellAt p).contents).1.withCache cache,
      (s.insertAt p (s.cellAt p).contents).2) := by
  have found : s.entry key = .ok (s.cellAt p).entry := by
    unfold entry cell
    rw [located]
    simp only [Except.map, (h.cells p).1]
  have ok : (s.cache.ofEntry (s.cellAt p).entry).2 = .ok (s.cellAt p).contents :=
    (h.faithful.ofEntry_eq _).trans (h.cells p).2
  refine ⟨(s.cache.ofEntry (s.cellAt p).entry).1, ?_⟩
  unfold reenter
  rw [found, ← insertCell_of_located located]
  exact (enter_of_ok ok).trans (s.insertCell_withCache _ _ key)

/-- Nothing stops a cell without negative references. -/
theorem insertAt_ok (nonNegative : c.nonNegative = true) : (s.insertAt p c).2 = .ok () := by
  have inserted := s.inserted_insertAt p c
  generalize s.insertAt p c = outcome at inserted ⊢
  cases inserted with
  | plain => rfl
  | rejected => rfl
  | accepted => rfl
  | stopped e _ fault _ error => exact absurd error (evaluate_ne_error nonNegative fault)

/-- **An accepted formula passes the test for loops again:** its own edges closed none. -/
theorem Linked.free_of_accepted (h : s.Linked) (accepted : s.acceptedAt? p = some e) :
    (s.graph.clear p).wouldCycle p e.references = false := by
  refine Bool.eq_false_iff.mpr fun loop => h.acyclic p ?_
  refine TransGen.mono ?_ p p (wouldCycle_iff_reaches.mp loop)
  intro t r edge
  rcases edge_registerAll.mp edge with old | ⟨rfl, ht⟩
  · exact ((edge_clear h.wellFormed).mp old).1
  · exact (h.edges t r).mpr ⟨e, accepted, ht⟩

theorem ne_cyclic_of_not_rejectedAt {r : Result} (kept : ¬ s.RejectedAt p)
    (stored : s.cellAt p = .formula e r) : r ≠ .error .cyclic := by
  rintro rfl
  exact kept ⟨e, stored⟩

/-- **A cell that is no rejected formula stays as it is,** but that a formula is evaluated on the sheet
    as it stands. -/
theorem Linked.cellAt_again (h : s.Linked) (kept : ¬ s.RejectedAt p) :
    (s.insertAt p (s.cellAt p).contents).1.cellAt p = s.cellAt p ∨
      ∃ e r result, s.cellAt p = .formula e r ∧ s.evaluate e = .ok result ∧
        (s.insertAt p (s.cellAt p).contents).1.cellAt p = .formula e result := by
  by_cases formula : ∃ e r, s.cellAt p = .formula e r
  · obtain ⟨e, r, stored⟩ := formula
    have accepted : s.acceptedAt? p = some e :=
      acceptedAt?_of_formula stored (ne_cyclic_of_not_rejectedAt kept stored)
    have nonNegative : e.nonNegative = true := by
      have cells := h.nonNegative.cells p
      rw [stored] at cells
      exact cells
    obtain ⟨result, evaluated⟩ := evaluate_of_nonNegative (s := s.linked p e) nonNegative
    refine .inr ⟨e, r, result, stored, evaluated, ?_⟩
    rw [stored, Cell.contents, Cell.unevaluated,
      insertAt_of_ok (h.free_of_accepted accepted) evaluated, cellAt_store, if_pos rfl]
  · have plain : ∀ e r, s.cellAt p ≠ .formula e r := fun e r stored => formula ⟨e, r, stored⟩
    rw [Cell.contents_of_plain plain]
    rw [insertAt_of_plain plain, cellAt_store, if_pos rfl]
    exact .inl rfl

/-- No formula is rejected that was not. -/
theorem Linked.not_rejectedAt_again (h : s.Linked) (kept : ¬ s.RejectedAt p) :
    ¬ (s.insertAt p (s.cellAt p).contents).1.RejectedAt p := by
  intro rejected
  obtain ⟨e', stored'⟩ := rejected
  rcases h.cellAt_again kept with same | ⟨e, r, result, -, evaluated, again⟩
  · rw [same] at stored'
    exact kept ⟨e', stored'⟩
  · rw [again] at stored'
    cases stored'
    exact ne_cyclic_of_evaluate evaluated rfl

/-- What is accepted stays so. -/
theorem Linked.acceptedAt?_again (h : s.Linked) (kept : ¬ s.RejectedAt p) :
    (s.insertAt p (s.cellAt p).contents).1.acceptedAt? p = s.acceptedAt? p := by
  rcases h.cellAt_again kept with same | ⟨e, r, result, stored, evaluated, again⟩
  · exact acceptedAt?_congr same
  · rw [acceptedAt?_of_formula stored (ne_cyclic_of_not_rejectedAt kept stored),
      acceptedAt?_of_formula again (ne_cyclic_of_evaluate evaluated)]

/-- A current formula gets the result that it had. -/
theorem Linked.cellAt_again_of_current (h : s.Linked) (kept : ¬ s.RejectedAt p)
    (current : s.CurrentAt p) :
    (s.insertAt p (s.cellAt p).contents).1.cellAt p = s.cellAt p := by
  rcases h.cellAt_again kept with same | ⟨e, r, result, stored, evaluated, again⟩
  · exact same
  · rw [current e r stored (ne_cyclic_of_not_rejectedAt kept stored)] at evaluated
    cases evaluated
    rw [again, stored]

/-- **The same edges are registered again,** each as often as before. -/
theorem Linked.graph_again (h : s.Linked) (grid : s.config.holds p = true)
    (kept : ¬ s.RejectedAt p) :
    (∀ t, ((s.insertAt p (s.cellAt p).contents).1.graph.readersOf t).Perm (s.graph.readersOf t)) ∧
      ∀ r, (s.insertAt p (s.cellAt p).contents).1.graph.readsOf r = s.graph.readsOf r := by
  have inserted := s.inserted_insertAt p (s.cellAt p).contents
  have linked : (s.insertAt p (s.cellAt p).contents).1.Linked :=
    h.inserted grid ((Cell.nonNegative_contents _).trans (h.nonNegative.cells p)) inserted
  have accepted : ∀ q, (s.insertAt p (s.cellAt p).contents).1.acceptedAt? q = s.acceptedAt? q := by
    intro q
    by_cases here : q = p
    · rw [here]
      exact h.acceptedAt?_again kept
    · rcases cellAt_inserted inserted q with same | ⟨same, -⟩
      · exact acceptedAt?_congr same
      · exact absurd same here
  have readers := h.perm_of_accepted linked accepted
  refine ⟨readers, fun r => PositionSet.ext_mem fun t => ?_⟩
  rw [← linked.wellFormed.paired, (readers t).mem_iff, h.wellFormed.paired]

/-- **Entering a place again with its own text reproduces it.** On a sheet into which everything was
    typed this is never refused; it changes no other place, and leaves at the place the same number,
    the same text or a formula with the same expression. Unless the place held a rejected formula, its
    formula is not rejected now either, and the same edges are registered, each as often as before; if
    the formula was current, moreover, every cell is as it was, its cached result included. -/
theorem reenter_own (s : Sheet) (typed : s.TypedIn) (key : Key) (p : Position)
    (located : s.locate key = .ok p) :
    (s.reenter key key).2 = .ok () ∧
    (∀ q, q ≠ p → (s.reenter key key).1.cellAt q = s.cellAt q) ∧
    ((s.reenter key key).1.cellAt p).contents = (s.cellAt p).contents ∧
    (¬ s.RejectedAt p →
      ¬ (s.reenter key key).1.RejectedAt p ∧
      (∀ t, ((s.reenter key key).1.graph.readersOf t).Perm (s.graph.readersOf t)) ∧
      (∀ r, (s.reenter key key).1.graph.readsOf r = s.graph.readsOf r) ∧
      (s.CurrentAt p → ∀ q, (s.reenter key key).1.cellAt q = s.cellAt q)) := by
  have linked : s.Linked := typed.linked
  have nonNegative : (s.cellAt p).contents.nonNegative = true :=
    (Cell.nonNegative_contents _).trans (linked.nonNegative.cells p)
  have inserted := s.inserted_insertAt p (s.cellAt p).contents
  have elsewhere : ∀ q, q ≠ p →
      (s.insertAt p (s.cellAt p).contents).1.cellAt q = s.cellAt q := fun q other =>
    (cellAt_inserted inserted q).resolve_right fun both => other both.1
  obtain ⟨cache, eq⟩ := reenter_eq typed.entered located
  rw [eq]
  refine ⟨insertAt_ok nonNegative, elsewhere, ?_, ?_⟩
  · show ((s.insertAt p (s.cellAt p).contents).1.cellAt p).contents = (s.cellAt p).contents
    rcases cellAt_inserted inserted p with same | ⟨-, same⟩
    · rw [same]
    · rw [same, Cell.contents_contents]
  · intro kept
    obtain ⟨readers, reads⟩ := linked.graph_again (holds_of_locate located) kept
    refine ⟨linked.not_rejectedAt_again kept, readers, reads, ?_⟩
    intro current q
    by_cases here : q = p
    · rw [here]
      exact linked.cellAt_again_of_current kept current
    · exact elsewhere q here

/-- A1 becomes -7, B1 and C1 are made to read it, then it becomes 4 and they are recalculated. -/
def bothReading : List Command :=
  [.set (.label (ofString "A1")) (.text (ofString "-007")),
    .set (.label (ofString "B1")) (.text (ofString "=A1*2")),
    .copy (.label (ofString "B1")) (.label (ofString "C1")),
    .set (.label (ofString "A1")) (.int 4),
    .recalculate [.label (ofString "A1")]]

/-- The general statement at this history: B1 is entered again, and from then on it is listed behind
    C1 among the readers of A1. -/
theorem reenter_own_both_reading :
    (∀ c ∈ bothReading, c.Typed) ∧
    ((fresh .standard).run bothReading).locate (.label (ofString "B1")) = .ok ⟨1, 0⟩ ∧
    ¬ ((fresh .standard).run bothReading).RejectedAt ⟨1, 0⟩ ∧
    ((fresh .standard).run bothReading).CurrentAt ⟨1, 0⟩ ∧
    (∀ q, (((fresh .standard).run bothReading).reenter (.label (ofString "B1"))
      (.label (ofString "B1"))).1.cellAt q = ((fresh .standard).run bothReading).cellAt q) ∧
    ((fresh .standard).run bothReading).graph.readersOf ⟨0, 0⟩ = [⟨1, 0⟩, ⟨2, 0⟩] ∧
    (((fresh .standard).run bothReading).reenter (.label (ofString "B1"))
      (.label (ofString "B1"))).1.graph.readersOf ⟨0, 0⟩ = [⟨2, 0⟩, ⟨1, 0⟩] := by
  have typed : ∀ c ∈ bothReading, c.Typed := by decide
  have located : ((fresh .standard).run bothReading).locate (.label (ofString "B1")) =
      .ok ⟨1, 0⟩ := by decide +kernel
  have stored : ((fresh .standard).run bothReading).cellAt ⟨1, 0⟩ =
      .formula ⟨ofString "=A1*2", some [.operand (.cell ⟨0, 0⟩), .operand (.number 2),
        .operator .mul]⟩ (.value 8) := by decide +kernel
  have kept : ¬ ((fresh .standard).run bothReading).RejectedAt ⟨1, 0⟩ := by
    rintro ⟨e, rejected⟩
    rw [stored] at rejected
    cases rejected
  have current : ((fresh .standard).run bothReading).CurrentAt ⟨1, 0⟩ := by
    intro e r stored' _
    rw [stored] at stored'
    cases stored'
    decide +kernel
  obtain ⟨-, -, -, again⟩ := reenter_own _ ⟨.standard, bothReading, typed, rfl⟩ _ _ located
  obtain ⟨-, -, -, cells⟩ := again kept
  exact ⟨typed, located, kept, current, cells current, by decide +kernel, by decide +kernel⟩

end Sheet

end Spreadsheet
