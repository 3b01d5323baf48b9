import Spreadsheet.Proofs.Sheet.Acyclicity
import Spreadsheet.Proofs.Sheet.Caching

/-!
# Refused operations

An operation that writes is refused before it writes anything, with one exception: a formula whose
run asks for a negative position is found out only when it is evaluated, and by then its place has
its edges in place of the old ones (`Stops`). Such a formula was built by hand, since no text compiles
to it.

* `insertAt_refused`: what an insertion that is refused has done.
* `refused_perform`, `perform_of_stops`: the graph stays, or it gets these edges, and which of the two
  is told by the operation and the sheet; cells and widths stay in both cases.
* `recalculate_of_bad_key`: recalculation looks at all its keys before it does anything.
* `refused_keeps` puts them together for every sheet that a history leads to.
-/

namespace Spreadsheet

namespace Sheet

open Spreadsheet.Graph Spreadsheet.Text

variable {s s' : Sheet} {p : Position} {e : Expression} {c : Cell} {command : Command}

/-! ## 1. Graphs of histories -/

/-- The sheet comes about from a fresh one by operations of any kind, edits of the graph included. -/
def Arises (s : Sheet) : Prop := ∃ config commands, (fresh config).run commands = s

theorem wellFormed_step (h : s.graph.WellFormed) (step : Step s command s') :
    s'.graph.WellFormed := by
  cases step with
  | kept => exact h
  | inserted _ _ p _ _ _ _ _ _ _ inserted =>
    cases inserted with
    | plain => exact h.clear p
    | rejected => exact h.clear p
    | accepted e => exact (h.clear p).registerAll e.references p
    | stopped e => exact (h.clear p).registerAll e.references p
  | recalculated keys => exact (s.onlyCells_recalculate keys).graph ▸ h

/-- **Every operation keeps both sides of the graph in agreement,** edits of the graph included. -/
theorem wellFormed_perform (h : s.graph.WellFormed) (command : Command) :
    (s.perform command).1.graph.WellFormed := by
  cases own : command.editsGraph with
  | false => exact wellFormed_step h (s.step_perform command own)
  | true =>
    cases command with
    | graph command => exact h.perform command
    | _ => cases own

theorem Arises.wellFormed (arises : s.Arises) : s.graph.WellFormed := by
  obtain ⟨config, commands, rfl⟩ := arises
  exact run_kept (fun s => s.graph.WellFormed) wellFormed_empty commands fun s command h =>
    wellFormed_perform h command

/-! ## 2. Insertion -/

/-- **A refused insertion was that of a formula whose evaluation stopped,** and has linked it. -/
theorem insertAt_refused {fault : Fault} (refused : (s.insertAt p c).2 = .error fault) :
    ∃ e r, c = .formula e r ∧ (s.graph.clear p).wouldCycle p e.references = false ∧
      s.evaluate e = .error fault ∧ (s.insertAt p c).1 = s.linked p e := by
  have inserted := s.inserted_insertAt p c
  generalize s.insertAt p c = outcome at inserted refused ⊢
  cases inserted with
  | plain => cases refused
  | rejected => cases refused
  | accepted => cases refused
  | stopped e r fault' free error =>
    cases refused
    exact ⟨e, r, rfl, free, error, rfl⟩

/-- The operation brings to a place of the grid a formula that lies on no loop there, and whose run
    asks for a negative position. -/
structure Stops (s : Sheet) (command : Command) (p : Position) (e : Expression) : Prop where
  target : ∃ key, command.target? = some key ∧ s.locate key = .ok p
  offered : ∃ r, Offered s command (.formula e r)
  acyclic : ¬ ((s.graph.clear p).registerAll e.references p).Reaches p p
  asks : ∃ q ∈ (e.execute (some s.valueAt)).reads, q.isNegative = true

/-- Such a formula was built by hand. -/
theorem Stops.handBuilt (h : Stops s command p e) (text : Text) : Expression.compile text ≠ .ok e := by
  intro compiled
  obtain ⟨q, read, negative⟩ := h.asks
  have nonNegative := Expression.nonNegative_iff.mp (Expression.nonNegative_of_compile compiled)
  rw [nonNegative q (Expression.mem_references_of_mem_reads read)] at negative
  cases negative

/-- An operation that can bring a cell does what inserting it does, the cache apart. -/
theorem perform_eq_insertCell {key : Key} (target : command.target? = some key)
    (offered : Offered s command c) : ∃ cache, s.perform command =
      answering (fun _ => .done) ((s.insertCell c key).1.withCache cache, (s.insertCell c key).2) := by
  obtain ⟨cache, -, put⟩ := perform_of_offered target offered
  exact ⟨cache, put.trans (congrArg _ (s.insertCell_withCache cache c key))⟩

/-! ## 3. Operations that write -/

/-- Whether an operation writes a place or the width of a column. -/
def Command.writes : Command → Bool
  | .setWidth _ _ => true
  | command => command.target?.isSome

theorem answering_eq_error {α : Type} {answer : α → Answer} {outcome : Sheet × Except Fault α}
    {fault : Fault} (h : (answering answer outcome).2 = .error fault) : outcome.2 = .error fault := by
  obtain ⟨s, result⟩ := outcome
  cases result with
  | ok a => cases h
  | error fault' =>
    cases h
    rfl

/-- **A refused operation changes no cell and no width, and not the graph either** unless it stops at a
    formula. -/
theorem refused_perform {fault : Fault} (writes : command.writes = true)
    (refused : (s.perform command).2 = .error fault) :
    (s.perform command).1.cells = s.cells ∧ (s.perform command).1.widths = s.widths ∧
      ((∀ p e, ¬ Stops s command p e) → (s.perform command).1.graph = s.graph) := by
  cases target : command.target? with
  | none =>
    -- the only operation that writes and has no target is the one on widths
    cases command with
    | setWidth column width =>
      simp only [perform, answering, setWidth] at refused ⊢
      split
      · exact ⟨rfl, rfl, fun _ => rfl⟩
      · rename_i wide
        rw [if_neg wide] at refused
        split
        · exact ⟨rfl, rfl, fun _ => rfl⟩
        · rename_i p located
          simp only [located] at refused
          cases refused
    | _ => simp [Command.writes, target] at writes
  | some key =>
    rcases s.offered_or_refused target with ⟨c, offered⟩ | ⟨fault', cache, -, before⟩
    · obtain ⟨cache, put⟩ := perform_eq_insertCell target offered
      rw [put] at refused ⊢
      have stopped := answering_eq_error refused
      cases located : s.locate key with
      | error fault' =>
        unfold answering insertCell
        rw [located]
        exact ⟨rfl, rfl, fun _ => rfl⟩
      | ok p =>
        rw [insertCell_of_located located] at stopped ⊢
        obtain ⟨e, r, rfl, free, error, linked⟩ := insertAt_refused stopped
        obtain ⟨q, found, -⟩ := evaluate_eq_error_iff.mp error
        rw [linked]
        refine ⟨rfl, rfl, fun none => absurd ?_ (none p e)⟩
        refine ⟨⟨key, target, located⟩, ⟨r, offered⟩, ?_, ?_⟩
        · rw [← wouldCycle_iff_reaches, free]
          exact Bool.false_ne_true
        · exact ⟨q, List.mem_of_find?_eq_some found, List.find?_some found⟩
    · rw [before]
      exact ⟨rfl, rfl, fun _ => rfl⟩

/-- **An operation that stops at a formula leaves its edges in place of the old ones,** and the old
    cell where it was. -/
theorem perform_of_stops (h : Stops s command p e) :
    (∃ q, q.isNegative = true ∧
      (s.perform command).2 = .error (Fault.negativePosition q).raised) ∧
      (s.perform command).1.cells = s.cells ∧ (s.perform command).1.widths = s.widths ∧
      (s.perform command).1.graph = (s.graph.clear p).registerAll e.references p := by
  obtain ⟨⟨key, target, located⟩, ⟨r, offered⟩, acyclic, q, read, negative⟩ := h
  have free : (s.graph.clear p).wouldCycle p e.references = false := by
    rw [← wouldCycle_iff_reaches] at acyclic
    exact Bool.eq_false_iff.mpr acyclic
  have asked : ((e.execute (some s.valueAt)).reads.find? Position.isNegative).isSome = true :=
    List.find?_isSome.mpr ⟨q, read, negative⟩
  obtain ⟨first, found⟩ := Option.isSome_iff_exists.mp asked
  have error : (s.linked p e).evaluate e = .error (Fault.negativePosition first).raised :=
    evaluate_eq_error_iff.mpr ⟨first, found, rfl⟩
  obtain ⟨cache, put⟩ := perform_eq_insertCell target offered
  rw [put, insertCell_of_located located, insertAt_of_error free error]
  exact ⟨⟨first, List.find?_some found, rfl⟩, rfl, rfl, rfl⟩

/-! ## 4. Recalculation -/

theorem roots_of_bad_key {keys : List Key} {key : Key} (member : key ∈ keys)
    (outside : s.contains key = false) :
    ∃ bad ∈ keys, ∃ fault, s.locate bad = .error fault ∧ keys.mapM s.locate = .error fault := by
  induction keys with
  | nil => cases member
  | cons first keys ih =>
    cases here : s.locate first with
    | error fault =>
      refine ⟨first, List.mem_cons_self, fault, here, ?_⟩
      rw [List.mapM_cons, here]
      rfl
    | ok p =>
      have later : key ∈ keys := by
        rcases List.mem_cons.mp member with same | later
        · rw [same, contains_iff.mpr ⟨p, here⟩] at outside
          cases outside
        · exact later
      obtain ⟨bad, hb, fault, named, stopped⟩ := ih later
      refine ⟨bad, List.mem_cons_of_mem _ hb, fault, named, ?_⟩
      rw [List.mapM_cons, here, stopped]
      rfl

/-- **Recalculation with a key that names no place of the grid leaves the sheet as it is,** wherever
    the key stands. -/
theorem recalculate_of_bad_key {keys : List Key} {key : Key} (member : key ∈ keys)
    (outside : s.contains key = false) :
    ∃ bad ∈ keys, ∃ fault, s.locate bad = .error fault ∧
      s.perform (.recalculate keys) = (s, .error fault) := by
  obtain ⟨bad, hb, fault, named, stopped⟩ := roots_of_bad_key member outside
  refine ⟨bad, hb, fault, named, ?_⟩
  simp only [perform, recalculate_of_fault stopped]
  rfl

/-! ## 5. Every history -/

/-- **A refused operation leaves the sheet as it was, with one exception.** On every sheet that a
    history of operations leads to, hand-built formulas included, an operation that writes and is
    refused changes no cell and no width, and the graph neither unless it stops at a formula. It stops
    at a formula if that was built by hand, lies on no loop at its place and asks for a negative
    position when it is run; then the operation is refused for it, the old cell stays, all edges of its
    place are dropped, and the place is the last reader of each of the formula's references. A
    recalculation with a bad key is refused for a bad key and changes nothing. -/
theorem refused_keeps (s : Sheet) (arises : s.Arises) :
    (∀ command fault, command.writes = true → (s.perform command).2 = .error fault →
      (s.perform command).1.cells = s.cells ∧ (s.perform command).1.widths = s.widths ∧
      ((∀ p e, ¬ Stops s command p e) → (s.perform command).1.graph = s.graph)) ∧
    (∀ command p e, Stops s command p e →
      (∀ text, Expression.compile text ≠ .ok e) ∧
      (∃ q, q.isNegative = true ∧
        (s.perform command).2 = .error (Fault.negativePosition q).raised) ∧
      (s.perform command).1.cells = s.cells ∧ (s.perform command).1.widths = s.widths ∧
      (s.perform command).1.graph = (s.graph.clear p).registerAll e.references p ∧
      ∀ t, (s.perform command).1.graph.readersOf t =
        (s.graph.readersOf t).filter (· ≠ p) ++ if t ∈ e.references then [p] else []) ∧
    ∀ keys key, key ∈ keys → s.contains key = false →
      ∃ bad ∈ keys, ∃ fault, s.locate bad = .error fault ∧
        s.perform (.recalculate keys) = (s, .error fault) := by
  refine ⟨fun command fault => refused_perform, ?_, fun keys key => recalculate_of_bad_key⟩
  intro command p e stops
  obtain ⟨refused, cells, widths, graph⟩ := perform_of_stops stops
  refine ⟨stops.handBuilt, refused, cells, widths, graph, ?_⟩
  intro t
  rw [graph, readersOf_registerAll e.references_nodup, readersOf_clear arises.wellFormed]
  split
  · rfl
  · exact (List.append_nil _).symm

/-- B1 reads A1, which is 5. -/
def readingFive : List Command :=
  [.set (.label (ofString "A1")) (.int 5), .set (.label (ofString "B1")) (.text (ofString "=A1+A2"))]

/-- Adds to A1 a place left of it. -/
def leftOfA1 : Expression :=
  ⟨ofString "=A1+?", some [.operand (.cell ⟨0, 0⟩), .operand (.cell ⟨-1, 0⟩), .operator .add]⟩

/-- Puts that formula into B1. -/
def insertLeftOfA1 : Command :=
  .insert (.cell (.formula leftOfA1 (.value 0))) (.label (ofString "B1"))

/-- The general statement at this sheet: the formula asks for A1 first and then for the place left of
    it, where the insertion stops, so B1 no longer reads A2. -/
theorem refused_keeps_left_of_a1 :
    ((fresh .standard).run readingFive).Arises ∧
    Stops ((fresh .standard).run readingFive) insertLeftOfA1 ⟨1, 0⟩ leftOfA1 ∧
    (((fresh .standard).run readingFive).perform insertLeftOfA1).1.cells =
      ((fresh .standard).run readingFive).cells ∧
    (((fresh .standard).run readingFive).perform insertLeftOfA1).1.graph.readersOf ⟨0, 1⟩ = [] ∧
    (((fresh .standard).run readingFive).perform insertLeftOfA1).1.graph.readersOf ⟨-1, 0⟩ =
      [⟨1, 0⟩] ∧
    ((fresh .standard).run readingFive).contains (.place ⟨0, -1⟩) = false ∧
    (((fresh .standard).run readingFive).perform
      (.recalculate [.label (ofString "A1"), .place ⟨0, -1⟩])).1 =
      (fresh .standard).run readingFive := by
  have arises : ((fresh .standard).run readingFive).Arises := ⟨.standard, readingFive, rfl⟩
  have stops : Stops ((fresh .standard).run readingFive) insertLeftOfA1 ⟨1, 0⟩ leftOfA1 := by
    refine ⟨⟨_, rfl, by decide +kernel⟩, ⟨_, .insert _ _⟩, ?_, ⟨-1, 0⟩, by decide +kernel, rfl⟩
    rw [← wouldCycle_iff_reaches]
    decide +kernel
  have outside : ((fresh .standard).run readingFive).contains (.place ⟨0, -1⟩) = false := by
    decide +kernel
  obtain ⟨writing, stopping, recalculating⟩ := refused_keeps _ arises
  obtain ⟨-, ⟨q, -, refused⟩, -, -, -, readers⟩ := stopping _ _ _ stops
  obtain ⟨cells, -⟩ := writing insertLeftOfA1 _ rfl refused
  obtain ⟨bad, -, fault, -, unchanged⟩ := recalculating
    [.label (ofString "A1"), .place ⟨0, -1⟩] (.place ⟨0, -1⟩) (by decide) outside
  refine ⟨arises, stops, cells, ?_, ?_, outside, by rw [unchanged]⟩
  · rw [readers]
    decide +kernel
  · rw [readers]
    decide +kernel

end Sheet

end Spreadsheet
