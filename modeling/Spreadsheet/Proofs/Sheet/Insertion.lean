import Spreadsheet.Proofs.Graph.Walk
import Spreadsheet.Proofs.Sheet.Editing

/-!
# What inserting a formula comes to

Whether a formula is refused at its place is told by the formulas that stand in the other cells, and by
nothing else: not by what stood at the place, and not by how the graph came about.

* `consists_of_edges`: a well-formed graph with given edges, none of them twice, lists nothing else in
  either of its maps.
* `Linked.edge_cleared`, `Linked.edge_linked`: what is left when the place is cleared are the reads of
  the accepted formulas elsewhere (`ReadsElsewhere`), and the formula adds its own (`ReadsWith`).
* `Linked.wouldCycle_iff_circular`: so the test for loops looks for a circle among these reads.
* `Insertion`: what the insertion comes to, proved for each of its outcomes. A formula that is accepted
  does not read its own place, so it gives the same before and after.
-/

namespace Spreadsheet

namespace Graph

open Relation

variable {g : Graph} {edges : Position → Position → Prop}

/-! ## 1. Edges and what is listed -/

/-- Some position is reached from itself. -/
def Circular (edges : Position → Position → Prop) : Prop := ∃ p, TransGen edges p p

/-- The graph holds exactly the given edges, in both of its maps, each once. -/
structure Consists (g : Graph) (edges : Position → Position → Prop) : Prop where
  readers : ∀ t r, r ∈ g.readersOf t ↔ edges t r
  once : ∀ t, (g.readersOf t).Nodup
  reads : ∀ t r, t ∈ g.readsOf r ↔ edges t r
  /-- Only what is read is listed as a target. -/
  targets : ∀ t, t ∈ g.readers.keys ↔ ∃ r, edges t r
  /-- Only what reads something is listed as a reader. -/
  formulas : ∀ r, r ∈ g.formulaCells ↔ ∃ t, edges t r

theorem WellFormed.mem_targets_iff (h : g.WellFormed) (t : Position) :
    t ∈ g.readers.keys ↔ ∃ r, g.Edge t r := by
  rw [← not_iff_not, ← PositionMap.get?_eq_none_iff, h.get?_readers, List.eq_nil_iff_forall_not_mem,
    not_exists]
  rfl

theorem consists_of_edges (h : g.WellFormed) (simple : g.Simple)
    (same : ∀ t r, g.Edge t r ↔ edges t r) : g.Consists edges where
  readers := same
  once := simple
  reads t r := (h.paired t r).symm.trans (same t r)
  targets t := (h.mem_targets_iff t).trans (exists_congr (same t))
  formulas r := h.mem_formulaCells_iff.trans (exists_congr fun t => same t r)

/-- The edges of a graph are circular unless the graph is acyclic. -/
theorem circular_iff (same : ∀ t r, g.Edge t r ↔ edges t r) : Circular edges ↔ ¬ g.Acyclic := by
  have eq : g.Edge = edges := funext fun t => funext fun r => propext (same t r)
  unfold Acyclic Reaches
  rw [eq, not_forall]
  simp only [not_not]
  rfl

end Graph

namespace Sheet

open Spreadsheet.Graph Spreadsheet.Text

variable {s : Sheet} {p t r : Position} {e : Expression}

/-! ## 2. The reads that count -/

/-- An accepted formula at another place than `p` reads the target. -/
def ReadsElsewhere (s : Sheet) (p t r : Position) : Prop := r ≠ p ∧ s.Reads r t

/-- The reads elsewhere, together with those of the expression at the place `p`. -/
def ReadsWith (s : Sheet) (p : Position) (e : Expression) (t r : Position) : Prop :=
  s.ReadsElsewhere p t r ∨ (r = p ∧ t ∈ e.references)

/-- **Clearing a place leaves the reads elsewhere.** -/
theorem Linked.edge_cleared (h : s.Linked) (p t r : Position) :
    (s.cleared p).graph.Edge t r ↔ s.ReadsElsewhere p t r := by
  show (s.graph.clear p).Edge t r ↔ s.ReadsElsewhere p t r
  rw [edge_clear h.wellFormed, h.edges, ReadsElsewhere, and_comm]

/-- **Linking a formula there adds its own reads.** -/
theorem Linked.edge_linked (h : s.Linked) (p : Position) (e : Expression) (t r : Position) :
    (s.linked p e).graph.Edge t r ↔ s.ReadsWith p e t r :=
  edge_registerAll.trans (or_congr_left (h.edge_cleared p t r))

/-- **The test for loops looks for a circle among these reads.** -/
theorem Linked.wouldCycle_iff_circular (h : s.Linked) (p : Position) (e : Expression) :
    (s.graph.clear p).wouldCycle p e.references = true ↔ Circular (s.ReadsWith p e) := by
  have acyclic : (s.graph.clear p).Acyclic := (h.cleared p).acyclic
  have circular : Circular (s.ReadsWith p e) ↔ ¬ (s.linked p e).graph.Acyclic :=
    circular_iff (h.edge_linked p e)
  rw [circular, wouldCycle_iff_reaches, linked, acyclic_registerAll_iff acyclic, not_not]

theorem Linked.not_circular (h : s.Linked)
    (free : (s.graph.clear p).wouldCycle p e.references = false) :
    ¬ Circular (s.ReadsWith p e) := by
  rw [← h.wouldCycle_iff_circular, free]
  exact Bool.false_ne_true

theorem Linked.consists_cleared (h : s.Linked) (p : Position) :
    (s.cleared p).graph.Consists (s.ReadsElsewhere p) :=
  consists_of_edges (h.cleared p).wellFormed (h.cleared p).simple (h.edge_cleared p)

theorem Linked.consists_linked (h : s.Linked) (grid : s.config.holds p = true)
    (free : (s.graph.clear p).wouldCycle p e.references = false) :
    (s.linked p e).graph.Consists (s.ReadsWith p e) :=
  have sound := h.toSound.linked grid free
  consists_of_edges sound.wellFormed sound.simple (h.edge_linked p e)

/-! ## 3. The outcomes -/

/-- **What putting a formula at a place comes to,** told by the reads that count there: the cell of the
    place, the graph, and what the formula gives. -/
structure Insertion (s : Sheet) (p : Position) (e : Expression) (s' : Sheet)
    (answer : Except Fault Unit) : Prop where
  elsewhere : ∀ q, q ≠ p → s'.cellAt q = s.cellAt q
  cyclic_iff : s'.cellAt p = .formula e (.error .cyclic) ↔ Circular (s.ReadsWith p e)
  /-- A formula that would close a circle is stored, without edges. -/
  rejected : Circular (s.ReadsWith p e) → answer = .ok () ∧ s'.graph.Consists (s.ReadsElsewhere p)
  linked : ¬ Circular (s.ReadsWith p e) → s'.graph.Consists (s.ReadsWith p e)
  /-- A formula that closes none and gives a result is stored with it, and gives it again. -/
  evaluated : ¬ Circular (s.ReadsWith p e) → ∀ result, s.evaluate e = .ok result →
    answer = .ok () ∧ s'.cellAt p = .formula e result ∧ s'.evaluate e = .ok result

theorem Linked.insertion_of_loop (h : s.Linked)
    (loop : (s.graph.clear p).wouldCycle p e.references = true) :
    Insertion s p e ((s.cleared p).store p (.formula e (.error .cyclic))) (.ok ()) := by
  have edited : Edited s ((s.cleared p).store p (.formula e (.error .cyclic))) p :=
    edited_store_cleared s p (by simp [Cell.accepted?])
  have circular : Circular (s.ReadsWith p e) := (h.wouldCycle_iff_circular p e).mp loop
  refine ⟨edited.elsewhere, ?_, ?_, ?_, ?_⟩
  · rw [cellAt_store, if_pos rfl]
    exact iff_of_true rfl circular
  · exact fun _ => ⟨rfl, h.consists_cleared p⟩
  · exact fun free => absurd circular free
  · exact fun free => absurd circular free

theorem Linked.insertion_of_ok {result : Result} (h : s.Linked) (grid : s.config.holds p = true)
    (free : (s.graph.clear p).wouldCycle p e.references = false)
    (ok : (s.linked p e).evaluate e = .ok result) :
    Insertion s p e ((s.linked p e).store p (.formula e result)) (.ok ()) := by
  have edited := edited_store_linked s (not_mem_of_wouldCycle free) ok
  have accepted : result ≠ .error .cyclic := ne_cyclic_of_evaluate ok
  have stored : ((s.linked p e).store p (.formula e result)).cellAt p = .formula e result := by
    rw [cellAt_store, if_pos rfl]
  refine ⟨edited.elsewhere, ?_, ?_, ?_, ?_⟩
  · rw [stored]
    refine iff_of_false ?_ (h.not_circular free)
    intro same
    cases same
    exact accepted rfl
  · exact fun circular => absurd circular (h.not_circular free)
  · exact fun _ => h.consists_linked grid free
  · intro _ result' ok'
    -- the edges make no difference to what the formula gives
    have same : s.evaluate e = .ok result := ok
    rw [same] at ok'
    cases ok'
    exact ⟨rfl, stored, edited.current e result stored accepted⟩

/-- A formula whose evaluation stops asks for a negative position, so it is not what stood there. -/
theorem Linked.insertion_of_error {fault : Fault} (h : s.Linked) (grid : s.config.holds p = true)
    (free : (s.graph.clear p).wouldCycle p e.references = false)
    (error : (s.linked p e).evaluate e = .error fault) :
    Insertion s p e (s.linked p e) (.error fault) := by
  have same : s.evaluate e = .error fault := error
  refine ⟨fun _ _ => rfl, ?_, ?_, ?_, ?_⟩
  · refine iff_of_false ?_ (h.not_circular free)
    intro stored
    have stored' : s.cellAt p = .formula e (.error .cyclic) := stored
    have nonNegative := h.nonNegative.cells p
    rw [stored'] at nonNegative
    exact evaluate_ne_error nonNegative fault same
  · exact fun circular => absurd circular (h.not_circular free)
  · exact fun _ => h.consists_linked grid free
  · intro _ result ok
    rw [same] at ok
    cases ok

theorem Linked.insertion (h : s.Linked) (grid : s.config.holds p = true) (e : Expression)
    (preset : Result) :
    Insertion s p e (s.insertAt p (.formula e preset)).1 (s.insertAt p (.formula e preset)).2 := by
  have inserted := s.inserted_insertAt p (.formula e preset)
  generalize s.insertAt p (.formula e preset) = outcome at inserted ⊢
  cases inserted with
  | plain _ noFormula => exact absurd rfl (noFormula e preset)
  | rejected _ _ loop => exact h.insertion_of_loop loop
  | accepted _ _ _ free ok => exact h.insertion_of_ok grid free ok
  | stopped _ _ _ free error => exact h.insertion_of_error grid free error

/-! ## 4. Every history -/

/-- **An insertion from end to end.** On every sheet that a history leads to which neither edits the
    graph nor brings a negative reference, a formula put at a place of the grid, whatever result it
    comes with, is stored as cyclic if and only if its reads close a circle with those of the accepted
    formulas elsewhere. Then the graph holds these alone; otherwise it holds its reads as well, and the
    result stored is what the formula gives on the sheet before and on the sheet after. Every other cell
    stays. A formula without negative references always gives a result, and is always stored. -/
theorem insert_formula (s : Sheet) (reached : s.Reached) (key : Key) (p : Position)
    (located : s.locate key = .ok p) (e : Expression) (preset : Result) :
    ∃ s' answer, s.insert (.cell (.formula e preset)) key = (s', answer) ∧
      Insertion s p e s' answer ∧
      (e.nonNegative = true → answer = .ok () ∧ ∃ result, s.evaluate e = .ok result ∧
        (s'.cellAt p = .formula e (.error .cyclic) ∨ s'.cellAt p = .formula e result)) := by
  have insertion := reached.linked.insertion (holds_of_locate located) e preset
  refine ⟨_, _, insertCell_of_located located _, insertion, ?_⟩
  intro nonNegative
  obtain ⟨result, ok⟩ := evaluate_of_nonNegative (s := s) nonNegative
  by_cases circular : Circular (s.ReadsWith p e)
  · exact ⟨(insertion.rejected circular).1, result, ok, .inl (insertion.cyclic_iff.mpr circular)⟩
  · obtain ⟨answered, stored, -⟩ := insertion.evaluated circular result ok
    exact ⟨answered, result, ok, .inr stored⟩

/-- B1 reads A1, which is 5, and C1 reads B1; D1 reads itself and was rejected. -/
def chainOfReads : List Command :=
  [.set (.label (ofString "A1")) (.int 5), .set (.label (ofString "B1")) (.text (ofString "=A1")),
    .set (.label (ofString "C1")) (.text (ofString "=B1")),
    .set (.label (ofString "D1")) (.text (ofString "=D1"))]

/-- Doubles B1. -/
def doubleOfB1 : Expression :=
  ⟨ofString "=B1*2", some [.operand (.cell ⟨1, 0⟩), .operand (.number 2), .operator .mul]⟩

/-- The formula that doubles B1, with a result that it comes with. -/
def presetDouble : Item := .cell (.formula doubleOfB1 (.value 1))

/-- The general statement at this sheet. In A1 the formula would close a circle and is stored without
    edges; C1 it takes over from a formula with the same reference, and gives 10. -/
theorem insert_formula_chain_of_reads :
    ((fresh .standard).run chainOfReads).Reached ∧
    Circular (((fresh .standard).run chainOfReads).ReadsWith ⟨0, 0⟩ doubleOfB1) ∧
    (((fresh .standard).run chainOfReads).insert presetDouble
      (.label (ofString "A1"))).1.graph.Consists
        (((fresh .standard).run chainOfReads).ReadsElsewhere ⟨0, 0⟩) ∧
    ¬ Circular (((fresh .standard).run chainOfReads).ReadsWith ⟨2, 0⟩ doubleOfB1) ∧
    (((fresh .standard).run chainOfReads).insert presetDouble
      (.label (ofString "C1"))).1.graph.Consists
        (((fresh .standard).run chainOfReads).ReadsWith ⟨2, 0⟩ doubleOfB1) ∧
    (((fresh .standard).run chainOfReads).insert presetDouble
      (.label (ofString "C1"))).1.evaluate doubleOfB1 = .ok (.value 10) := by
  have reached : ((fresh .standard).run chainOfReads).Reached :=
    ⟨.standard, chainOfReads, by decide, rfl⟩
  obtain ⟨first, _, inA1, insertion, -⟩ := insert_formula _ reached (.label (ofString "A1")) ⟨0, 0⟩
    (by decide +kernel) doubleOfB1 (.value 1)
  obtain ⟨second, _, inC1, insertion', -⟩ := insert_formula _ reached (.label (ofString "C1")) ⟨2, 0⟩
    (by decide +kernel) doubleOfB1 (.value 1)
  have leftA1 : (((fresh .standard).run chainOfReads).insert presetDouble
      (.label (ofString "A1"))).1 = first := congrArg Prod.fst inA1
  have leftC1 : (((fresh .standard).run chainOfReads).insert presetDouble
      (.label (ofString "C1"))).1 = second := congrArg Prod.fst inC1
  rw [leftA1, leftC1]
  have circular : Circular (((fresh .standard).run chainOfReads).ReadsWith ⟨0, 0⟩ doubleOfB1) := by
    refine insertion.cyclic_iff.mp ?_
    rw [← leftA1]
    decide +kernel
  have free : ¬ Circular (((fresh .standard).run chainOfReads).ReadsWith ⟨2, 0⟩ doubleOfB1) := by
    refine fun circular => absurd (insertion'.cyclic_iff.mpr circular) ?_
    rw [← leftC1]
    decide +kernel
  obtain ⟨-, -, again⟩ := insertion'.evaluated free (.value 10) (by decide +kernel)
  exact ⟨reached, circular, (insertion.rejected circular).2, free, insertion'.linked free, again⟩

end Sheet

end Spreadsheet
