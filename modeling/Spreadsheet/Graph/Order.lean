import Spreadsheet.Graph.Search

/-!
# The order of evaluation

Formula cells are put in order by counting, for each, how many formula cells it reads. Cells that
wait for none are ready, in ascending order at first; the first ready cell is placed and each of
its readers, once for every registration, waits for one cell less; a reader whose count reaches
zero becomes ready behind those that are (`Sorting.place`). The count is taken from the set of
targets and reduced along the list of readers: where an edge is registered several times it drops
by more than one and may pass below zero.

Cells that never get ready are reported as waiting for each other (`evaluationOrder`).
-/

namespace Spreadsheet

namespace Graph

/-- How far the ordering has come. -/
structure Sorting where
  /-- For each formula cell, how many of the cells it reads are still to be placed. -/
  waiting : PositionMap Int
  /-- The cells to be placed next, first come first. -/
  ready : List Position
  /-- The cells placed, in order. -/
  placed : List Position

namespace Sorting

/-! ## 1. One step -/

/-- One cell less to wait for. A position that is not a formula cell waits for nothing. -/
def release (s : Sorting) (p : Position) : Sorting :=
  match s.waiting.get? p with
  | none => s
  | some n =>
    { s with
      waiting := s.waiting.insert p (n - 1)
      ready := if n - 1 = 0 then s.ready ++ [p] else s.ready }

/-- Places the ready cell `p`, the cells of `rest` being ready behind it. -/
def place (g : Graph) (s : Sorting) (p : Position) (rest : List Position) : Sorting :=
  (g.readersOf p).foldl release { s with ready := rest, placed := s.placed ++ [p] }

/-- The steps that can still be taken: a ready cell each, and a waiting one for each that becomes
    ready. -/
def stepsLeft (s : Sorting) : Nat :=
  s.ready.length + s.waiting.entries.countP fun e => decide (0 < e.2)

theorem stepsLeft_release (s : Sorting) (p : Position) :
    (s.release p).stepsLeft ≤ s.stepsLeft := by
  unfold release
  split
  · exact Nat.le_refl _
  · rename_i n hn
    have before := s.waiting.countP_insert p n fun e => decide (0 < e.2)
    have after := s.waiting.countP_insert p (n - 1) fun e => decide (0 < e.2)
    rw [PositionMap.insert_of_get? hn] at before
    simp only [stepsLeft, before, after, decide_eq_true_eq]
    split <;> split <;> split <;> simp <;> omega

theorem stepsLeft_foldl_release (readers : List Position) (s : Sorting) :
    (readers.foldl release s).stepsLeft ≤ s.stepsLeft := by
  induction readers generalizing s with
  | nil => exact Nat.le_refl _
  | cons p readers ih => exact Nat.le_trans (ih _) (stepsLeft_release s p)

theorem stepsLeft_place {g : Graph} {s : Sorting} {p : Position} {rest : List Position}
    (h : s.ready = p :: rest) : (s.place g p rest).stepsLeft < s.stepsLeft := by
  refine Nat.lt_of_le_of_lt (stepsLeft_foldl_release _ _) ?_
  simp only [stepsLeft, h, List.length_cons]
  omega

/-! ## 2. All steps -/

/-- Where the ordering begins. -/
def start (g : Graph) : Sorting :=
  let waiting := g.formulaCells.map fun p =>
    (p, ((g.readsOf p).toList.countP fun t => decide (t ∈ g.formulaCells)))
  { waiting := waiting.foldl (fun m e => m.insert e.1 (e.2 : Int)) .empty
    ready := (waiting.filter fun e => e.2 = 0).map (·.1)
    placed := [] }

/-- Places cells as long as one is ready. -/
def finish (g : Graph) (s : Sorting) : Sorting :=
  match _h : s.ready with
  | [] => s
  | p :: rest => finish g (s.place g p rest)
termination_by s.stepsLeft
decreasing_by exact stepsLeft_place _h

end Sorting

/-! ## 3. The order -/

/-- The cells in the order in which they are placed. -/
def placedCells (g : Graph) : List Position := (Sorting.finish g (.start g)).placed

/-- **The formula cells in an order in which each can be evaluated.** The fault names, in ascending
    order, the cells that were never placed. -/
def evaluationOrder (g : Graph) : Except Fault (List Position) :=
  if g.placedCells.length = g.formulaCells.length then .ok g.placedCells
  else .error (Fault.circular (g.formulaCells.filter fun p => decide (p ∉ g.placedCells))).raised

/-- **The formula cells downstream of `changed`, in the order of evaluation.** The changed cells
    themselves are left out. A circle anywhere in the graph is a fault. -/
def affected (g : Graph) (changed : List Position) : Except Fault (List Position) :=
  let reached := g.downstream changed
  g.evaluationOrder.map fun order =>
    order.filter fun p => decide (p ∈ reached) && decide (p ∉ changed)

end Graph

end Spreadsheet
