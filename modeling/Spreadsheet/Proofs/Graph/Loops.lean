import Spreadsheet.Proofs.Graph.Order
import Spreadsheet.Proofs.Text.Decimal

/-!
# Cells that wait for each other

What the ordering of `Spreadsheet.Graph.Order` gives on a graph without repeated edges, with loops or
without.

* `mem_before_of_reaches`: a placed cell has all formula cells upstream of it before it. So no cell on
  a loop is placed, and none downstream of a loop.
* `mem_leftover_iff`: every other formula cell is placed, since cells never placed have a loop upstream
  of them.
* `evaluationOrder_exact`: there is an order of evaluation exactly on a graph without loops, and
  otherwise the cells on loops and downstream of loops are reported, if they can be told.
* `evaluationOrder_tooLong`: two cells that read each other, of which one cannot.
-/

namespace Spreadsheet

namespace Graph

open Relation Spreadsheet.Text

variable {g : Graph} {p c : Position} {first rest : List Position}

/-! ## 1. Upstream of a placed cell -/

/-- What is downstream of something is a formula cell. -/
theorem WellFormed.mem_formulaCells_of_reaches (h : g.WellFormed) (path : g.Reaches c p) :
    p ∈ g.formulaCells := by
  obtain ⟨t, -, e⟩ := path.last
  exact h.mem_formulaCells_iff.mpr ⟨t, e⟩

section Placed

variable (h : g.WellFormed) (simple : g.Simple)

include h simple

/-- A placed cell stands behind every formula cell that it reads. -/
theorem mem_before_of_edge (split : g.placedCells = first ++ p :: rest) (e : g.Edge c p)
    (cell : c ∈ g.formulaCells) : c ∈ first :=
  (Sorting.counted_finish (Sorting.counted_start g)).1.mem_before h simple split e cell

/-- **A placed cell stands behind every formula cell upstream of it.** -/
theorem mem_before_of_reaches (split : g.placedCells = first ++ p :: rest) (path : g.Reaches c p)
    (cell : c ∈ g.formulaCells) : c ∈ first := by
  unfold Reaches at path
  induction path generalizing first rest with
  | single e => exact mem_before_of_edge h simple split e cell
  | @tail q p path e ih =>
    have early : q ∈ first :=
      mem_before_of_edge h simple split e (h.mem_formulaCells_of_reaches path)
    obtain ⟨before, between, rfl⟩ := List.append_of_mem early
    have split' : g.placedCells = before ++ q :: (between ++ p :: rest) := by simpa using split
    exact List.mem_append_left _ (ih split')

/-- **No cell on a loop is placed, and none downstream of a loop.** -/
theorem not_mem_placedCells_of_loop (loop : g.Reaches c c) (path : c = p ∨ g.Reaches c p) :
    p ∉ g.placedCells := by
  intro placed
  have cell : c ∈ g.formulaCells := h.mem_formulaCells_of_reaches loop
  have early : c ∈ g.placedCells := by
    rcases path with rfl | path
    · exact placed
    · obtain ⟨first, rest, split⟩ := List.append_of_mem placed
      rw [split]
      exact List.mem_append_left _ (mem_before_of_reaches h simple split path cell)
  -- round the loop the cell would stand before itself
  obtain ⟨first, rest, split⟩ := List.append_of_mem early
  have again : c ∈ first := mem_before_of_reaches h simple split loop cell
  have nodup := g.placedCells_nodup
  rw [split] at nodup
  exact (List.nodup_append.mp nodup).2.2 c again c List.mem_cons_self rfl

/-! ## 2. Cells never placed -/

/-- **The cells never placed are those on a loop or downstream of one.** -/
theorem mem_leftover_iff :
    p ∈ g.leftover ↔ ∃ c, g.Reaches c c ∧ (c = p ∨ g.Reaches c p) := by
  constructor
  · intro late
    obtain ⟨c, -, loop, path⟩ := exists_loop_upstream _ (fun _ => exists_leftover_source h) late
    exact ⟨c, loop, (reflTransGen_iff_eq_or_transGen.mp path).imp_left Eq.symm⟩
  · intro upstream
    obtain ⟨c, loop, path⟩ := upstream
    have cell : p ∈ g.formulaCells := by
      rcases path with rfl | path
      · exact h.mem_formulaCells_of_reaches loop
      · exact h.mem_formulaCells_of_reaches path
    exact mem_leftover.mpr ⟨cell, not_mem_placedCells_of_loop h simple loop path⟩

/-- Where there is an order there is no loop. -/
theorem acyclic_of_evaluationOrder {order : List Position} (ok : g.evaluationOrder = .ok order) :
    g.Acyclic := by
  obtain ⟨-, all⟩ := evaluationOrder_eq_ok_iff.mp ok
  intro c loop
  exact not_mem_placedCells_of_loop h simple loop (.inl rfl)
    (all c (h.mem_formulaCells_of_reaches loop))

end Placed

/-- The fault names the cells never placed, if they can be told. -/
theorem eq_of_evaluationOrder_error {fault : Fault} (error : g.evaluationOrder = .error fault) :
    fault = (Fault.circular g.leftover).raised := by
  unfold evaluationOrder at error
  split at error
  · cases error
  · cases error
    rfl

theorem leftover_ascending (g : Graph) : g.leftover.Pairwise (· < ·) :=
  g.reads.keys_ascending.filter _

/-! ## 3. The ordering is exact -/

/-- **The ordering is exact on every graph without repeated edges.** There is an order of evaluation if
    and only if the graph has no loop; it has every formula cell once and nothing else, each behind the
    formula cells that it reads. Otherwise the fault names, in ascending order, the formula cells on a
    loop and those downstream of one, unless one of them has a number too long to be told; then the fault
    is that of the digit limit. -/
theorem evaluationOrder_exact (commands : List Command) (simple : (run commands).Simple) :
    ((∃ order, (run commands).evaluationOrder = .ok order) ↔ (run commands).Acyclic) ∧
    (∀ order, (run commands).evaluationOrder = .ok order →
      order.Nodup ∧ (∀ p, p ∈ order ↔ p ∈ (run commands).formulaCells) ∧
      ∀ first p rest, order = first ++ p :: rest → ∀ t ∈ (run commands).readsOf p,
        t ∈ (run commands).formulaCells → t ∈ first) ∧
    ∀ fault, (run commands).evaluationOrder = .error fault →
      ∃ cells, cells.Pairwise (· < ·) ∧
        (∀ p, p ∈ cells ↔ p ∈ (run commands).formulaCells ∧
          ∃ c, (run commands).Reaches c c ∧ (c = p ∨ (run commands).Reaches c p)) ∧
        fault = if cells.all Position.isWritable then .circular cells else .tooLongToWrite := by
  have h := wellFormed_run commands
  refine ⟨⟨?_, ?_⟩, ?_, ?_⟩
  · intro ordered
    obtain ⟨order, ok⟩ := ordered
    exact acyclic_of_evaluationOrder h simple ok
  · intro acyclic
    obtain ⟨order, ok, -⟩ := evaluationOrder_of_acyclic h simple acyclic
    exact ⟨order, ok⟩
  · intro order ok
    obtain ⟨rfl, all⟩ := evaluationOrder_eq_ok_iff.mp ok
    refine ⟨placedCells_nodup _, fun p => ⟨fun hp => (mem_placedCells_iff_releases.mp hp).1, all p⟩, ?_⟩
    intro first p rest split t read cell
    exact mem_before_of_edge h simple split ((h.paired t p).mpr read) cell
  · intro fault error
    rw [eq_of_evaluationOrder_error error, Fault.raised_circular]
    refine ⟨_, leftover_ascending _, fun p => ?_, rfl⟩
    rw [← mem_leftover_iff h simple]
    exact ⟨fun late => ⟨(mem_leftover.mp late).1, late⟩, fun both => both.2⟩

/-- B1 reads A1, C1 and D1 read each other, D1 reads B1, and E1 reads D1; the last edge was registered
    twice and taken back once. -/
def entangled : List Command :=
  [.register ⟨0, 0⟩ ⟨1, 0⟩, .register ⟨3, 0⟩ ⟨2, 0⟩, .register ⟨2, 0⟩ ⟨3, 0⟩,
    .register ⟨1, 0⟩ ⟨3, 0⟩, .register ⟨3, 0⟩ ⟨4, 0⟩, .register ⟨3, 0⟩ ⟨4, 0⟩,
    .unregister ⟨3, 0⟩ ⟨4, 0⟩]

/-- The general statement at this graph: E1 is reported with C1 and D1, on which it waits, and B1, on
    which they wait, is not. -/
theorem evaluationOrder_exact_entangled :
    (run entangled).Simple ∧ ¬ (run entangled).Acyclic ∧
    (run entangled).evaluationOrder = .error (.circular [⟨2, 0⟩, ⟨3, 0⟩, ⟨4, 0⟩]) ∧
    ∀ p, p ∈ [(⟨2, 0⟩ : Position), ⟨3, 0⟩, ⟨4, 0⟩] ↔ p ∈ (run entangled).formulaCells ∧
      ∃ c, (run entangled).Reaches c c ∧ (c = p ∨ (run entangled).Reaches c p) := by
  have simple : (run entangled).Simple := by decide +kernel
  have error : (run entangled).evaluationOrder =
      .error (.circular [⟨2, 0⟩, ⟨3, 0⟩, ⟨4, 0⟩]) := by decide +kernel
  obtain ⟨ok, -, faults⟩ := evaluationOrder_exact entangled simple
  obtain ⟨cells, -, member, same⟩ := faults _ error
  have named : cells = [⟨2, 0⟩, ⟨3, 0⟩, ⟨4, 0⟩] := by
    split at same
    · cases same
      rfl
    · cases same
  subst named
  refine ⟨simple, fun acyclic => ?_, error, member⟩
  obtain ⟨order, placed⟩ := ok.mpr acyclic
  rw [error] at placed
  cases placed

/-- Two positions read each other. -/
def facing (p q : Position) : List Command := [.register p q, .register q p]

theorem readersOf_facing (apart : p ≠ c) (t : Position) :
    (run (facing p c)).readersOf t = if t = c then [p] else if t = p then [c] else [] := by
  have none (t : Position) : empty.readersOf t = [] := rfl
  simp only [facing, run, List.foldl_cons, List.foldl_nil, Graph.perform, readersOf_register, none,
    if_neg apart.symm, List.nil_append]

theorem simple_facing (apart : p ≠ c) : (run (facing p c)).Simple := by
  intro t
  rw [readersOf_facing apart]
  split
  · exact List.nodup_singleton p
  · split
    · exact List.nodup_singleton c
    · exact List.nodup_nil

/-- Positions that read each other wait for each other, so the limit is reported when one of them has a
    number of too many digits. -/
theorem evaluationOrder_facing (apart : p ≠ c) (long : p.isWritable = false) :
    (run (facing p c)).evaluationOrder = .error .tooLongToWrite := by
  have h := wellFormed_run (facing p c)
  have simple := simple_facing apart
  have there : (run (facing p c)).Edge p c := by
    simp [Edge, readersOf_facing apart, apart]
  have back : (run (facing p c)).Edge c p := by
    simp [Edge, readersOf_facing apart]
  have loop : (run (facing p c)).Reaches p p := .tail (.single there) back
  cases outcome : (run (facing p c)).evaluationOrder with
  | ok order => exact absurd loop (acyclic_of_evaluationOrder h simple outcome p)
  | error fault =>
    have late : p ∈ (run (facing p c)).leftover :=
      (mem_leftover_iff h simple).mpr ⟨p, loop, .inl rfl⟩
    have untold : ¬ (run (facing p c)).leftover.all Position.isWritable = true := by
      intro told
      have short := List.all_eq_true.mp told p late
      rw [long] at short
      cases short
    rw [eq_of_evaluationOrder_error outcome, Fault.raised_circular, if_neg untold]

/-- **A loop with a number of too many digits is not told:** the graph has one, and the fault names no
    cell of it. -/
theorem evaluationOrder_tooLong :
    (run (facing ⟨0, 10 ^ digitLimit⟩ ⟨1, 0⟩)).Simple ∧
    (run (facing ⟨0, 10 ^ digitLimit⟩ ⟨1, 0⟩)).evaluationOrder = .error .tooLongToWrite ∧
    ¬ ∀ commands, (run commands).Simple → ∀ fault,
      (run commands).evaluationOrder = .error fault →
      ∃ cells, fault = .circular cells ∧ cells.Pairwise (· < ·) ∧
        ∀ p, p ∈ cells ↔ p ∈ (run commands).formulaCells ∧
          ∃ c, (run commands).Reaches c c ∧ (c = p ∨ (run commands).Reaches c p) := by
  have apart : (⟨0, 10 ^ digitLimit⟩ : Position) ≠ ⟨1, 0⟩ := fun same =>
    Int.zero_ne_one (congrArg Position.column same)
  have error := evaluationOrder_facing apart (Position.isWritable_far 0)
  refine ⟨simple_facing apart, error, fun named => ?_⟩
  obtain ⟨cells, same, -⟩ := named _ (simple_facing apart) _ error
  cases same

end Graph

end Spreadsheet
