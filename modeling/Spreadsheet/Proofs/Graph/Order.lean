import Mathlib.Data.Fintype.Card
import Mathlib.Data.List.Induction
import Mathlib.Data.Set.Finite.List
import Mathlib.Order.WellFounded
import Spreadsheet.Proofs.Graph.Edges
import Spreadsheet.Proofs.Graph.Sorting

/-!
# The order of evaluation is one

What the ordering of `Spreadsheet.Graph.Order` gives on graphs whose two maps hold the same edges. A
cell is released at least once by every placed cell that it reads, and exactly once where no edge is
registered twice (`waitingFor_nil_le`). On such a graph its counter is the number of formula cells
that it still waits for (`Sorting.Valid`).

* `exists_loop_upstream`: in a finite remainder without a first cell every cell is downstream of a
  loop, or on one.
* `Acyclic.wellFounded`: so an acyclic graph allows induction along its edges.
* `evaluationOrder_of_acyclic`: on an acyclic graph every formula cell is placed, once, and none
  before a cell that it reads.
* `affected_of_acyclic`: so the cells downstream of changed ones come in such an order.
-/

namespace Spreadsheet

namespace Graph

open Relation

variable {g : Graph} {p q t : Position} {placed : List Position}

/-! ## 1. Cells still to be placed -/

/-- A cell waits for none when every formula cell that it reads is placed. -/
theorem waitingFor_eq_zero_iff (h : g.WellFormed) :
    g.waitingFor placed p = 0 ↔ ∀ t, g.Edge t p → t ∈ g.formulaCells → t ∈ placed := by
  simp only [waitingFor, List.countP_eq_zero, PositionSet.mem_toList, Edge, h.paired]
  simp

/-- In a list without repetitions a member with a property makes a difference of one. -/
theorem countP_and_ne {l : List Position} (nodup : l.Nodup) (f : Position → Bool) {a : Position}
    (ha : f a = true) :
    l.countP f = (l.countP fun t => f t && decide (t ≠ a)) + if a ∈ l then 1 else 0 := by
  induction l with
  | nil => rfl
  | cons b l ih =>
    obtain ⟨fresh, nodup⟩ := List.nodup_cons.mp nodup
    rw [List.countP_cons, List.countP_cons, ih nodup]
    by_cases e : b = a
    · subst e
      simp [ha, fresh]
    · have e' : ¬ a = b := fun e' => e e'.symm
      simp [e, e', Nat.add_right_comm]

/-- **Placing a cell takes one off for each of its readers, and nothing for the others.** -/
theorem waitingFor_snoc (h : g.WellFormed) (hp : p ∈ g.formulaCells) (new : p ∉ placed)
    (q : Position) :
    g.waitingFor placed q = g.waitingFor (placed ++ [p]) q + if q ∈ g.readersOf p then 1 else 0 := by
  have here : (decide (p ∈ g.formulaCells) && decide (p ∉ placed)) = true := by simp [hp, new]
  have split := countP_and_ne (g.readsOf q).toList_nodup
    (fun t => decide (t ∈ g.formulaCells) && decide (t ∉ placed)) here
  simp only [PositionSet.mem_toList, ← h.paired] at split
  rw [waitingFor, split, waitingFor]
  congr 2
  funext t
  simp [Bool.and_assoc]

/-- **Every placed cell that is read has released its reader,** once or more often. -/
theorem waitingFor_nil_le (h : g.WellFormed) (nodup : placed.Nodup)
    (cells : ∀ p ∈ placed, p ∈ g.formulaCells) (q : Position) :
    g.waitingFor [] q ≤ g.waitingFor placed q + g.releases placed q ∧
    (g.Simple → g.waitingFor [] q = g.waitingFor placed q + g.releases placed q) := by
  induction placed using List.reverseRecOn with
  | nil => simp [releases]
  | append_singleton placed p ih =>
    obtain ⟨nodup, -, fresh⟩ := List.nodup_append.mp nodup
    have new : p ∉ placed := fun old => fresh p old p List.mem_cons_self rfl
    have cell : p ∈ g.formulaCells := cells p (by simp)
    obtain ⟨le, exact⟩ := ih nodup fun q hq => cells q (List.mem_append_left _ hq)
    have less := waitingFor_snoc h cell new q
    rw [releases_snoc]
    refine ⟨?_, fun simple => ?_⟩
    · by_cases reader : q ∈ g.readersOf p
      · have once : 0 < (g.readersOf p).count q := List.count_pos_iff.mpr reader
        rw [if_pos reader] at less
        omega
      · rw [if_neg reader] at less
        omega
    · have once : (g.readersOf p).count q = if q ∈ g.readersOf p then 1 else 0 :=
        List.Nodup.count (simple p)
      have before := exact simple
      omega

/-! ## 2. Graphs without repeated edges -/

namespace Sorting

variable {s : Sorting}

/-- What holds between any two steps of the ordering when no edge is registered twice. -/
structure Valid (g : Graph) (s : Sorting) : Prop where
  /-- Every formula cell is counted, with what it still waits for. -/
  waiting : ∀ p, s.waiting.get? p =
    if p ∈ g.formulaCells then some (g.waitingFor s.placed p : Int) else none
  /-- No cell is placed or ready twice. -/
  nodup : (s.placed ++ s.ready).Nodup
  /-- The cells placed or ready are the formula cells that wait for none. -/
  due : ∀ p, p ∈ s.placed ++ s.ready ↔ p ∈ g.formulaCells ∧ g.waitingFor s.placed p = 0
  /-- No cell is placed before one that it reads. -/
  ordered : s.placed.Pairwise fun p q => ¬ g.Edge q p

theorem pairwise_of_splits {α : Type} {R : α → α → Prop} {l : List α}
    (splits : ∀ first a rest, l = first ++ a :: rest → ∀ b ∈ rest, R a b) : l.Pairwise R := by
  induction l with
  | nil => exact .nil
  | cons a l ih =>
    refine List.pairwise_cons.mpr ⟨splits [] a l rfl, ih fun first b rest split => ?_⟩
    exact splits (a :: first) b rest (by rw [split, List.cons_append])

/-- **Without repeated edges a placed cell stands behind every formula cell that it reads.** -/
theorem Counted.mem_before (counted : Counted g s) (h : g.WellFormed) (simple : g.Simple)
    {first rest : List Position} (split : s.placed = first ++ p :: rest) (e : g.Edge t p)
    (cell : t ∈ g.formulaCells) : t ∈ first := by
  have nodup : s.placed.Nodup := (List.nodup_append.mp counted.nodup).1
  rw [split] at nodup
  have cells : ∀ q ∈ first, q ∈ g.formulaCells := by
    intro q hq
    refine ((counted.due q).mp (List.mem_append_left _ ?_)).1
    rw [split]
    exact List.mem_append_left _ hq
  -- `p` had nothing to wait for when it was placed
  have enough := counted.before first p rest split
  have same := (waitingFor_nil_le h (List.nodup_append.mp nodup).1 cells p).2 simple
  have zero : g.waitingFor first p = 0 := by omega
  exact (waitingFor_eq_zero_iff h).mp zero t e cell

/-- **Without repeated edges the releases count what was waited for.** -/
theorem Counted.valid (counted : Counted g s) (h : g.WellFormed) (simple : g.Simple) :
    Valid g s := by
  have nodup : s.placed.Nodup := (List.nodup_append.mp counted.nodup).1
  have cells : ∀ p ∈ s.placed, p ∈ g.formulaCells := fun p hp =>
    ((counted.due p).mp (List.mem_append_left _ hp)).1
  have total : ∀ q, g.waitingFor [] q = g.waitingFor s.placed q + g.releases s.placed q := fun q =>
    (waitingFor_nil_le h nodup cells q).2 simple
  refine ⟨?_, counted.nodup, ?_, ?_⟩
  · intro p
    have same := total p
    have count : (g.waitingFor [] p : Int) - g.releases s.placed p = g.waitingFor s.placed p := by
      omega
    rw [counted.waiting, count]
  · intro p
    have same := total p
    have none : g.waitingFor [] p ≤ g.releases s.placed p ↔ g.waitingFor s.placed p = 0 := by omega
    rw [counted.due, none]
  · refine pairwise_of_splits fun first p rest split q later e => ?_
    -- `q` would stand before `p` as well
    have cell : q ∈ g.formulaCells := cells q (by simp [split, later])
    have early : q ∈ first := counted.mem_before h simple split e cell
    rw [split] at nodup
    exact (List.nodup_append.mp nodup).2.2 q early q (List.mem_cons_of_mem _ later) rfl

end Sorting

/-! ## 3. The cells placed -/

/-- **A formula cell all of whose reads among formula cells are placed is placed itself.** -/
theorem mem_placedCells_of_reads (h : g.WellFormed) (hp : p ∈ g.formulaCells)
    (reads : ∀ t, g.Edge t p → t ∈ g.formulaCells → t ∈ g.placedCells) : p ∈ g.placedCells := by
  have cells : ∀ q ∈ g.placedCells, q ∈ g.formulaCells := fun q hq =>
    (mem_placedCells_iff_releases.mp hq).1
  have none : g.waitingFor g.placedCells p = 0 := (waitingFor_eq_zero_iff h).mpr reads
  have total := (waitingFor_nil_le h g.placedCells_nodup cells p).1
  exact mem_placedCells_iff_releases.mpr ⟨hp, by omega⟩

/-- The formula cells that are never placed, in ascending order. -/
def leftover (g : Graph) : List Position := g.formulaCells.filter fun p => decide (p ∉ g.placedCells)

theorem mem_leftover : p ∈ g.leftover ↔ p ∈ g.formulaCells ∧ p ∉ g.placedCells := by
  simp [leftover]

/-- **Each of them waits for another one.** -/
theorem exists_leftover_source (h : g.WellFormed) (hp : p ∈ g.leftover) :
    ∃ t ∈ g.leftover, g.Edge t p := by
  obtain ⟨cell, late⟩ := mem_leftover.mp hp
  by_contra none
  push Not at none
  refine late (mem_placedCells_of_reads h cell fun t e ht => ?_)
  by_contra late
  exact none t (mem_leftover.mpr ⟨ht, late⟩) e

section Placed

variable (h : g.WellFormed) (simple : g.Simple)

include h simple

theorem valid_placedCells :
    Sorting.Valid g (.finish g (.start g)) ∧ (Sorting.finish g (.start g)).ready = [] := by
  obtain ⟨counted, done⟩ := Sorting.counted_finish (Sorting.counted_start g)
  exact ⟨counted.valid h simple, done⟩

theorem placedCells_ordered : g.placedCells.Pairwise fun p q => ¬ g.Edge q p :=
  (valid_placedCells h simple).1.ordered

end Placed

/-! ## 4. Loops -/

/-- In a finite type where everything has a predecessor there is a loop. -/
theorem exists_loop_of_predecessors {α : Type} [Finite α] [Nonempty α] {r : α → α → Prop}
    (source : ∀ x, ∃ y, r y x) : ∃ c, TransGen r c c := by
  by_contra none
  have irrefl : Std.Irrefl (TransGen r) := ⟨fun c loop => none ⟨c, loop⟩⟩
  have wf : WellFounded (TransGen r) := Finite.wellFounded_of_trans_of_irrefl (TransGen r)
  obtain ⟨x, -, first⟩ := wf.has_min Set.univ Set.univ_nonempty
  obtain ⟨y, e⟩ := source x
  exact first y trivial (.single e)

/-- **A finite set whose members all have a predecessor in it contains a loop upstream of each of
    them.** -/
theorem exists_loop_upstream {edge : Position → Position → Prop} (cells : List Position)
    (source : ∀ x ∈ cells, ∃ y ∈ cells, edge y x) (hp : p ∈ cells) :
    ∃ c ∈ cells, TransGen edge c c ∧ ReflTransGen edge c p := by
  have finite : Finite { x // x ∈ cells ∧ ReflTransGen edge x p } :=
    ((List.finite_toSet cells).subset fun x hx => hx.1).to_subtype
  have inhabited : Nonempty { x // x ∈ cells ∧ ReflTransGen edge x p } := ⟨⟨p, hp, .refl⟩⟩
  have upstream : ∀ x : { x // x ∈ cells ∧ ReflTransGen edge x p },
      ∃ y : { x // x ∈ cells ∧ ReflTransGen edge x p }, edge y.1 x.1 := by
    intro member
    obtain ⟨x, hx, path⟩ := member
    obtain ⟨y, hy, e⟩ := source x hx
    exact ⟨⟨y, hy, .head e path⟩, e⟩
  obtain ⟨c, loop⟩ := exists_loop_of_predecessors upstream
  exact ⟨c.1, c.2.1, TransGen.lift Subtype.val (fun _ _ e => e) c c loop, c.2.2⟩

/-- **On an acyclic graph edges can be followed back from no position forever,** so what holds of a
    position if it holds of all that it reads holds of every position. -/
theorem Acyclic.wellFounded (acyclic : g.Acyclic) (h : g.WellFormed) : WellFounded g.Edge := by
  classical
  rw [WellFounded.wellFounded_iff_has_min]
  intro S inhabited
  by_contra none
  push Not at none
  -- without a first member, every member is a formula cell, and these are finitely many
  have source : ∀ x ∈ g.formulaCells.filter fun q => decide (q ∈ S),
      ∃ y ∈ g.formulaCells.filter fun q => decide (q ∈ S), g.Edge y x := by
    intro x hx
    obtain ⟨-, member⟩ := List.mem_filter.mp hx
    obtain ⟨y, hy, e⟩ := none x (of_decide_eq_true member)
    obtain ⟨z, -, e'⟩ := none y hy
    have cell : y ∈ g.formulaCells := h.mem_formulaCells_iff.mpr ⟨z, e'⟩
    exact ⟨y, List.mem_filter.mpr ⟨cell, decide_eq_true hy⟩, e⟩
  obtain ⟨p, hp⟩ := inhabited
  obtain ⟨t, -, e⟩ := none p hp
  have cell : p ∈ g.formulaCells := h.mem_formulaCells_iff.mpr ⟨t, e⟩
  obtain ⟨c, -, loop, -⟩ := exists_loop_upstream _ source
    (List.mem_filter.mpr ⟨cell, decide_eq_true hp⟩)
  exact acyclic c loop

/-! ## 5. Acyclic graphs -/

/-- An order in which every formula cell can be evaluated: each has its place, and none stands
    before a cell that it reads. -/
structure IsOrder (g : Graph) (order : List Position) : Prop where
  nodup : order.Nodup
  complete : ∀ p, p ∈ order ↔ p ∈ g.formulaCells
  ordered : order.Pairwise fun p q => ¬ g.Edge q p

/-- **On an acyclic graph every formula cell is placed,** however often its edges are registered. -/
theorem mem_placedCells_of_acyclic (h : g.WellFormed) (acyclic : g.Acyclic)
    (hp : p ∈ g.formulaCells) : p ∈ g.placedCells := by
  by_contra late
  obtain ⟨c, -, loop, -⟩ := exists_loop_upstream _ (fun _ => exists_leftover_source h)
    (mem_leftover.mpr ⟨hp, late⟩)
  exact acyclic c loop

/-- **On an acyclic graph there is an order of evaluation.** -/
theorem evaluationOrder_of_acyclic (h : g.WellFormed) (simple : g.Simple) (acyclic : g.Acyclic) :
    ∃ order, g.evaluationOrder = .ok order ∧ g.IsOrder order := by
  have all : ∀ p ∈ g.formulaCells, p ∈ g.placedCells := fun p =>
    mem_placedCells_of_acyclic h acyclic
  refine ⟨g.placedCells, evaluationOrder_eq_ok_iff.mpr ⟨rfl, all⟩, g.placedCells_nodup, ?_,
    placedCells_ordered h simple⟩
  exact fun p => ⟨fun hp => (mem_placedCells_iff_releases.mp hp).1, all p⟩

/-- **On an acyclic graph the formula cells downstream of others come in such an order:** exactly
    those that are reached and not changed themselves. -/
theorem affected_of_acyclic (h : g.WellFormed) (simple : g.Simple) (acyclic : g.Acyclic)
    (changed : List Position) :
    ∃ cells, g.affected changed = .ok cells ∧ cells.Nodup ∧
      (∀ p, p ∈ cells ↔ p ∉ changed ∧ ∃ r ∈ changed, g.Reaches r p) ∧
      cells.Pairwise fun p q => ¬ g.Edge q p := by
  obtain ⟨order, ok, nodup, complete, ordered⟩ := evaluationOrder_of_acyclic h simple acyclic
  refine ⟨order.filter fun p => decide (p ∈ g.downstream changed) && decide (p ∉ changed),
    ?_, nodup.filter _, fun p => ?_, ordered.filter _⟩
  · rw [affected, ok]
    rfl
  · rw [List.mem_filter, complete, Bool.and_eq_true, decide_eq_true_eq, decide_eq_true_eq,
      mem_downstream_iff]
    constructor
    · intro listed
      obtain ⟨-, reached, unchanged⟩ := listed
      exact ⟨unchanged, reached⟩
    · intro downstream
      obtain ⟨unchanged, r, hr, path⟩ := downstream
      obtain ⟨t, -, e⟩ := path.last
      exact ⟨h.mem_formulaCells_iff.mpr ⟨t, e⟩, ⟨r, hr, path⟩, unchanged⟩

end Graph

end Spreadsheet
