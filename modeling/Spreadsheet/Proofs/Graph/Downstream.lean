import Spreadsheet.Proofs.Graph.Loops

/-!
# What is affected by changes

`Spreadsheet.Graph.Order` reads what is affected by changed cells off a list of all that they lead to.
The same is found breadth first (`spread`): the changed cells count as met from the beginning, and
whoever is met waits in a queue until its own readers are met.

* `unmet_append_lt`: the search ends on every graph, since each step takes a cell off the queue, and one
  that makes the queue longer leaves fewer readers to be met.
* `Spreading.step`: between any two steps, all readers of whoever waits no longer are met. So a way that
  leads through another changed cell is not lost, although that cell is never met itself: it waits in
  the queue from the beginning.
* `mem_spread_iff`: the search meets exactly the cells strictly downstream of the changed ones.
* `affected_exact`: these cells, in the order of evaluation, are what is affected.
-/

namespace Spreadsheet

namespace Graph

open Relation

variable {g : Graph} {roots met queue rest seen changed changed' order : List Position}
variable {p q t : Position}

/-! ## 1. The search -/

/-- The readers of a position that were not seen yet, each once. -/
def newReaders (g : Graph) (seen : List Position) (q : Position) : List Position :=
  ((g.readersOf q).filter fun r => decide (r ∉ seen)).eraseDups

theorem mem_newReaders : t ∈ g.newReaders seen q ↔ g.Edge q t ∧ t ∉ seen := by
  simp [newReaders, Edge, List.mem_eraseDups]

/-- The registered readers that were not seen yet, as often as they are registered. -/
def unmet (g : Graph) (seen : List Position) : List Position :=
  g.allReaders.filter fun r => decide (r ∉ seen)

/-- **Meeting somebody new leaves fewer to be met.** -/
theorem unmet_append_lt (new : t ∈ g.newReaders seen q) :
    (g.unmet (seen ++ g.newReaders seen q)).length < (g.unmet seen).length := by
  obtain ⟨edge, fresh⟩ := mem_newReaders.mp new
  have left : g.unmet (seen ++ g.newReaders seen q) =
      (g.unmet seen).filter fun r => decide (r ∉ g.newReaders seen q) := by
    simp [unmet, List.filter_filter, Bool.and_comm]
  have waiting : t ∈ g.unmet seen :=
    List.mem_filter.mpr ⟨mem_allReaders edge, decide_eq_true fresh⟩
  rw [left, List.length_filter_lt_length_iff_exists]
  exact ⟨t, waiting, fun kept => of_decide_eq_true kept new⟩

/-- **The positions met from those in the queue,** first come first: the readers of the first one that
    were not met yet are met, and join the queue. The roots count as met, but are not listed. -/
def spread (g : Graph) (roots met : List Position) : List Position → List Position
  | [] => met
  | q :: rest =>
    g.spread roots (met ++ g.newReaders (roots ++ met) q) (rest ++ g.newReaders (roots ++ met) q)
termination_by queue => ((g.unmet (roots ++ met)).length, queue.length)
decreasing_by
  rw [← List.append_assoc]
  cases none : g.newReaders (roots ++ met) q with
  | nil =>
    rw [List.append_nil, List.append_nil]
    exact Prod.Lex.right _ (Nat.lt_succ_self _)
  | cons t others =>
    have new : t ∈ g.newReaders (roots ++ met) q := none ▸ List.mem_cons_self
    exact Prod.Lex.left _ _ (none ▸ unmet_append_lt new)

/-- **What is affected, found breadth first.** -/
def affectedBySpread (g : Graph) (changed : List Position) : Except Fault (List Position) :=
  let met := g.spread changed [] changed
  g.evaluationOrder.map fun order => order.filter fun p => decide (p ∈ met)

/-! ## 2. What the search meets -/

/-- What holds between any two steps of the search. -/
structure Spreading (g : Graph) (roots met queue : List Position) : Prop where
  /-- Only cells strictly downstream of the roots are met. -/
  sound : ∀ p ∈ met, p ∉ roots ∧ ∃ r ∈ roots, g.Reaches r p
  /-- Whoever waits is a root or was met. -/
  queued : ∀ q ∈ queue, q ∈ roots ++ met
  /-- All readers of whoever waits no longer are met. -/
  closed : ∀ p ∈ roots ++ met, p ∈ queue ∨ ∀ t, g.Edge p t → t ∈ roots ++ met

theorem spreading_start (g : Graph) (roots : List Position) : Spreading g roots [] roots where
  sound _ hp := nomatch hp
  queued _ hq := List.mem_append_left _ hq
  closed _ hp := .inl ((List.append_nil roots) ▸ hp)

/-- **A step keeps the invariant.** -/
theorem Spreading.step (h : Spreading g roots met (q :: rest)) :
    Spreading g roots (met ++ g.newReaders (roots ++ met) q)
      (rest ++ g.newReaders (roots ++ met) q) where
  sound p hp := by
    rcases List.mem_append.mp hp with old | new
    · exact h.sound p old
    · obtain ⟨edge, fresh⟩ := mem_newReaders.mp new
      refine ⟨fun root => fresh (List.mem_append_left _ root), ?_⟩
      rcases List.mem_append.mp (h.queued q List.mem_cons_self) with root | old
      · exact ⟨q, root, .single edge⟩
      · obtain ⟨-, r, hr, path⟩ := h.sound q old
        exact ⟨r, hr, path.tail edge⟩
  queued t ht := by
    rw [← List.append_assoc]
    rcases List.mem_append.mp ht with old | new
    · exact List.mem_append_left _ (h.queued t (List.mem_cons_of_mem _ old))
    · exact List.mem_append_right _ new
  closed p hp := by
    rw [← List.append_assoc] at hp ⊢
    rcases List.mem_append.mp hp with old | new
    · rcases h.closed p old with waits | done
      · rcases List.mem_cons.mp waits with rfl | waits
        · -- the readers of the first in the queue were seen before, or they are met now
          refine .inr fun t edge => ?_
          by_cases seen : t ∈ roots ++ met
          · exact List.mem_append_left _ seen
          · exact List.mem_append_right _ (mem_newReaders.mpr ⟨edge, seen⟩)
        · exact .inl (List.mem_append_left _ waits)
      · exact .inr fun t edge => List.mem_append_left _ (done t edge)
    · exact .inl (List.mem_append_right _ new)

/-- **So does the whole search, and in the end nobody waits.** -/
theorem Spreading.spread (h : Spreading g roots met queue) :
    Spreading g roots (g.spread roots met queue) [] := by
  fun_induction Graph.spread g roots met queue with
  | case1 => exact h
  | case2 met q rest ih => exact ih h.step

/-- **When nobody waits, all that is downstream of somebody met is met.** -/
theorem Spreading.of_reaches (h : Spreading g roots met []) (path : g.Reaches p t)
    (start : p ∈ roots ++ met) : t ∈ roots ++ met := by
  have next : ∀ {x y}, x ∈ roots ++ met → g.Edge x y → y ∈ roots ++ met := fun hx edge =>
    (h.closed _ hx).elim (fun waits => nomatch waits) fun done => done _ edge
  unfold Reaches at path
  induction path with
  | single edge => exact next start edge
  | tail _ edge ih => exact next ih edge

/-- **The search meets exactly the cells strictly downstream of the roots,** also those to which all
    ways lead through other roots. -/
theorem mem_spread_iff :
    p ∈ g.spread roots [] roots ↔ p ∉ roots ∧ ∃ r ∈ roots, g.Reaches r p := by
  have done : Spreading g roots (g.spread roots [] roots) [] := (spreading_start g roots).spread
  refine ⟨done.sound p, fun downstream => ?_⟩
  obtain ⟨other, r, hr, path⟩ := downstream
  have met := done.of_reaches path (List.mem_append_left _ hr)
  exact (List.mem_append.mp met).resolve_left other

/-! ## 3. What is affected -/

/-- **What is affected are the members of the order strictly downstream of the changed cells.** -/
theorem affected_eq (g : Graph) (changed : List Position) :
    g.affected changed = g.evaluationOrder.map fun order =>
      order.filter fun p => decide (p ∉ changed ∧ ∃ r ∈ changed, g.Reaches r p) := by
  have member : ∀ p, (decide (p ∈ g.downstream changed) && decide (p ∉ changed)) =
      decide (p ∉ changed ∧ ∃ r ∈ changed, g.Reaches r p) := by
    intro p
    rw [← Bool.decide_and, decide_eq_decide, mem_downstream_iff, and_comm]
  simp only [affected, member]

/-- **Searching breadth first gives the same.** -/
theorem affectedBySpread_eq (g : Graph) (changed : List Position) :
    g.affectedBySpread changed = g.affected changed := by
  rw [affected_eq, affectedBySpread]
  simp only [mem_spread_iff]

/-- It counts which cells are changed, and neither in which order they are given nor how often. -/
theorem affected_congr (g : Graph) (same : ∀ p, p ∈ changed' ↔ p ∈ changed) :
    g.affected changed' = g.affected changed := by
  rw [affected_eq, affected_eq]
  simp only [same]

/-- An order of evaluation leaves out nothing that is downstream of something. -/
theorem WellFormed.mem_order_of_reaches (h : g.WellFormed) (ok : g.evaluationOrder = .ok order)
    (path : g.Reaches t p) : p ∈ order := by
  obtain ⟨rfl, all⟩ := evaluationOrder_eq_ok_iff.mp ok
  exact all p (h.mem_formulaCells_of_reaches path)

/-- **What is affected is exactly what lies strictly downstream,** on every graph, with repeated edges
    or without. A search that meets the readers of the changed cells breadth first gives it. Where there
    is no order of evaluation, the fault is that of the order, whatever was changed. Where there is one,
    the cells affected are those members of it, in its order and each once, that are not changed
    themselves and that a changed cell leads to by one or more edges; and every such cell is a member of
    it. In which order and how often the changed cells are given makes no difference. -/
theorem affected_exact (commands : List Command) (changed : List Position) :
    (run commands).affectedBySpread changed = (run commands).affected changed ∧
    (∀ fault, (run commands).evaluationOrder = .error fault →
      (run commands).affected changed = .error fault) ∧
    (∀ order, (run commands).evaluationOrder = .ok order →
      (run commands).affected changed = .ok (order.filter fun p =>
        decide (p ∉ changed ∧ ∃ r ∈ changed, (run commands).Reaches r p)) ∧
      order.Nodup ∧
      ∀ p, (∃ r ∈ changed, (run commands).Reaches r p) → p ∈ order) ∧
    ∀ changed', (∀ p, p ∈ changed' ↔ p ∈ changed) →
      (run commands).affected changed' = (run commands).affected changed := by
  refine ⟨affectedBySpread_eq _ changed, ?_, ?_, fun changed' => affected_congr _⟩
  · intro fault error
    rw [affected_eq, error]
    rfl
  · intro order ok
    refine ⟨by rw [affected_eq, ok]; rfl, ?_, ?_⟩
    · obtain ⟨rfl, -⟩ := evaluationOrder_eq_ok_iff.mp ok
      exact placedCells_nodup _
    · intro p reached
      obtain ⟨r, -, path⟩ := reached
      exact (wellFormed_run commands).mem_order_of_reaches ok path

/-- B1 reads A1, C1 reads B1, D1 reads C1 and, twice registered, A2; E1 reads D1. -/
def throughOther : List Command :=
  [.register ⟨0, 0⟩ ⟨1, 0⟩, .register ⟨1, 0⟩ ⟨2, 0⟩, .register ⟨2, 0⟩ ⟨3, 0⟩,
    .register ⟨0, 1⟩ ⟨3, 0⟩, .register ⟨0, 1⟩ ⟨3, 0⟩, .register ⟨3, 0⟩ ⟨4, 0⟩]

/-- The general statement at this graph, when D1, A1 and D1 again are changed: from A1 the way to E1
    leads through D1, which is changed itself. -/
theorem affected_exact_through_other :
    (run throughOther).evaluationOrder = .ok [⟨1, 0⟩, ⟨2, 0⟩, ⟨3, 0⟩, ⟨4, 0⟩] ∧
    (run throughOther).affected [⟨3, 0⟩, ⟨0, 0⟩, ⟨3, 0⟩] = .ok [⟨1, 0⟩, ⟨2, 0⟩, ⟨4, 0⟩] ∧
    (run throughOther).affectedBySpread [⟨3, 0⟩, ⟨0, 0⟩, ⟨3, 0⟩] =
      .ok [⟨1, 0⟩, ⟨2, 0⟩, ⟨4, 0⟩] ∧
    (run throughOther).affected [⟨0, 0⟩, ⟨3, 0⟩] = .ok [⟨1, 0⟩, ⟨2, 0⟩, ⟨4, 0⟩] := by
  have ok : (run throughOther).evaluationOrder = .ok [⟨1, 0⟩, ⟨2, 0⟩, ⟨3, 0⟩, ⟨4, 0⟩] := by
    decide +kernel
  have downstream : ([⟨1, 0⟩, ⟨2, 0⟩, ⟨3, 0⟩, ⟨4, 0⟩] : List Position).filter (fun p =>
      decide (p ∉ [(⟨3, 0⟩ : Position), ⟨0, 0⟩, ⟨3, 0⟩] ∧
        ∃ r ∈ [(⟨3, 0⟩ : Position), ⟨0, 0⟩, ⟨3, 0⟩], (run throughOther).Reaches r p)) =
      [⟨1, 0⟩, ⟨2, 0⟩, ⟨4, 0⟩] := by decide +kernel
  obtain ⟨search, -, exact, unordered⟩ :=
    affected_exact throughOther [⟨3, 0⟩, ⟨0, 0⟩, ⟨3, 0⟩]
  have cells := (exact _ ok).1
  rw [downstream] at cells
  have same : ∀ p, p ∈ [(⟨0, 0⟩ : Position), ⟨3, 0⟩] ↔
      p ∈ [(⟨3, 0⟩ : Position), ⟨0, 0⟩, ⟨3, 0⟩] := by
    intro p
    simp only [List.mem_cons, List.not_mem_nil, or_false]
    tauto
  exact ⟨ok, cells, search.trans cells, (unordered _ same).trans cells⟩

end Graph

end Spreadsheet
