import Spreadsheet.Proofs.Graph.Order

/-!
# Edges registered again

Registering an edge again makes the list of its target's readers longer and changes nothing else
(`reads_register`, `reaches_register`), so what is reached stays the same. The ordering, however,
takes one off the reader's counter for every registration.

* `placedCells_subset`: more registrations place no cell less. So where there was an order there is
  one still, of the same cells (`evaluationOrder_register`, `affected_register`).
* `evaluationOrder_register_alone`: if the reader reads no other formula cell, or the target is none,
  the order is the very same, and so is the fault if there is one.
* `register_again` puts both together. Otherwise a cell may come before one that it reads, and cells
  that wait for each other may be placed (`not_circular_again`).
-/

namespace Spreadsheet

namespace Graph

open Relation

variable {g g' : Graph} {t r p q : Position} {placed placed' : List Position}

/-! ## 1. What stays the same -/

theorem edge_register_again (old : g.Edge t r) : (g.register t r).Edge = g.Edge := by
  funext p q
  refine propext (edge_register.trans ⟨fun e => e.elim id ?_, .inl⟩)
  rintro ⟨rfl, rfl⟩
  exact old

theorem reaches_register (old : g.Edge t r) : (g.register t r).Reaches = g.Reaches := by
  unfold Reaches
  rw [edge_register_again old]

theorem formulaCells_congr (reads : g'.reads = g.reads) : g'.formulaCells = g.formulaCells := by
  unfold formulaCells
  rw [reads]

theorem waitingFor_congr (reads : g'.reads = g.reads) (placed : List Position) (p : Position) :
    g'.waitingFor placed p = g.waitingFor placed p := by
  unfold waitingFor readsOf
  rw [formulaCells_congr reads, reads]

theorem start_congr (reads : g'.reads = g.reads) : Sorting.start g' = Sorting.start g := by
  unfold Sorting.start readsOf
  rw [formulaCells_congr reads, reads]

/-! ## 2. More registrations -/

theorem count_readersOf_register (g : Graph) (t r p q : Position) :
    (g.readersOf p).count q ≤ ((g.register t r).readersOf p).count q := by
  rw [readersOf_register]
  split
  · rename_i same
    rw [same, List.count_append]
    omega
  · exact Nat.le_refl _

/-- More cells with more registrations each release a reader more often. -/
theorem releases_le (more : ∀ t, (g.readersOf t).count p ≤ (g'.readersOf t).count p)
    (nodup : placed.Nodup) (sub : placed ⊆ placed') :
    g.releases placed p ≤ g'.releases placed' p := by
  have registrations : g.releases placed p ≤ g'.releases placed p := by
    clear nodup sub
    induction placed with
    | nil => exact Nat.le_refl _
    | cons t placed ih =>
      have here := more t
      rw [releases_cons, releases_cons]
      omega
  obtain ⟨same, perm, sublist⟩ := List.subperm_of_subset nodup sub
  have cells : g'.releases placed p ≤ g'.releases placed' p := by
    rw [releases, releases, ← (perm.flatMap_right g'.readersOf).count_eq]
    exact (sublist.flatMap g'.readersOf).count_le p
  omega

/-- **More registrations of the same edges place no cell less.** -/
theorem placedCells_subset (reads : g'.reads = g.reads)
    (more : ∀ t p, (g.readersOf t).count p ≤ (g'.readersOf t).count p) :
    g.placedCells ⊆ g'.placedCells := by
  -- in the order of `g`: the cells before `p` are placed in `g'` too, and release it often enough
  have early : ∀ first rest, g.placedCells = first ++ rest → first ⊆ g'.placedCells := by
    intro first
    induction first using List.reverseRecOn with
    | nil => exact fun rest _ => List.nil_subset _
    | append_singleton first p ih =>
      intro rest split
      rw [List.append_assoc] at split
      have before : first ⊆ g'.placedCells := ih _ split
      have nodup : first.Nodup := by
        have all := g.placedCells_nodup
        rw [split] at all
        exact (List.nodup_append.mp all).1
      have enough : g.waitingFor [] p ≤ g.releases first p := releases_before split
      have released := releases_le (fun t => more t p) nodup before
      have cell : p ∈ g.formulaCells := by
        have listed : p ∈ g.placedCells := by simp [split]
        exact (mem_placedCells_iff_releases.mp listed).1
      have here : p ∈ g'.placedCells := by
        rw [mem_placedCells_iff_releases, formulaCells_congr reads, waitingFor_congr reads]
        exact ⟨cell, by omega⟩
      intro q hq
      rcases List.mem_append.mp hq with old | new
      · exact before old
      · rw [List.mem_singleton.mp new]
        exact here
  exact early _ [] (List.append_nil _).symm

/-- **Where there is an order, there is one of the same cells after registering an edge again.** -/
theorem evaluationOrder_register {order : List Position} (h : g.WellFormed) (old : g.Edge t r)
    (ok : g.evaluationOrder = .ok order) :
    ∃ order', (g.register t r).evaluationOrder = .ok order' ∧ order'.Perm order := by
  obtain ⟨rfl, all⟩ := evaluationOrder_eq_ok_iff.mp ok
  have reads := reads_register h old
  have sub := placedCells_subset reads (g.count_readersOf_register t r)
  have all' : ∀ p ∈ (g.register t r).formulaCells, p ∈ (g.register t r).placedCells := by
    rw [formulaCells_congr reads]
    exact fun p hp => sub (all p hp)
  refine ⟨_, evaluationOrder_eq_ok_iff.mpr ⟨rfl, all'⟩, ?_⟩
  refine (List.perm_ext_iff_of_nodup (placedCells_nodup _) (placedCells_nodup _)).mpr fun p => ?_
  refine ⟨fun hp => all p ?_, fun hp => sub hp⟩
  rw [← formulaCells_congr reads]
  exact (mem_placedCells_iff_releases.mp hp).1

theorem mem_downstream_register (old : g.Edge t r) (changed : List Position) :
    p ∈ (g.register t r).downstream changed ↔ p ∈ g.downstream changed := by
  rw [mem_downstream_iff, mem_downstream_iff, reaches_register old]

/-- What is affected is read off the order of evaluation, alike before and after. -/
theorem affected_register_eq (old : g.Edge t r) (changed : List Position) :
    (g.register t r).affected changed = (g.register t r).evaluationOrder.map fun order =>
      order.filter fun p => decide (p ∈ g.downstream changed) && decide (p ∉ changed) := by
  unfold affected
  simp only [mem_downstream_register old]

theorem affected_register {changed cells : List Position} (h : g.WellFormed) (old : g.Edge t r)
    (ok : g.affected changed = .ok cells) :
    ∃ cells', (g.register t r).affected changed = .ok cells' ∧ cells'.Perm cells := by
  unfold affected at ok
  cases ordered : g.evaluationOrder with
  | error fault =>
    rw [ordered] at ok
    cases ok
  | ok order =>
    rw [ordered] at ok
    cases ok
    obtain ⟨order', ok', perm⟩ := evaluationOrder_register h old ordered
    rw [affected_register_eq old, ok']
    exact ⟨_, rfl, perm.filter _⟩

/-! ## 3. Readers of one formula cell -/

namespace Sorting

/-- The two states differ in the counter of `r` at most, and there only below one. -/
structure Alike (r : Position) (s s' : Sorting) : Prop where
  ready : s'.ready = s.ready
  placed : s'.placed = s.placed
  elsewhere : ∀ p, p ≠ r → s'.waiting.get? p = s.waiting.get? p
  here : s'.waiting.get? r = s.waiting.get? r ∨
    ∃ n n', s.waiting.get? r = some n ∧ s'.waiting.get? r = some n' ∧ n ≤ 0 ∧ n' ≤ 0

theorem Alike.refl (r : Position) (s : Sorting) : Alike r s s := ⟨rfl, rfl, fun _ _ => rfl, .inl rfl⟩

variable {s s' : Sorting}

/-- States that are alike make the same cells ready. -/
theorem Alike.one_iff (h : Alike r s s') (p : Position) :
    s'.waiting.get? p = some 1 ↔ s.waiting.get? p = some 1 := by
  by_cases same : p = r
  · subst same
    rcases h.here with e | ⟨n, n', found, found', le, le'⟩
    · rw [e]
    · rw [found, found', Option.some.injEq, Option.some.injEq]
      omega
  · rw [h.elsewhere p same]

theorem Alike.release (h : Alike r s s') (p : Position) : Alike r (s.release p) (s'.release p) where
  ready := by
    rw [ready_release, ready_release, h.ready]
    simp only [h.one_iff p]
  placed := by rw [placed_release, placed_release, h.placed]
  elsewhere q other := by rw [get?_waiting_release, get?_waiting_release, h.elsewhere q other]
  here := by
    rw [get?_waiting_release, get?_waiting_release]
    by_cases same : r = p
    · rw [if_pos same, if_pos same]
      rcases h.here with e | ⟨n, n', found, found', le, le'⟩
      · exact .inl (by rw [e])
      · refine .inr ⟨n - 1, n' - 1, by rw [found]; rfl, by rw [found']; rfl, ?_, ?_⟩
        · omega
        · omega
    · rw [if_neg same, if_neg same]
      exact h.here

theorem Alike.foldl_release (h : Alike r s s') (readers : List Position) :
    Alike r (readers.foldl Sorting.release s) (readers.foldl Sorting.release s') := by
  induction readers generalizing s s' with
  | nil => exact h
  | cons p readers ih => exact ih (h.release p)

/-- A reader with nothing left to lose may be released once more. -/
theorem Alike.release_again {n : Int} (h : Alike r s s') (found : s.waiting.get? r = some n)
    (none : n ≤ 0) : Alike r s (s'.release r) := by
  have found' : ∃ n', s'.waiting.get? r = some n' ∧ n' ≤ 0 := by
    rcases h.here with e | ⟨_, n', _, found', _, le'⟩
    · exact ⟨n, e.trans found, none⟩
    · exact ⟨n', found', le'⟩
  obtain ⟨n', found', none'⟩ := found'
  refine ⟨?_, ?_, ?_, .inr ⟨n, n' - 1, found, ?_, none, ?_⟩⟩
  · have one : ¬ s'.waiting.get? r = some 1 := by
      rw [found', Option.some.injEq]
      omega
    rw [ready_release, if_neg one, h.ready]
  · rw [placed_release, h.placed]
  · intro p other
    rw [get?_waiting_release, if_neg other, h.elsewhere p other]
  · rw [get?_waiting_release, if_pos rfl, found']
    rfl
  · omega

/-- **Placing a cell leaves the states alike,** if the reader has nothing left to lose once its target
    is placed. -/
theorem Alike.place (h : Alike r s s') (rest : List Position)
    (lost : p = t → ∃ n, (s.place g p rest).waiting.get? r = some n ∧ n ≤ 0) :
    Alike r (s.place g p rest) (s'.place (g.register t r) p rest) := by
  have start : Alike r { s with ready := rest, placed := s.placed ++ [p] }
      { s' with ready := rest, placed := s'.placed ++ [p] } :=
    ⟨rfl, by rw [h.placed], h.elsewhere, h.here⟩
  have same := start.foldl_release (g.readersOf p)
  unfold Sorting.place
  rw [readersOf_register]
  split
  · rename_i target
    obtain ⟨n, found, none⟩ := lost target
    rw [List.foldl_append, ← target]
    exact same.release_again found none
  · exact same

/-- **The whole ordering stays alike,** if the reader reads no other formula cell than the target. -/
theorem Alike.finish (h : Alike r s s') (counted : Counted g s) (old : g.Edge t r)
    (reader : r ∈ g.formulaCells) (alone : t ∈ g.formulaCells → g.waitingFor [] r ≤ 1) :
    Alike r (Sorting.finish g s) (Sorting.finish (g.register t r) s') := by
  fun_induction Sorting.finish g s generalizing s' with
  | case1 s done =>
    have done' : s'.ready = [] := h.ready.trans done
    rw [finish_of_done _ done']
    exact h
  | case2 s p rest first ih =>
    have first' : s'.ready = p :: rest := h.ready.trans first
    have counted' := counted.place first
    have lost : p = t → ∃ n, (s.place g p rest).waiting.get? r = some n ∧ n ≤ 0 := by
      intro target
      have ready : p ∈ s.placed ++ s.ready := by
        rw [first]
        exact List.mem_append_right _ List.mem_cons_self
      have one := alone (target ▸ ((counted.due p).mp ready).1)
      have listed : r ∈ g.readersOf p := target ▸ old
      have released : 0 < g.releases (s.place g p rest).placed r := by
        have placed : (s.place g p rest).placed = s.placed ++ [p] := placed_foldl_release _ _
        have once : 0 < (g.readersOf p).count r := List.count_pos_iff.mpr listed
        rw [placed, releases_snoc]
        omega
      refine ⟨_, (counted'.waiting r).trans (if_pos reader), ?_⟩
      omega
    rw [finish_of_ready _ first']
    exact ih (h.place rest lost) counted'

end Sorting

/-- **The same order, or the same fault,** when the target is no formula cell, or the only one that the
    reader reads. -/
theorem evaluationOrder_register_alone (h : g.WellFormed) (old : g.Edge t r)
    (alone : t ∈ g.formulaCells → ∀ u ∈ g.formulaCells, u ∈ g.readsOf r → u = t) :
    (g.register t r).evaluationOrder = g.evaluationOrder := by
  have reads := reads_register h old
  have reader : r ∈ g.formulaCells := h.mem_formulaCells_iff.mpr ⟨t, old⟩
  have one : t ∈ g.formulaCells → g.waitingFor [] r ≤ 1 := by
    intro cell
    have others : ((g.readsOf r).toList.countP fun u =>
        decide (u ∈ g.formulaCells) && decide (u ≠ t)) = 0 := by
      rw [List.countP_eq_zero]
      intro u hu both
      rw [Bool.and_eq_true, decide_eq_true_eq, decide_eq_true_eq] at both
      exact both.2 (alone cell u both.1 hu)
    rw [waitingFor_nil, countP_and_ne (g.readsOf r).toList_nodup _ (decide_eq_true cell), others]
    split <;> omega
  have alike := (Sorting.Alike.refl r (.start g)).finish (Sorting.counted_start g) old reader one
  have placed : (g.register t r).placedCells = g.placedCells := by
    rw [placedCells, start_congr reads]
    exact alike.placed
  unfold evaluationOrder
  rw [placed, formulaCells_congr reads]

/-! ## 4. Registering again -/

/-- **What registering an edge again changes.** The test for loops answers as before. Where there was
    an order, there is one of the same cells, and the same cells are affected. If the target is no
    formula cell, or the only one that the reader reads, then the order and what is affected are the
    same lists as before, or the same faults. -/
theorem register_again (commands : List Command) (t r : Position)
    (old : r ∈ (run commands).readersOf t) :
    (∀ p targets, ((run commands).register t r).wouldCycle p targets =
      (run commands).wouldCycle p targets) ∧
    (∀ order, (run commands).evaluationOrder = .ok order →
      ∃ order', ((run commands).register t r).evaluationOrder = .ok order' ∧ order'.Perm order) ∧
    (∀ changed cells, (run commands).affected changed = .ok cells →
      ∃ cells', ((run commands).register t r).affected changed = .ok cells' ∧ cells'.Perm cells) ∧
    ((t ∈ (run commands).formulaCells →
        ∀ u ∈ (run commands).formulaCells, u ∈ (run commands).readsOf r → u = t) →
      ((run commands).register t r).evaluationOrder = (run commands).evaluationOrder ∧
      ∀ changed, ((run commands).register t r).affected changed =
        (run commands).affected changed) := by
  have h := wellFormed_run commands
  refine ⟨?_, ?_, ?_, ?_⟩
  · intro p targets
    rw [Bool.eq_iff_iff, wouldCycle_eq_true_iff, wouldCycle_eq_true_iff, reaches_register old]
  · intro order ok
    exact evaluationOrder_register h old ok
  · intro changed cells ok
    exact affected_register h old ok
  · intro alone
    have same := evaluationOrder_register_alone h old alone
    refine ⟨same, fun changed => ?_⟩
    rw [affected_register_eq old, same]
    rfl

/-- B1 and C1 read A1, D1 reads C1, and E1 reads B1 and D1. -/
def overtaken : List Command :=
  [.register ⟨0, 0⟩ ⟨1, 0⟩, .register ⟨0, 0⟩ ⟨2, 0⟩, .register ⟨2, 0⟩ ⟨3, 0⟩,
    .register ⟨1, 0⟩ ⟨4, 0⟩, .register ⟨3, 0⟩ ⟨4, 0⟩]

/-- The general statement when it is registered again that E1 reads B1. Of the same cells, E1 then
    comes before D1, which it reads. -/
theorem register_again_overtaken :
    ⟨4, 0⟩ ∈ (run overtaken).readersOf ⟨1, 0⟩ ∧
    (run overtaken).evaluationOrder = .ok [⟨1, 0⟩, ⟨2, 0⟩, ⟨3, 0⟩, ⟨4, 0⟩] ∧
    ((run overtaken).register ⟨1, 0⟩ ⟨4, 0⟩).evaluationOrder =
      .ok [⟨1, 0⟩, ⟨2, 0⟩, ⟨4, 0⟩, ⟨3, 0⟩] ∧
    ∃ order', ((run overtaken).register ⟨1, 0⟩ ⟨4, 0⟩).evaluationOrder = .ok order' ∧
      order'.Perm [⟨1, 0⟩, ⟨2, 0⟩, ⟨3, 0⟩, ⟨4, 0⟩] := by
  have old : ⟨4, 0⟩ ∈ (run overtaken).readersOf ⟨1, 0⟩ := by decide +kernel
  have ok : (run overtaken).evaluationOrder = .ok [⟨1, 0⟩, ⟨2, 0⟩, ⟨3, 0⟩, ⟨4, 0⟩] := by
    decide +kernel
  obtain ⟨-, orders, -⟩ := register_again overtaken ⟨1, 0⟩ ⟨4, 0⟩ old
  exact ⟨old, ok, by decide +kernel, orders _ ok⟩

/-- B1 reads A1, C1 reads B1 and D1, and D1 reads C1. -/
def circular : List Command :=
  [.register ⟨0, 0⟩ ⟨1, 0⟩, .register ⟨1, 0⟩ ⟨2, 0⟩, .register ⟨3, 0⟩ ⟨2, 0⟩,
    .register ⟨2, 0⟩ ⟨3, 0⟩]

/-- **A circle goes unnoticed when an edge into it is registered again:** C1 and D1 wait for each
    other, but after a second registration that C1 reads B1 they are placed, C1 before D1. -/
theorem not_circular_again :
    ⟨2, 0⟩ ∈ (run circular).readersOf ⟨1, 0⟩ ∧
    (run circular).evaluationOrder = .error (.circular [⟨2, 0⟩, ⟨3, 0⟩]) ∧
    (run circular).affected [⟨0, 0⟩] = .error (.circular [⟨2, 0⟩, ⟨3, 0⟩]) ∧
    ((run circular).register ⟨1, 0⟩ ⟨2, 0⟩).evaluationOrder =
      .ok [⟨1, 0⟩, ⟨2, 0⟩, ⟨3, 0⟩] ∧
    ((run circular).register ⟨1, 0⟩ ⟨2, 0⟩).affected [⟨0, 0⟩] =
      .ok [⟨1, 0⟩, ⟨2, 0⟩, ⟨3, 0⟩] := by
  decide +kernel

end Graph

end Spreadsheet
