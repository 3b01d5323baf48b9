import Spreadsheet.Proofs.Graph.Order

/-!
# The test for loops as a walk

The test of `Spreadsheet.Graph.Search` lists all that is downstream of a position before it looks for
a loop. The same is found by a walk that stops at the first position that closes one (`closesLoop`):
it keeps the positions it has seen and those still to be looked at, the latest first, and one of
these may be pending several times.

* `unseen_cons`: a walk ends on every graph, since each step leaves one position fewer to be seen, or
  else one fewer pending.
* `meets_iff`: it finds a goal exactly when one is reached. What the walk has seen leads to nothing
  but what it has seen or has still pending, so no way to a goal is lost with a position that is
  skipped.
* `wouldCycle_exact` puts the answers together: the walk, the loops of the graph with the new edges,
  and the three ways in which such a loop can come about.
-/

namespace Spreadsheet

namespace Graph

open Relation

variable {g : Graph} {goal : Position → Bool} {seen pending targets : List Position}
variable {p q t : Position}

/-! ## 1. The walk -/

/-- How many of the positions that have readers were not seen yet. -/
def unseen (g : Graph) (seen : List Position) : Nat :=
  g.readers.keys.countP fun q => decide (q ∉ seen)

/-- A position that is seen now counts no longer. -/
theorem unseen_cons (new : q ∉ seen) :
    g.unseen seen = g.unseen (q :: seen) + if q ∈ g.readers.keys then 1 else 0 := by
  have split := countP_and_ne g.readers.keys_nodup (fun t => decide (t ∉ seen)) (decide_eq_true new)
  rw [unseen, split, unseen]
  congr 2
  funext t
  simp [Bool.and_comm]

/-- The readers of a position that the walk has not seen, the last one first. -/
def freshReaders (g : Graph) (seen : List Position) (q : Position) : List Position :=
  ((g.readersOf q).filter fun r => decide (r ∉ seen)).reverse

theorem mem_freshReaders : t ∈ g.freshReaders seen q ↔ g.Edge q t ∧ t ∉ seen := by
  simp [freshReaders, Edge]

/-- **Whether a walk along the readers comes to a goal.** The first of the pending positions is looked
    at next: it is a goal, or it was seen already and is skipped, or its readers are pending from then
    on. -/
def meets (g : Graph) (goal : Position → Bool) (seen : List Position) : List Position → Bool
  | [] => false
  | q :: rest =>
    if goal q then true
    else if q ∈ seen then g.meets goal seen rest
    else g.meets goal (q :: seen) (g.freshReaders (q :: seen) q ++ rest)
termination_by pending => (g.unseen seen, pending.length)
decreasing_by
  · exact Prod.Lex.right _ (Nat.lt_succ_self _)
  · rename_i new
    have less := unseen_cons (g := g) new
    by_cases target : q ∈ g.readers.keys
    · rw [if_pos target] at less
      exact Prod.Lex.left _ _ (by omega)
    · rw [if_neg target, Nat.add_zero] at less
      rw [less, freshReaders, readersOf_of_not_mem_keys target]
      exact Prod.Lex.right _ (Nat.lt_succ_self _)

/-- **The test for loops as a walk:** the formula at `p` reads itself, or the walk comes to `p` or to a
    target. -/
def closesLoop (g : Graph) (p : Position) (targets : List Position) : Bool :=
  decide (p ∈ targets) ||
    g.meets (fun q => decide (q = p) || decide (q ∈ targets)) [] (g.readersOf p).reverse

/-! ## 2. What the walk finds -/

/-- All readers of what was seen were seen or are pending. -/
def Covered (g : Graph) (seen pending : List Position) : Prop :=
  ∀ x ∈ seen, ∀ y, g.Edge x y → y ∈ seen ∨ y ∈ pending

/-- **A way out of what was seen leads through a pending position.** -/
theorem Covered.exists_pending {x y : Position} (h : g.Covered seen pending)
    (path : ReflTransGen g.Edge x y) (hx : x ∈ seen) (hy : y ∉ seen) :
    ∃ z ∈ pending, z ∉ seen ∧ ReflTransGen g.Edge z y := by
  induction path using ReflTransGen.head_induction_on with
  | refl => exact absurd hx hy
  | @head x z e path ih =>
    by_cases hz : z ∈ seen
    · exact ih hz
    · exact ⟨z, (h x hx z e).resolve_left hz, hz, path⟩

/-- The position seen next leaves its fresh readers pending. -/
theorem Covered.cons (h : g.Covered seen (q :: pending)) :
    g.Covered (q :: seen) (g.freshReaders (q :: seen) q ++ pending) := by
  intro x hx y e
  by_cases hy : y ∈ q :: seen
  · exact .inl hy
  · refine .inr (List.mem_append.mpr ?_)
    rcases List.mem_cons.mp hx with rfl | hx
    · exact .inl (mem_freshReaders.mpr ⟨e, hy⟩)
    · obtain ⟨other, unseen⟩ := not_or.mp (fun member => hy (List.mem_cons.mpr member))
      exact .inr ((List.mem_cons.mp ((h x hx y e).resolve_left unseen)).resolve_left other)

/-- **The walk comes to a goal exactly when one is reached from a pending position,** as long as none
    was seen. -/
theorem meets_iff (clear : ∀ x ∈ seen, goal x = false) (covered : g.Covered seen pending) :
    g.meets goal seen pending = true ↔
      ∃ x ∈ pending, ∃ y, ReflTransGen g.Edge x y ∧ goal y = true := by
  -- whatever goal is reached, it was not seen
  have unseen : ∀ {seen : List Position}, (∀ x ∈ seen, goal x = false) →
      ∀ y, goal y = true → y ∉ seen := by
    intro seen clear y hit member
    rw [clear y member] at hit
    cases hit
  fun_induction meets g goal seen pending with
  | case1 => simp
  | case2 seen q rest hit =>
    exact ⟨fun _ => ⟨q, List.mem_cons_self, q, .refl, hit⟩, fun _ => rfl⟩
  | case3 seen q rest miss old ih =>
    have covered' : g.Covered seen rest := by
      intro x hx y e
      rcases covered x hx y e with hy | hy
      · exact .inl hy
      · rcases List.mem_cons.mp hy with rfl | hy
        · exact .inl old
        · exact .inr hy
    refine (ih clear covered').trans ?_
    constructor
    · intro found
      obtain ⟨x, hx, reached⟩ := found
      exact ⟨x, List.mem_cons_of_mem _ hx, reached⟩
    · intro found
      obtain ⟨x, hx, y, path, hit⟩ := found
      rcases List.mem_cons.mp hx with rfl | hx
      · obtain ⟨z, hz, -, path'⟩ := covered'.exists_pending path old (unseen clear y hit)
        exact ⟨z, hz, y, path', hit⟩
      · exact ⟨x, hx, y, path, hit⟩
  | case4 seen q rest miss new ih =>
    have clear' : ∀ x ∈ q :: seen, goal x = false :=
      List.forall_mem_cons.mpr ⟨Bool.eq_false_iff.mpr miss, clear⟩
    refine (ih clear' covered.cons).trans ?_
    constructor
    · intro found
      obtain ⟨x, hx, y, path, hit⟩ := found
      rcases List.mem_append.mp hx with fresh | hx
      · exact ⟨q, List.mem_cons_self, y, .head (mem_freshReaders.mp fresh).1 path, hit⟩
      · exact ⟨x, List.mem_cons_of_mem _ hx, y, path, hit⟩
    · intro found
      obtain ⟨x, hx, y, path, hit⟩ := found
      rcases List.mem_cons.mp hx with rfl | hx
      · obtain ⟨z, hz, -, path'⟩ :=
          covered.cons.exists_pending path List.mem_cons_self (unseen clear' y hit)
        exact ⟨z, hz, y, path', hit⟩
      · exact ⟨x, List.mem_append_right _ hx, y, path, hit⟩

/-- **The walk answers as the test that lists everything first.** -/
theorem closesLoop_eq (g : Graph) (p : Position) (targets : List Position) :
    g.closesLoop p targets = g.wouldCycle p targets := by
  have clear : ∀ x ∈ ([] : List Position), (decide (x = p) || decide (x ∈ targets)) = false :=
    fun _ hx => nomatch hx
  have covered : g.Covered [] (g.readersOf p).reverse := fun _ hx => nomatch hx
  rw [Bool.eq_iff_iff, wouldCycle_eq_true_iff, closesLoop, Bool.or_eq_true, decide_eq_true_eq,
    meets_iff clear covered]
  refine or_congr_right ⟨?_, ?_⟩
  · intro found
    obtain ⟨x, hx, y, path, hit⟩ := found
    have edge : g.Edge p x := List.mem_reverse.mp hx
    exact ⟨y, TransGen.head' edge path, by simpa using hit⟩
  · intro reached
    obtain ⟨y, path, hit⟩ := reached
    obtain ⟨x, edge, path⟩ := TransGen.head'_iff.mp path
    exact ⟨x, List.mem_reverse.mpr edge, y, path, by simpa using hit⟩

/-! ## 3. The test is exact -/

/-- Registering a formula on a graph without loops closes one exactly if the formula lies on it. -/
theorem acyclic_registerAll_iff (h : g.Acyclic) :
    (g.registerAll targets p).Acyclic ↔ ¬ (g.registerAll targets p).Reaches p p := by
  refine ⟨fun acyclic => acyclic p, fun free => ?_⟩
  have pass : g.wouldCycle p targets = false :=
    Bool.eq_false_iff.mpr fun loop => free (wouldCycle_iff_reaches.mp loop)
  exact acyclic_of_added h pass fun _ _ => edge_registerAll.mp

/-- **The test for loops is exact on every graph,** with loops and repeated edges or without. A walk
    that keeps what it has seen and stops at the first hit ends, and gives the same answer: whether the
    graph with an edge from each target to `p` has a loop through `p`. There is one if `p` is a target,
    if a target is downstream of `p`, or if `p` is downstream of itself already, and in no other case.
    On a graph without loops, therefore, the test tells whether the new edges would close any. -/
theorem wouldCycle_exact (g : Graph) (p : Position) (targets : List Position) :
    g.closesLoop p targets = g.wouldCycle p targets ∧
    (g.wouldCycle p targets = true ↔ (g.registerAll targets p).Reaches p p) ∧
    (g.wouldCycle p targets = true ↔
      p ∈ targets ∨ (∃ t ∈ targets, g.Reaches p t) ∨ g.Reaches p p) ∧
    (g.Acyclic → (g.wouldCycle p targets = true ↔ ¬ (g.registerAll targets p).Acyclic)) := by
  refine ⟨g.closesLoop_eq p targets, wouldCycle_iff_reaches, ?_, ?_⟩
  · rw [wouldCycle_eq_true_iff]
    refine or_congr_right ⟨?_, ?_⟩
    · intro reached
      obtain ⟨q, path, rfl | target⟩ := reached
      · exact .inr path
      · exact .inl ⟨q, target, path⟩
    · intro reached
      rcases reached with ⟨t, target, path⟩ | path
      · exact ⟨t, path, .inr target⟩
      · exact ⟨p, path, .inl rfl⟩
  · intro acyclic
    rw [acyclic_registerAll_iff acyclic, not_not, wouldCycle_iff_reaches]

/-- It is registered twice that B1 reads A1, and C1 reads B1. -/
def readTwice : List Command :=
  [.register ⟨0, 0⟩ ⟨1, 0⟩, .register ⟨0, 0⟩ ⟨1, 0⟩, .register ⟨1, 0⟩ ⟨2, 0⟩]

/-- The general statement at this graph, when A1 is to read D1 and C1. -/
theorem wouldCycle_exact_read_twice :
    (run readTwice).Acyclic ∧
    (run readTwice).closesLoop ⟨0, 0⟩ [⟨3, 0⟩, ⟨2, 0⟩] = true ∧
    (run readTwice).wouldCycle ⟨0, 0⟩ [⟨3, 0⟩, ⟨2, 0⟩] = true ∧
    ¬ ((run readTwice).registerAll [⟨3, 0⟩, ⟨2, 0⟩] ⟨0, 0⟩).Acyclic := by
  have acyclic : (run readTwice).Acyclic := by decide +kernel
  have closes : (run readTwice).wouldCycle ⟨0, 0⟩ [⟨3, 0⟩, ⟨2, 0⟩] = true := by decide +kernel
  obtain ⟨walk, -, -, loops⟩ := wouldCycle_exact (run readTwice) ⟨0, 0⟩ [⟨3, 0⟩, ⟨2, 0⟩]
  exact ⟨acyclic, walk.trans closes, closes, (loops acyclic).mp closes⟩

end Graph

end Spreadsheet
