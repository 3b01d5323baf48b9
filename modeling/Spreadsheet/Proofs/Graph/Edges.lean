import Spreadsheet.Proofs.Graph.Reachability

/-!
# Both sides of the edges

A graph keeps its edges twice and lists no position without edges (`WellFormed`). Every change keeps
it so (`WellFormed.perform`), and with it every history of changes (`wellFormed_run`). What the
changes that a sheet makes do, dropping the edges of one reader and registering a formula with all
its targets, is said once as an equation on edges (`edge_clear`, `edge_registerAll`) and once as an
equation on the lists of readers (`readersOf_clear`, `readersOf_registerAll`); no later proof looks
at the maps.

A graph in which no edge is registered twice is `Simple`. Clearing keeps it simple, and so does
registering a formula that has no edges yet.
-/

namespace Spreadsheet

namespace Graph

open Relation

variable {g g' : Graph} {t p q r : Position} {targets : List Position}

/-! ## 1. Well-formed graphs -/

/-- The two maps of the graph hold the same edges, and nothing empty. -/
structure WellFormed (g : Graph) : Prop where
  /-- A reader is listed for a target exactly when the target is in the reader's set. -/
  paired : ∀ t r, r ∈ g.readersOf t ↔ t ∈ g.readsOf r
  /-- No target is listed without readers. -/
  readers_ne : ∀ t, g.readers.get? t ≠ some []
  /-- No reader is listed without targets. -/
  reads_ne : ∀ r, g.reads.get? r ≠ some .empty

/-- No edge is registered twice. -/
def Simple (g : Graph) : Prop := ∀ t, (g.readersOf t).Nodup

theorem wellFormed_empty : empty.WellFormed where
  paired _ _ := by simp [readersOf, readsOf, empty]
  readers_ne _ := by simp [empty]
  reads_ne _ := by simp [empty]

theorem simple_empty : empty.Simple := fun _ => List.nodup_nil

theorem not_edge_empty : ¬ empty.Edge p q := List.not_mem_nil

theorem acyclic_empty : empty.Acyclic := by
  intro p loop
  obtain ⟨_, _, e⟩ := loop.last
  exact not_edge_empty e

theorem readersOf_of_not_mem_keys (h : t ∉ g.readers.keys) : g.readersOf t = [] := by
  rw [readersOf, PositionMap.get?_eq_none_iff.mpr h]
  rfl

/-- A target is listed unless nothing reads it. -/
theorem WellFormed.get?_readers (h : g.WellFormed) (t : Position) :
    g.readers.get? t = none ↔ g.readersOf t = [] := by
  unfold readersOf
  cases e : g.readers.get? t with
  | none => simp
  | some readers =>
    have := h.readers_ne t
    rw [e] at this
    simpa using this

/-- A reader is listed unless it reads nothing. -/
theorem WellFormed.get?_reads (h : g.WellFormed) (r : Position) :
    g.reads.get? r = none ↔ ∀ t, t ∉ g.readsOf r := by
  unfold readsOf
  cases e : g.reads.get? r with
  | none => simp
  | some targets =>
    have ne : targets ≠ .empty := fun empty => h.reads_ne r (empty ▸ e)
    refine ⟨fun absent => (nomatch absent), fun absent => absurd ?_ ne⟩
    refine PositionSet.ext_mem fun t => ⟨fun ht => absurd ht (absent t), fun ht => ?_⟩
    exact absurd ht (PositionSet.not_mem_empty t)

/-- **A formula cell is a position that an edge leads to.** -/
theorem WellFormed.mem_formulaCells_iff (h : g.WellFormed) :
    p ∈ g.formulaCells ↔ ∃ t, g.Edge t p := by
  rw [← not_iff_not, formulaCells, ← PositionMap.get?_eq_none_iff, h.get?_reads]
  simp only [Edge, h.paired, not_exists]

/-! ## 2. Registering -/

theorem WellFormed.register (h : g.WellFormed) (t r : Position) :
    (g.register t r).WellFormed where
  paired t' r' := by
    rw [readersOf_register, readsOf_register]
    by_cases ht : t' = t <;> by_cases hr : r' = r <;>
      simp [ht, hr, PositionSet.mem_add, h.paired]
  readers_ne t' := by
    rw [Graph.register, PositionMap.get?_insert]
    split
    · simp
    · exact h.readers_ne t'
  reads_ne r' := by
    rw [Graph.register, PositionMap.get?_insert]
    split
    · intro e
      have : t ∈ (PositionMap.empty : PositionSet) := by
        rw [← Option.some.inj e]
        exact PositionSet.mem_add.mpr (.inl rfl)
      exact PositionSet.not_mem_empty t this
    · exact h.reads_ne r'

theorem registerAll_cons (g : Graph) (t : Position) (targets : List Position) (r : Position) :
    g.registerAll (t :: targets) r = (g.register t r).registerAll targets r := rfl

theorem WellFormed.registerAll (h : g.WellFormed) (targets : List Position) (r : Position) :
    (g.registerAll targets r).WellFormed := by
  induction targets generalizing g with
  | nil => exact h
  | cons t targets ih =>
    rw [registerAll_cons]
    exact ih (h.register t r)

/-- **Registering a formula puts it behind the readers of each of its targets.** -/
theorem readersOf_registerAll (nodup : targets.Nodup) (r t : Position) :
    (g.registerAll targets r).readersOf t =
      if t ∈ targets then g.readersOf t ++ [r] else g.readersOf t := by
  induction targets generalizing g with
  | nil => simp [registerAll]
  | cons t' targets ih =>
    obtain ⟨fresh, nodup⟩ := List.nodup_cons.mp nodup
    rw [registerAll_cons, ih nodup, readersOf_register]
    by_cases e : t = t'
    · subst e
      simp [fresh]
    · simp [e]

/-- Registering a reader adds one edge. -/
theorem edge_register : (g.register t r).Edge p q ↔ g.Edge p q ∨ (q = r ∧ p = t) := by
  unfold Edge
  rw [readersOf_register]
  split
  · rename_i e
    simp [e]
  · rename_i e
    simp [e]

/-- **Registering a formula adds an edge from each of its targets.** -/
theorem edge_registerAll :
    (g.registerAll targets r).Edge t q ↔ g.Edge t q ∨ (q = r ∧ t ∈ targets) := by
  induction targets generalizing g with
  | nil => simp [registerAll]
  | cons t' targets ih =>
    rw [registerAll_cons, ih, edge_register, List.mem_cons, and_or_left, or_assoc]

/-- **The test for loops is exact:** it fails if and only if the formula would lie on a loop. -/
theorem wouldCycle_iff_reaches :
    g.wouldCycle p targets = true ↔ (g.registerAll targets p).Reaches p p := by
  have old : ∀ x y, g.Edge x y → (g.registerAll targets p).Edge x y := fun x y e =>
    edge_registerAll.mpr (.inl e)
  have new : ∀ t ∈ targets, (g.registerAll targets p).Edge t p := fun t ht =>
    edge_registerAll.mpr (.inr ⟨rfl, ht⟩)
  rw [wouldCycle_eq_true_iff]
  constructor
  · rintro (own | ⟨q, path, rfl | ht⟩)
    · exact .single (new p own)
    · exact TransGen.mono old _ _ path
    · exact TransGen.tail (TransGen.mono old _ _ path) (new q ht)
  · intro loop
    rcases reaches_of_added (fun x y => edge_registerAll.mp) loop with path | ⟨t, ht, before, -⟩
    · exact .inr ⟨p, path, .inl rfl⟩
    · rcases reflTransGen_iff_eq_or_transGen.mp before with same | path
      · exact .inl (same ▸ ht)
      · exact .inr ⟨t, path, .inr ht⟩

/-- Registering an edge again leaves the sets of targets as they are. -/
theorem reads_register (h : g.WellFormed) (old : g.Edge t r) : (g.register t r).reads = g.reads := by
  have member : t ∈ g.readsOf r := (h.paired t r).mp old
  have same : (g.readsOf r).add t = g.readsOf r := PositionSet.ext_mem fun q => by
    rw [PositionSet.mem_add]
    exact ⟨fun e => e.elim (fun e => e ▸ member) id, .inr⟩
  have listed : g.reads.get? r = some (g.readsOf r) := by
    cases e : g.reads.get? r with
    | none => exact absurd member ((h.get?_reads r).mp e t)
    | some targets => simp [readsOf, e]
  show g.reads.insert r ((g.readsOf r).add t) = g.reads
  rw [same, PositionMap.insert_of_get? listed]

/-! ## 3. Unregistering -/

theorem someReaders?_ne (readers : List Position) : someReaders? readers ≠ some [] := by
  unfold someReaders?
  split
  · simp
  · rename_i ne
    simpa using ne

theorem someTargets?_ne (targets : PositionSet) : someTargets? targets ≠ some .empty := by
  unfold someTargets?
  split
  · simp
  · rename_i ne
    simpa using ne

/-- What taking back a registration leaves. -/
theorem eq_of_unregister (ok : g.unregister t r = .ok g') :
    r ∈ g.readersOf t ∧ g' = {
      readers := g.readers.assign t (someReaders? ((g.readersOf t).erase r))
      reads :=
        if r ∈ (g.readersOf t).erase r then g.reads
        else g.reads.assign r (someTargets? ((g.readsOf r).erase t)) } := by
  by_cases member : r ∈ g.readersOf t
  · by_cases left : r ∈ (g.readersOf t).erase r
    · simp only [unregister, if_pos member, if_pos left, Except.ok.injEq] at ok ⊢
      exact ⟨member, ok.symm⟩
    · cases listed : g.reads.get? r with
      | none =>
        simp only [unregister, if_pos member, if_neg left, listed] at ok
        cases ok
      | some targets =>
        have same : g.readsOf r = targets := by rw [readsOf, listed, Option.getD_some]
        simp only [unregister, if_pos member, if_neg left, listed, same, Except.ok.injEq] at ok ⊢
        exact ⟨member, ok.symm⟩
  · simp only [unregister, if_neg member] at ok
    cases ok

/-- **A registration can be taken back unless there is none:** its reader is always listed. -/
theorem WellFormed.unregister_eq_error_iff {fault : Fault} (h : g.WellFormed) :
    g.unregister t r = .error fault ↔
      r ∉ g.readersOf t ∧ fault = (Fault.notRegistered r t).raised := by
  by_cases member : r ∈ g.readersOf t
  · refine ⟨fun refused => ?_, fun both => absurd member both.1⟩
    by_cases left : r ∈ (g.readersOf t).erase r
    · simp only [unregister, if_pos member, if_pos left] at refused
      cases refused
    · cases listed : g.reads.get? r with
      | none => exact absurd ((h.paired t r).mp member) ((h.get?_reads r).mp listed t)
      | some targets =>
        simp only [unregister, if_pos member, if_neg left, listed] at refused
        cases refused
  · simp [unregister, member, eq_comm]

/-- Unregistering takes one registration out of the list of one target. -/
theorem readersOf_unregister (ok : g.unregister t r = .ok g') (p : Position) :
    g'.readersOf p = if p = t then (g.readersOf t).erase r else g.readersOf p := by
  obtain ⟨-, rfl⟩ := eq_of_unregister ok
  unfold readersOf
  rw [PositionMap.get?_assign]
  split
  · exact getD_someReaders? _
  · rfl

/-- The target leaves the reader's set with the last registration. -/
theorem readsOf_unregister (ok : g.unregister t r = .ok g') (q : Position) :
    g'.readsOf q =
      if q = r ∧ r ∉ (g.readersOf t).erase r then (g.readsOf r).erase t else g.readsOf q := by
  obtain ⟨-, rfl⟩ := eq_of_unregister ok
  by_cases left : r ∈ (g.readersOf t).erase r
  · simp [readsOf, left]
  · by_cases same : q = r
    · simp [readsOf, left, same, PositionMap.get?_assign]
    · simp [readsOf, left, same, PositionMap.get?_assign]

theorem WellFormed.unregister (h : g.WellFormed) (ok : g.unregister t r = .ok g') :
    g'.WellFormed where
  paired p q := by
    have member : r ∈ g.readersOf t := (eq_of_unregister ok).1
    rw [readersOf_unregister ok, readsOf_unregister ok]
    by_cases target : p = t
    · subst target
      by_cases reader : q = r
      · subst reader
        by_cases left : q ∈ (g.readersOf p).erase q
        · simp [left, ← h.paired, member]
        · simp [left, PositionSet.mem_erase]
      · simp [reader, List.mem_erase_of_ne, h.paired]
    · by_cases gone : q = r ∧ r ∉ (g.readersOf t).erase r
      · rw [if_neg target, if_pos gone, PositionSet.mem_erase, h.paired, gone.1]
        simp [target]
      · rw [if_neg target, if_neg gone, h.paired]
  readers_ne p := by
    obtain ⟨-, rfl⟩ := eq_of_unregister ok
    rw [PositionMap.get?_assign]
    split
    · exact someReaders?_ne _
    · exact h.readers_ne p
  reads_ne q := by
    obtain ⟨-, rfl⟩ := eq_of_unregister ok
    by_cases left : r ∈ (g.readersOf t).erase r
    · simp only [if_pos left]
      exact h.reads_ne q
    · simp only [if_neg left, PositionMap.get?_assign]
      split
      · exact someTargets?_ne _
      · exact h.reads_ne q

/-! ## 4. Clearing -/

/-- **Clearing strikes the reader from every list of readers.** -/
theorem readersOf_clear (h : g.WellFormed) (r t : Position) :
    (g.clear r).readersOf t = (g.readersOf t).filter (· ≠ r) := by
  rw [clear, readersOf_clearAlong]
  split
  · rfl
  · rename_i other
    have absent : r ∉ g.readersOf t := fun e => other ((h.paired t r).mp e)
    rw [eq_comm, List.filter_eq_self]
    intro q hq
    simpa using fun e : q = r => absent (e ▸ hq)

/-- **Clearing takes away the edges to one reader.** -/
theorem edge_clear (h : g.WellFormed) : (g.clear r).Edge t q ↔ g.Edge t q ∧ q ≠ r := by
  unfold Edge
  rw [readersOf_clear h, List.mem_filter, decide_eq_true_eq]

theorem foldl_strike_ne {readers : PositionMap (List Position)} (targets : List Position)
    (h : ∀ t, readers.get? t ≠ some []) (r t : Position) :
    (targets.foldl (strike r) readers).get? t ≠ some [] := by
  rw [get?_foldl_strike]
  split
  · exact someReaders?_ne _
  · exact h t

theorem WellFormed.clear (h : g.WellFormed) (r : Position) : (g.clear r).WellFormed where
  paired t q := by
    rw [readersOf_clear h, readsOf_clear, List.mem_filter, h.paired]
    split
    · rename_i e
      simp [e]
    · rename_i e
      simp [e]
  readers_ne t := foldl_strike_ne _ h.readers_ne r t
  reads_ne q := by
    rw [Graph.clear, clearAlong, PositionMap.get?_erase]
    split
    · simp
    · exact h.reads_ne q

/-! ## 5. Histories -/

/-- **Every change keeps the graph well-formed.** -/
theorem WellFormed.perform (h : g.WellFormed) (command : Command) :
    (g.perform command).1.WellFormed := by
  cases command with
  | register t r => exact h.register t r
  | unregister t r =>
    simp only [Graph.perform]
    split
    · rename_i outcome
      exact h.unregister outcome
    · exact h
  | clear r => exact h.clear r

theorem wellFormed_run (commands : List Command) : (run commands).WellFormed := by
  have kept : ∀ g : Graph, g.WellFormed →
      (commands.foldl (fun g command => (g.perform command).1) g).WellFormed := by
    induction commands with
    | nil => exact fun g h => h
    | cons command commands ih => exact fun g h => ih _ (h.perform command)
  exact kept empty wellFormed_empty

/-! ## 6. Simple graphs -/

/-- A position without readers has none twice. -/
theorem simple_iff : g.Simple ↔ ∀ t ∈ g.readers.keys, (g.readersOf t).Nodup := by
  refine ⟨fun simple t _ => simple t, fun listed t => ?_⟩
  by_cases target : t ∈ g.readers.keys
  · exact listed t target
  · rw [readersOf_of_not_mem_keys target]
    exact List.nodup_nil

instance : Decidable g.Simple := decidable_of_iff' _ simple_iff

theorem Simple.clear (h : g.WellFormed) (simple : g.Simple) (r : Position) : (g.clear r).Simple := by
  intro t
  rw [readersOf_clear h]
  exact (simple t).filter _

/-- A formula without edges is registered for each of its targets once. -/
theorem Simple.registerAll (simple : g.Simple) (nodup : targets.Nodup)
    (fresh : ∀ t, ¬ g.Edge t r) : (g.registerAll targets r).Simple := by
  intro t
  rw [readersOf_registerAll nodup]
  split
  · refine List.nodup_append.mpr ⟨simple t, List.nodup_cons.mpr ⟨List.not_mem_nil, List.nodup_nil⟩, ?_⟩
    intro q hq r' hr' e
    rw [List.mem_singleton] at hr'
    exact fresh t (hr' ▸ e ▸ hq)
  · exact simple t

end Graph

end Spreadsheet
