import Mathlib.Data.List.TakeWhile
import Mathlib.Logic.Relation
import Spreadsheet.Graph.Search

/-!
# Reachability along the readers

What the search of `Spreadsheet.Graph.Search` finds, said without it: an edge leads from a position
to each of its readers (`Edge`), one or more edges lead from a position to those downstream of it
(`Reaches`), and a graph is acyclic when no position is downstream of itself (`Acyclic`).

* `mem_downstream_iff`: the search finds exactly what is reached, on cyclic graphs too.
* `wouldCycle_eq_true_iff`: the test before a formula is accepted, in terms of `Reaches`.
* `reaches_of_added`: a path over old and added edges, cut at its first and its last added edge.
* `acyclic_of_added`: edges that pass the test close no loop.
* `reaches_of_replaced`: a path when the edges into one place are replaced.
-/

namespace Spreadsheet

namespace Graph

open Relation

variable {g : Graph}

/-! ## 1. Edges and paths -/

/-- The formula at `q` is registered as a reader of `p`. -/
def Edge (g : Graph) (p q : Position) : Prop := q ∈ g.readersOf p

/-- One or more edges lead from the first position to the second. -/
def Reaches (g : Graph) : Position → Position → Prop := TransGen g.Edge

/-- No position is downstream of itself. -/
def Acyclic (g : Graph) : Prop := ∀ p, ¬ g.Reaches p p

theorem Reaches.trans {p q r : Position} (h : g.Reaches p q) (h' : g.Reaches q r) :
    g.Reaches p r := TransGen.trans h h'

/-- A path ends with an edge; what stands before that edge is reached or is where the path began. -/
theorem Reaches.last {p q : Position} (h : g.Reaches p q) :
    ∃ r, (r = p ∨ g.Reaches p r) ∧ g.Edge r q := by
  cases h with
  | single e => exact ⟨p, .inl rfl, e⟩
  | tail h e => exact ⟨_, .inr h, e⟩

/-- A graph without a loop keeps none when edges are taken away. -/
theorem Acyclic.mono {g' : Graph} (h : g.Acyclic) (sub : ∀ p q, g'.Edge p q → g.Edge p q) :
    g'.Acyclic :=
  fun p loop => h p (TransGen.mono sub p p loop)

/-! ## 2. What the search finds -/

section Search

variable {next : Position → List Position} {unseen pending : List Position} {p q : Position}

/-- What is not seen yet is not skipped. -/
theorem mem_dropWhile_of_unseen (hp : p ∈ pending) (hu : p ∈ unseen) :
    p ∈ pending.dropWhile fun q => decide (q ∉ unseen) := by
  have split := List.takeWhile_append_dropWhile (p := fun q => decide (q ∉ unseen)) (l := pending)
  rw [← split] at hp
  refine (List.mem_append.mp hp).resolve_left fun skipped => ?_
  have := List.mem_takeWhile_imp skipped
  rw [decide_eq_true_eq] at this
  exact this hu

/-- What is pending and not seen yet is found. -/
theorem mem_search_of_pending (hp : p ∈ pending) (hu : p ∈ unseen) :
    p ∈ search next unseen pending := by
  fun_induction search next unseen pending with
  | case1 unseen pending done =>
    have := mem_dropWhile_of_unseen hp hu
    rw [done] at this
    cases this
  | case2 unseen pending a rest first ih =>
    by_cases e : p = a
    · exact List.mem_cons.mpr (.inl e)
    · have later := mem_dropWhile_of_unseen hp hu
      rw [first] at later
      have hr : p ∈ rest := (List.mem_cons.mp later).resolve_left e
      exact List.mem_cons_of_mem _
        (ih (List.mem_append_right _ hr) ((List.mem_erase_of_ne e).mpr hu))

/-- What a found position leads to is found. -/
theorem mem_search_of_next (hp : p ∈ search next unseen pending) (hq : q ∈ next p)
    (hu : q ∈ unseen) : q ∈ search next unseen pending := by
  fun_induction search next unseen pending with
  | case1 unseen pending done => cases hp
  | case2 unseen pending a rest first ih =>
    by_cases e : q = a
    · exact List.mem_cons.mpr (.inl e)
    · have hu' : q ∈ unseen.erase a := (List.mem_erase_of_ne e).mpr hu
      rcases List.mem_cons.mp hp with rfl | later
      · exact List.mem_cons_of_mem _
          (mem_search_of_pending (List.mem_append_left _ hq) hu')
      · exact List.mem_cons_of_mem _ (ih later hu')

/-- Nothing else is found. -/
theorem exists_path_of_mem_search (h : q ∈ search next unseen pending) :
    ∃ p ∈ pending, ReflTransGen (fun a b => b ∈ next a) p q := by
  fun_induction search next unseen pending with
  | case1 unseen pending done => cases h
  | case2 unseen pending a rest first ih =>
    have sub : ∀ b ∈ a :: rest, b ∈ pending := fun b hb =>
      (List.dropWhile_sublist _).subset (first ▸ hb)
    rcases List.mem_cons.mp h with rfl | later
    · exact ⟨q, sub q List.mem_cons_self, .refl⟩
    · obtain ⟨p, hp, path⟩ := ih later
      rcases List.mem_append.mp hp with ha | hr
      · exact ⟨a, sub a List.mem_cons_self, .head ha path⟩
      · exact ⟨p, sub p (List.mem_cons_of_mem _ hr), path⟩

end Search

/-- **The search finds exactly the positions that are reached from a root by one or more edges.** -/
theorem mem_downstream_iff {roots : List Position} {q : Position} :
    q ∈ g.downstream roots ↔ ∃ r ∈ roots, g.Reaches r q := by
  constructor
  · intro h
    obtain ⟨p, hp, path⟩ := exists_path_of_mem_search h
    obtain ⟨r, hr, e⟩ := List.mem_flatMap.mp hp
    exact ⟨r, hr, TransGen.head' e path⟩
  · intro reached
    obtain ⟨r, hr, path⟩ := reached
    unfold Reaches at path
    induction path with
    | single e => exact mem_search_of_pending (List.mem_flatMap.mpr ⟨r, hr, e⟩) (mem_allReaders e)
    | tail _ e ih => exact mem_search_of_next ih e (mem_allReaders e)

instance (p q : Position) : Decidable (g.Reaches p q) :=
  decidable_of_iff (q ∈ g.downstream [p]) (mem_downstream_iff.trans (by simp))

/-- Only what reads something can be downstream of itself. -/
theorem acyclic_iff : g.Acyclic ↔ ∀ p ∈ g.allReaders, ¬ g.Reaches p p := by
  refine ⟨fun acyclic p _ => acyclic p, fun free p loop => ?_⟩
  obtain ⟨_, -, e⟩ := loop.last
  exact free p (mem_allReaders e) loop

instance : Decidable g.Acyclic := decidable_of_iff' _ acyclic_iff

/-- **What the test for loops answers:** the formula reads itself, or a position that it leads to,
    or it lies on a loop already. -/
theorem wouldCycle_eq_true_iff {p : Position} {targets : List Position} :
    g.wouldCycle p targets = true ↔
      p ∈ targets ∨ ∃ q, g.Reaches p q ∧ (q = p ∨ q ∈ targets) := by
  simp only [wouldCycle, Bool.or_eq_true, decide_eq_true_eq, List.any_eq_true, mem_downstream_iff,
    List.mem_singleton, exists_eq_left]

/-- A formula that passes the test does not read its own position. -/
theorem not_mem_of_wouldCycle {p : Position} {targets : List Position}
    (pass : g.wouldCycle p targets = false) : p ∉ targets := by
  intro own
  rw [wouldCycle_eq_true_iff.mpr (.inl own)] at pass
  cases pass

/-! ## 3. Added edges -/

section Added

variable {g' : Graph} {p : Position} {targets : List Position}

/-- **A path over old edges and added ones into `p`:** it uses old edges only, or it comes to a
    target, its first added edge, and goes on from `p` after its last one. -/
theorem reaches_of_added (added : ∀ x y, g'.Edge x y → g.Edge x y ∨ (y = p ∧ x ∈ targets))
    {x y : Position} (h : g'.Reaches x y) :
    g.Reaches x y ∨ ∃ t ∈ targets, ReflTransGen g.Edge x t ∧ ReflTransGen g.Edge p y := by
  unfold Reaches at h
  induction h with
  | single e =>
    rcases added _ _ e with old | ⟨rfl, ht⟩
    · exact .inl (.single old)
    · exact .inr ⟨x, ht, .refl, .refl⟩
  | tail _ e ih =>
    rcases added _ _ e with old | ⟨rfl, ht⟩
    · rcases ih with path | ⟨t, ht, before, after⟩
      · exact .inl (TransGen.tail path old)
      · exact .inr ⟨t, ht, before, after.tail old⟩
    · rcases ih with path | ⟨t, ht', before, _⟩
      · exact .inr ⟨_, ht, TransGen.to_reflTransGen path, .refl⟩
      · exact .inr ⟨t, ht', before, .refl⟩

/-- **Edges from targets that pass the test close no loop.** -/
theorem acyclic_of_added (h : g.Acyclic) (pass : g.wouldCycle p targets = false)
    (added : ∀ x y, g'.Edge x y → g.Edge x y ∨ (y = p ∧ x ∈ targets)) : g'.Acyclic := by
  intro x loop
  rcases reaches_of_added added loop with old | ⟨t, ht, before, after⟩
  · exact h x old
  · -- from `p` round to the target that `p` reads: the test would have found it
    have fail : g.wouldCycle p targets = true := by
      rw [wouldCycle_eq_true_iff]
      rcases reflTransGen_iff_eq_or_transGen.mp (after.trans before) with e | path
      · exact .inl (e ▸ ht)
      · exact .inr ⟨t, path, .inr ht⟩
    rw [pass] at fail
    cases fail

end Added

/-! ## 4. Replaced edges -/

/-- **A path outlives a change of the edges into one place,** as far as it goes on from there. -/
theorem reaches_of_replaced {g' : Graph} {p x y : Position}
    (kept : ∀ t r, r ≠ p → g.Edge t r → g'.Edge t r) (h : g.Reaches x y) (other : y ≠ p) :
    g'.Reaches x y ∨ g'.Reaches p y := by
  unfold Reaches at h ⊢
  induction h with
  | single e => exact .inl (.single (kept _ _ other e))
  | @tail r y _ e ih =>
    have last : g'.Edge r y := kept r y other e
    by_cases here : r = p
    · rw [here] at last
      exact .inr (.single last)
    · rcases ih here with path | path
      · exact .inl (path.tail last)
      · exact .inr (path.tail last)

end Graph

end Spreadsheet
