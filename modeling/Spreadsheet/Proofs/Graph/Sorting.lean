import Mathlib.Data.List.Nodup
import Mathlib.Data.List.Perm.Subperm
import Spreadsheet.Graph.Order

/-!
# What the ordering counts

The ordering of `Spreadsheet.Graph.Order` on any graph, however often its edges are registered. A
formula cell starts with the number of formula cells that it reads, and loses one for every time that
it stands in the list of a placed cell (`releases`). It gets ready when it has lost that many, be it
through as many cells or through fewer that list it repeatedly.

`Sorting.Counted` says so between any two steps: a step keeps it (`Sorting.Counted.place`), and so
does the whole ordering (`Sorting.counted_finish`). In the end the cells placed are those that were
released often enough (`mem_placedCells_iff_releases`).
-/

namespace Spreadsheet

namespace Graph

variable {g : Graph} {p q : Position} {placed : List Position}

/-! ## 1. Counts -/

/-- How many of the formula cells that `p` reads are still to be placed. -/
def waitingFor (g : Graph) (placed : List Position) (p : Position) : Nat :=
  (g.readsOf p).toList.countP fun t => decide (t ∈ g.formulaCells) && decide (t ∉ placed)

theorem waitingFor_nil (g : Graph) (p : Position) :
    g.waitingFor [] p = (g.readsOf p).toList.countP fun t => decide (t ∈ g.formulaCells) := by
  simp [waitingFor]

/-- How often `p` is registered as a reader of the placed cells. -/
def releases (g : Graph) (placed : List Position) (p : Position) : Nat :=
  (placed.flatMap g.readersOf).count p

theorem releases_cons (g : Graph) (t : Position) (placed : List Position) (p : Position) :
    g.releases (t :: placed) p = (g.readersOf t).count p + g.releases placed p := by
  rw [releases, List.flatMap_cons, List.count_append, releases]

theorem releases_snoc (g : Graph) (placed : List Position) (t p : Position) :
    g.releases (placed ++ [t]) p = g.releases placed p + (g.readersOf t).count p := by
  rw [releases, List.flatMap_append, List.count_append, releases, List.flatMap_singleton]

/-! ## 2. One step -/

namespace Sorting

variable {s : Sorting}

theorem get?_waiting_release (s : Sorting) (p q : Position) :
    (s.release p).waiting.get? q =
      if q = p then (s.waiting.get? q).map (· - 1) else s.waiting.get? q := by
  unfold release
  by_cases same : q = p
  · subst same
    rw [if_pos rfl]
    cases e : s.waiting.get? q with
    | none => simpa using e
    | some n => simp
  · rw [if_neg same]
    cases s.waiting.get? p with
    | none => rfl
    | some n => exact PositionMap.get?_insert_of_ne _ _ same

theorem ready_release (s : Sorting) (p : Position) :
    (s.release p).ready = if s.waiting.get? p = some 1 then s.ready ++ [p] else s.ready := by
  unfold release
  cases e : s.waiting.get? p with
  | none => simp
  | some n =>
    have one : n - 1 = 0 ↔ n = 1 := by omega
    simp only [one, Option.some.injEq]

theorem placed_release (s : Sorting) (p : Position) : (s.release p).placed = s.placed := by
  unfold release
  split <;> rfl

theorem placed_foldl_release (readers : List Position) (s : Sorting) :
    (readers.foldl release s).placed = s.placed := by
  induction readers generalizing s with
  | nil => rfl
  | cons p readers ih => rw [List.foldl_cons, ih, placed_release]

/-- **One less for every time that a cell stands in the list.** -/
theorem get?_waiting_foldl_release (readers : List Position) (s : Sorting) (q : Position) :
    (readers.foldl release s).waiting.get? q =
      (s.waiting.get? q).map (· - (readers.count q : Int)) := by
  induction readers generalizing s with
  | nil => simp
  | cons p readers ih =>
    rw [List.foldl_cons, ih, get?_waiting_release, List.count_cons]
    by_cases same : q = p
    · subst same
      cases s.waiting.get? q with
      | none => simp
      | some n =>
        have total : n - 1 - (readers.count q : Int) = n - ((readers.count q : Int) + 1) := by omega
        simp [total]
    · have other : ¬ p = q := fun e => same e.symm
      simp [same, other]

/-- **The cells that a list makes ready:** those that have something left to lose and lose it all,
    each once. -/
theorem ready_foldl_release (readers : List Position) (s : Sorting) :
    ∃ new, (readers.foldl release s).ready = s.ready ++ new ∧ new.Nodup ∧
      ∀ q, q ∈ new ↔ ∃ n, s.waiting.get? q = some n ∧ 0 < n ∧ n ≤ readers.count q := by
  induction readers generalizing s with
  | nil =>
    refine ⟨[], by simp, List.nodup_nil, fun q => ⟨fun h => absurd h List.not_mem_nil, ?_⟩⟩
    rintro ⟨n, -, positive, le⟩
    rw [List.count_nil] at le
    omega
  | cons p readers ih =>
    obtain ⟨new, ready, nodup, member⟩ := ih (s.release p)
    have later : ∀ q, q ≠ p → (q ∈ new ↔
        ∃ n, s.waiting.get? q = some n ∧ 0 < n ∧ n ≤ (p :: readers).count q) := by
      intro q other
      rw [member, get?_waiting_release, if_neg other, List.count_cons_of_ne (Ne.symm other)]
    rw [List.foldl_cons, ready, ready_release]
    by_cases one : s.waiting.get? p = some 1
    · -- `p` loses its last one here, and has nothing left to lose later
      have lost : (s.release p).waiting.get? p = some 0 := by
        simp [get?_waiting_release, one]
      have fresh : p ∉ new := by
        intro again
        obtain ⟨n, found, positive, -⟩ := (member p).mp again
        rw [lost] at found
        cases found
        omega
      rw [if_pos one, List.append_assoc]
      refine ⟨p :: new, rfl, List.nodup_cons.mpr ⟨fresh, nodup⟩, fun q => ?_⟩
      by_cases same : q = p
      · subst same
        refine ⟨fun _ => ⟨1, one, by omega, ?_⟩, fun _ => List.mem_cons_self⟩
        rw [List.count_cons_self]
        omega
      · rw [List.mem_cons, ← later q same]
        simp [same]
    · rw [if_neg one]
      refine ⟨new, rfl, nodup, fun q => ?_⟩
      by_cases same : q = p
      · subst same
        rw [member, get?_waiting_release, if_pos rfl, List.count_cons_self]
        cases found : s.waiting.get? q with
        | none => simp
        | some n =>
          have ne : n ≠ 1 := fun e => one (e ▸ found)
          simp only [Option.map_some, Option.some.injEq]
          constructor
          · rintro ⟨_, rfl, positive, le⟩
            exact ⟨n, rfl, by omega, by omega⟩
          · rintro ⟨_, rfl, positive, le⟩
            exact ⟨n - 1, rfl, by omega, by omega⟩
      · exact later q same

/-! ## 3. The invariant -/

/-- What holds between any two steps of the ordering. -/
structure Counted (g : Graph) (s : Sorting) : Prop where
  /-- A formula cell is counted with the formula cells that it reads, less its releases. -/
  waiting : ∀ p, s.waiting.get? p =
    if p ∈ g.formulaCells then some ((g.waitingFor [] p : Int) - g.releases s.placed p) else none
  /-- No cell is placed or ready twice. -/
  nodup : (s.placed ++ s.ready).Nodup
  /-- The cells placed or ready are the formula cells that were released often enough. -/
  due : ∀ p, p ∈ s.placed ++ s.ready ↔
    p ∈ g.formulaCells ∧ g.waitingFor [] p ≤ g.releases s.placed p
  /-- A placed cell was so by the cells before it. -/
  before : ∀ first p rest, s.placed = first ++ p :: rest →
    g.waitingFor [] p ≤ g.releases first p

/-- What holds of every member of a list and what stands before it is kept by one more member. -/
theorem forall_split_snoc {P : List Position → Position → Prop} {l : List Position} {a : Position}
    (old : ∀ first p rest, l = first ++ p :: rest → P first p) (new : P l a) :
    ∀ first p rest, l ++ [a] = first ++ p :: rest → P first p := by
  intro first p rest split
  rcases List.eq_nil_or_concat rest with rfl | ⟨rest, b, rfl⟩
  · obtain ⟨rfl, same⟩ := List.append_inj' split rfl
    cases same
    exact new
  · rw [List.concat_eq_append, ← List.cons_append, ← List.append_assoc] at split
    obtain ⟨rfl, -⟩ := List.append_inj' split rfl
    exact old first p rest rfl

/-- **A step keeps the invariant.** -/
theorem Counted.place {rest : List Position} (counted : Counted g s)
    (first : s.ready = p :: rest) : Counted g (s.place g p rest) := by
  obtain ⟨new, ready, nodup, member⟩ :=
    ready_foldl_release (g.readersOf p) { s with ready := rest, placed := s.placed ++ [p] }
  have placed' : (s.place g p rest).placed = s.placed ++ [p] := placed_foldl_release _ _
  have ready' : (s.place g p rest).ready = rest ++ new := ready
  have all : (s.place g p rest).placed ++ (s.place g p rest).ready =
      (s.placed ++ s.ready) ++ new := by
    rw [placed', ready', first]
    simp
  have becomes : ∀ q, q ∈ new ↔ q ∈ g.formulaCells ∧ g.releases s.placed q < g.waitingFor [] q ∧
      g.waitingFor [] q ≤ g.releases (s.placed ++ [p]) q := by
    intro q
    rw [member, releases_snoc]
    show (∃ n, s.waiting.get? q = some n ∧ _) ↔ _
    rw [counted.waiting]
    by_cases cell : q ∈ g.formulaCells
    · simp only [cell, if_true, Option.some.injEq, exists_eq_left', true_and]
      omega
    · simp [cell]
  refine ⟨?_, ?_, ?_, ?_⟩
  · intro q
    have step : (s.place g p rest).waiting.get? q =
        (s.waiting.get? q).map (· - ((g.readersOf p).count q : Int)) :=
      get?_waiting_foldl_release _ _ q
    rw [step, placed', releases_snoc, counted.waiting]
    by_cases cell : q ∈ g.formulaCells
    · simp only [cell, if_true, Option.map_some, Option.some.injEq]
      omega
    · simp [cell]
  · rw [all]
    refine List.nodup_append'.mpr ⟨counted.nodup, nodup, fun q old late => ?_⟩
    have enough := ((counted.due q).mp old).2
    have missing := ((becomes q).mp late).2.1
    omega
  · intro q
    have more : g.releases s.placed q ≤ g.releases (s.placed ++ [p]) q := by
      rw [releases_snoc]
      omega
    rw [all, List.mem_append, counted.due, becomes, placed']
    constructor
    · rintro (⟨cell, enough⟩ | ⟨cell, -, enough⟩)
      · exact ⟨cell, by omega⟩
      · exact ⟨cell, enough⟩
    · rintro ⟨cell, enough⟩
      rcases Nat.lt_or_ge (g.releases s.placed q) (g.waitingFor [] q) with missing | already
      · exact .inr ⟨cell, missing, enough⟩
      · exact .inl ⟨cell, already⟩
  · rw [placed']
    refine forall_split_snoc counted.before ?_
    have listed : p ∈ s.placed ++ s.ready := by
      rw [first]
      exact List.mem_append_right _ List.mem_cons_self
    exact ((counted.due p).mp listed).2

/-! ## 4. All steps -/

theorem get?_foldl_insert (l : List Position) (count : Position → Nat) (m : PositionMap Int)
    (q : Position) :
    ((l.map fun p => (p, count p)).foldl (fun m e => m.insert e.1 (e.2 : Int)) m).get? q =
      if q ∈ l then some (count q : Int) else m.get? q := by
  induction l generalizing m with
  | nil => simp
  | cons p l ih =>
    rw [List.map_cons, List.foldl_cons, ih, PositionMap.get?_insert]
    by_cases hq : q ∈ l
    · simp [hq]
    · by_cases e : q = p <;> simp [hq, e]

theorem ready_start (g : Graph) :
    (start g).ready = g.formulaCells.filter fun p => decide (g.waitingFor [] p = 0) := by
  simp only [start, List.filter_map, List.map_map, waitingFor_nil]
  exact List.map_id _

theorem counted_start (g : Graph) : Counted g (start g) where
  waiting p := by
    have none : g.releases (start g).placed p = 0 := rfl
    rw [none]
    simp only [start, get?_foldl_insert, PositionMap.get?_empty, waitingFor_nil]
    simp
  nodup := by
    rw [ready_start]
    exact (PositionMap.keys_nodup _).filter _
  due p := by
    have none : g.releases (start g).placed p = 0 := rfl
    rw [none, ready_start]
    simp [start, List.mem_filter]
  before first p rest split := by
    have : ([] : List Position) = first ++ p :: rest := split
    simp at this

theorem finish_of_done (g : Graph) (done : s.ready = []) : finish g s = s := by
  rw [finish]
  split
  · rfl
  · rename_i first
    rw [done] at first
    cases first

theorem finish_of_ready {rest : List Position} (g : Graph) (first : s.ready = p :: rest) :
    finish g s = finish g (s.place g p rest) := by
  rw [finish]
  split
  · rename_i done
    rw [done] at first
    cases first
  · rename_i first'
    rw [first] at first'
    cases first'
    rfl

/-- **The whole ordering keeps the invariant, and leaves no cell ready.** -/
theorem counted_finish (counted : Counted g s) :
    Counted g (finish g s) ∧ (finish g s).ready = [] := by
  fun_induction finish g s with
  | case1 s done => exact ⟨counted, done⟩
  | case2 s p rest first ih => exact ih (counted.place first)

end Sorting

/-! ## 5. The cells placed -/

theorem placedCells_nodup (g : Graph) : g.placedCells.Nodup := by
  obtain ⟨counted, done⟩ := Sorting.counted_finish (Sorting.counted_start g)
  have nodup := counted.nodup
  rw [done, List.append_nil] at nodup
  exact nodup

/-- **The cells placed are the formula cells that the cells placed release often enough.** -/
theorem mem_placedCells_iff_releases : p ∈ g.placedCells ↔
    p ∈ g.formulaCells ∧ g.waitingFor [] p ≤ g.releases g.placedCells p := by
  obtain ⟨counted, done⟩ := Sorting.counted_finish (Sorting.counted_start g)
  have due := counted.due p
  rw [done, List.append_nil] at due
  exact due

/-- Each of them is by those before it. -/
theorem releases_before {first rest : List Position} (split : g.placedCells = first ++ p :: rest) :
    g.waitingFor [] p ≤ g.releases first p :=
  (Sorting.counted_finish (Sorting.counted_start g)).1.before first p rest split

/-- **There is an order exactly when every formula cell is placed.** -/
theorem evaluationOrder_eq_ok_iff {order : List Position} :
    g.evaluationOrder = .ok order ↔
      order = g.placedCells ∧ ∀ p ∈ g.formulaCells, p ∈ g.placedCells := by
  have sub : g.placedCells ⊆ g.formulaCells := fun p hp => (mem_placedCells_iff_releases.mp hp).1
  have full : g.placedCells.length = g.formulaCells.length ↔
      ∀ p ∈ g.formulaCells, p ∈ g.placedCells := by
    constructor
    · intro same
      have perm : g.placedCells.Perm g.formulaCells :=
        (List.subperm_of_subset g.placedCells_nodup sub).perm_of_length_le (Nat.le_of_eq same.symm)
      exact fun p hp => perm.mem_iff.mpr hp
    · intro all
      have perm : g.placedCells.Perm g.formulaCells :=
        (List.perm_ext_iff_of_nodup g.placedCells_nodup (PositionMap.keys_nodup _)).mpr
          fun p => ⟨fun hp => sub hp, all p⟩
      exact perm.length_eq
  unfold evaluationOrder
  split
  · rename_i same
    simp only [Except.ok.injEq, eq_comm, iff_self_and]
    exact fun _ => full.mp same
  · rename_i differ
    simp only [reduceCtorEq, false_iff, not_and]
    exact fun _ all => differ (full.mpr all)

end Graph

end Spreadsheet
