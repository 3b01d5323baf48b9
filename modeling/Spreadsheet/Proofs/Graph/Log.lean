import Spreadsheet.Proofs.Graph.Edges
import Spreadsheet.Proofs.Text.Decimal

/-!
# A graph is a log of registrations

The two maps of a graph tell nothing that the list of the registrations in force would not tell
(`Log`): a registration is logged at the end, taking one back strikes the oldest entry of its edge,
and clearing strikes all entries of a reader.

* `Logged.perform`: every change of the graph is that change of its log, refused ones included.
* `run_logged`: after every history the readers of a target are those logged for it, in the order of
  the log and as often, the targets of a reader are those logged with it, and a position is listed
  unless the log does not name it; only what is not logged cannot be taken back.
* `clearAlong_congr`: clearing does not depend on the order in which the targets are visited.
* `unregister_tooLong`: the digit limit shows where the positions of a missing edge are to be told.
-/

namespace Spreadsheet

namespace Graph

open Spreadsheet.Text

variable {g : Graph} {t r p q : Position}

/-! ## 1. Logs -/

/-- The registrations in force, oldest first: of each its target and its reader. -/
abbrev Log := List (Position × Position)

namespace Log

variable (log : Log)

/-- The log after a change; what is not logged cannot be struck. -/
def after : Command → Log
  | .register target reader => log ++ [(target, reader)]
  | .unregister target reader => log.erase (target, reader)
  | .clear reader => log.filter fun entry => entry.2 ≠ reader

/-- The log after a history of changes. -/
def ofCommands (commands : List Command) : Log := commands.foldl after []

/-- The readers logged for a target, oldest registration first. -/
def readersOf (target : Position) : List Position :=
  (log.filter fun entry => entry.1 = target).map (·.2)

theorem mem_readersOf : r ∈ log.readersOf t ↔ (t, r) ∈ log := by
  simp [readersOf]

theorem readersOf_cons (entry : Position × Position) (p : Position) :
    readersOf (entry :: log) p = if p = entry.1 then entry.2 :: log.readersOf p else log.readersOf p := by
  by_cases here : p = entry.1
  · simp [readersOf, here]
  · simp [readersOf, here, Ne.symm here]

/-- A registration comes behind the readers of its target. -/
theorem readersOf_register (t r p : Position) :
    (log.after (.register t r)).readersOf p =
      if p = t then log.readersOf t ++ [r] else log.readersOf p := by
  by_cases here : p = t
  · simp [after, readersOf, here]
  · simp [after, readersOf, here, Ne.symm here]

/-- The oldest entry of an edge is struck from the readers of its target. -/
theorem readersOf_unregister (t r p : Position) :
    (log.after (.unregister t r)).readersOf p =
      if p = t then (log.readersOf t).erase r else log.readersOf p := by
  show readersOf (log.erase (t, r)) p = _
  induction log with
  | nil => simp [readersOf]
  | cons entry log ih =>
    by_cases same : entry = (t, r)
    · subst same
      rw [List.erase_cons_head, readersOf_cons, readersOf_cons]
      by_cases here : p = t <;> simp [here]
    · have other : ¬ (entry == (t, r)) = true := by simpa using same
      rw [List.erase_cons_tail other, readersOf_cons, ih, readersOf_cons, readersOf_cons]
      by_cases here : p = t
      · subst here
        by_cases first : p = entry.1
        · -- the entry is one of the same target, so its reader is another one
          have reader : entry.2 ≠ r := fun e => same (Prod.ext first.symm e)
          simp [← first, List.erase_cons_tail, reader]
        · simp [first]
      · simp [here]

/-- All entries of a reader are struck. -/
theorem readersOf_clear (r p : Position) :
    (log.after (.clear r)).readersOf p = (log.readersOf p).filter (· ≠ r) := by
  simp only [after, readersOf, List.filter_map, List.filter_filter, Function.comp_def]
  congr 2
  funext entry
  exact Bool.and_comm _ _

end Log

/-! ## 2. A graph and its log -/

/-- The graph is well-formed and lists the readers that are logged. -/
structure Logged (g : Graph) (log : Log) : Prop extends g.WellFormed where
  readers : ∀ t, g.readersOf t = log.readersOf t

variable {log : Log}

theorem Logged.edge_iff (h : g.Logged log) : r ∈ g.readersOf t ↔ (t, r) ∈ log := by
  rw [h.readers, Log.mem_readersOf]

/-- The targets of a reader are those logged with it. -/
theorem Logged.mem_readsOf_iff (h : g.Logged log) : t ∈ g.readsOf r ↔ (t, r) ∈ log := by
  rw [← h.paired, h.edge_iff]

/-- **What is logged can be taken back, and nothing else.** -/
theorem Logged.unregister_eq_error_iff {fault : Fault} (h : g.Logged log) :
    g.unregister t r = .error fault ↔ (t, r) ∉ log ∧ fault = (Fault.notRegistered r t).raised := by
  rw [h.toWellFormed.unregister_eq_error_iff, h.edge_iff]

/-- **Every change of the graph is that change of its log.** -/
theorem Logged.perform (h : g.Logged log) (command : Command) :
    (g.perform command).1.Logged (log.after command) where
  toWellFormed := h.toWellFormed.perform command
  readers p := by
    cases command with
    | register t r =>
      rw [Log.readersOf_register, ← h.readers, ← h.readers]
      exact readersOf_register g t r p
    | unregister t r =>
      rw [Log.readersOf_unregister, ← h.readers, ← h.readers]
      cases outcome : g.unregister t r with
      | ok g' =>
        simp only [Graph.perform, outcome]
        exact readersOf_unregister outcome p
      | error fault =>
        -- a reader that is not listed cannot be struck from the list either
        obtain ⟨absent, -⟩ := (h.toWellFormed.unregister_eq_error_iff).mp outcome
        simp only [Graph.perform, outcome, List.erase_of_not_mem absent]
        split
        · rename_i here
          rw [here]
        · rfl
    | clear r =>
      rw [Log.readersOf_clear, ← h.readers]
      exact readersOf_clear h.toWellFormed r p

theorem logged_empty : empty.Logged [] where
  toWellFormed := wellFormed_empty
  readers _ := rfl

/-- **After every history the graph is that of its log.** -/
theorem logged_run (commands : List Command) : (run commands).Logged (Log.ofCommands commands) := by
  have kept : ∀ (g : Graph) (log : Log), g.Logged log →
      (commands.foldl (fun g command => (g.perform command).1) g).Logged
        (commands.foldl Log.after log) := by
    induction commands with
    | nil => exact fun g log h => h
    | cons command commands ih => exact fun g log h => ih _ _ (h.perform command)
  exact kept empty [] logged_empty

/-- A target is listed with the readers logged for it, unless there are none. -/
theorem Logged.get?_readers_iff {readers : List Position} (h : g.Logged log) :
    g.readers.get? t = some readers ↔ readers = log.readersOf t ∧ readers ≠ [] := by
  have same := h.readers t
  have listed := h.get?_readers t
  unfold Graph.readersOf at same listed
  cases found : g.readers.get? t with
  | none =>
    rw [found] at same
    simp only [Option.getD_none] at same
    simp [← same]
  | some readers' =>
    rw [found] at same listed
    simp only [Option.getD_some] at same listed
    rw [← same, Option.some.injEq]
    constructor
    · rintro rfl
      refine ⟨rfl, ?_⟩
      intro empty
      cases listed.mpr empty
    · exact fun both => both.1.symm

/-- A reader is listed with the targets logged with it, unless there are none. -/
theorem Logged.get?_reads_iff {targets : PositionSet} (h : g.Logged log) :
    g.reads.get? r = some targets ↔
      (∀ t, t ∈ targets ↔ (t, r) ∈ log) ∧ ∃ t, (t, r) ∈ log := by
  have member : ∀ t, t ∈ g.readsOf r ↔ (t, r) ∈ log := fun t => h.mem_readsOf_iff
  have listed := h.get?_reads r
  simp only [member] at listed
  cases found : g.reads.get? r with
  | none =>
    rw [found] at listed
    constructor
    · intro e
      cases e
    · rintro ⟨-, t, logged⟩
      exact absurd logged (listed.mp rfl t)
  | some targets' =>
    rw [readsOf, found, Option.getD_some] at member
    rw [Option.some.injEq]
    constructor
    · rintro rfl
      refine ⟨member, ?_⟩
      by_contra none
      have absent := listed.mpr fun t logged => none ⟨t, logged⟩
      rw [found] at absent
      cases absent
    · exact fun both => PositionSet.ext_mem fun t => (member t).trans (both.1 t).symm

/-! ## 3. The order of clearing -/

/-- **Clearing depends on the targets that are visited, and not on their order.** -/
theorem clearAlong_congr {targets targets' : List Position} (g : Graph) (r : Position)
    (same : ∀ t, t ∈ targets' ↔ t ∈ targets) : g.clearAlong targets' r = g.clearAlong targets r := by
  refine Graph.ext ?_ rfl
  refine PositionMap.ext_get? fun p => ?_
  simp only [clearAlong, get?_foldl_strike, same]

/-! ## 4. Every history -/

/-- **After every history of changes, refused ones included, the graph is that of the log.** A target
    is listed with the readers logged for it, in the order of the log and as often as they are logged;
    a reader is listed with the set of the targets logged with it; and neither is listed where these
    are none. Taking back a registration is refused exactly if it is not logged, and then changes
    nothing; it is refused for that, or for the digit limit when a number of one of the two positions is
    too long to be told. Clearing comes to the same in whatever order the targets are visited. -/
theorem run_logged (commands : List Command) :
    (∀ t readers, (run commands).readers.get? t = some readers ↔
      readers = (Log.ofCommands commands).readersOf t ∧ readers ≠ []) ∧
    (∀ r targets, (run commands).reads.get? r = some targets ↔
      (∀ t, t ∈ targets ↔ (t, r) ∈ Log.ofCommands commands) ∧
        ∃ t, (t, r) ∈ Log.ofCommands commands) ∧
    (∀ t r fault, ((run commands).perform (.unregister t r)).2 = .error fault ↔
      (t, r) ∉ Log.ofCommands commands ∧
        fault = if r.isWritable && t.isWritable then .notRegistered r t else .tooLongToWrite) ∧
    (∀ t r, (t, r) ∉ Log.ofCommands commands →
      ((run commands).perform (.unregister t r)).1 = run commands) ∧
    ∀ r targets, targets.Perm ((run commands).readsOf r).toList →
      (run commands).clearAlong targets r = (run commands).clear r := by
  have logged := logged_run commands
  refine ⟨fun t readers => logged.get?_readers_iff, fun r targets => logged.get?_reads_iff, ?_, ?_,
    ?_⟩
  · intro t r fault
    rw [← Fault.raised_notRegistered, ← logged.unregister_eq_error_iff]
    cases outcome : (run commands).unregister t r <;> simp [Graph.perform, outcome]
  · intro t r absent
    have refused := logged.unregister_eq_error_iff.mpr ⟨absent, rfl⟩
    simp only [Graph.perform, refused]
  · intro r targets perm
    exact clearAlong_congr _ r fun t => perm.mem_iff

/-- B1 is registered as a reader of A1 twice with C1 in between, and reads A2 as well; then one of its
    registrations is taken back, and one that was never made. -/
def registeredTwice : List Command :=
  [.register ⟨0, 0⟩ ⟨1, 0⟩, .register ⟨0, 0⟩ ⟨2, 0⟩, .register ⟨0, 0⟩ ⟨1, 0⟩,
    .register ⟨0, 1⟩ ⟨1, 0⟩, .unregister ⟨0, 0⟩ ⟨1, 0⟩, .unregister ⟨0, 1⟩ ⟨2, 0⟩]

/-- The general statement at this history: C1 comes before B1 now, A1 is still in the set of B1, and
    the two targets of B1 may be visited in either order. -/
theorem run_logged_registered_twice :
    (run registeredTwice).readers.get? ⟨0, 0⟩ = some [⟨2, 0⟩, ⟨1, 0⟩] ∧
    (⟨0, 0⟩, ⟨1, 0⟩) ∈ Log.ofCommands registeredTwice ∧
    (⟨0, 1⟩, ⟨2, 0⟩) ∉ Log.ofCommands registeredTwice ∧
    ((run registeredTwice).perform (.unregister ⟨0, 1⟩ ⟨2, 0⟩)).1 = run registeredTwice ∧
    [⟨0, 1⟩, ⟨0, 0⟩].Perm ((run registeredTwice).readsOf ⟨1, 0⟩).toList ∧
    (run registeredTwice).clearAlong [⟨0, 1⟩, ⟨0, 0⟩] ⟨1, 0⟩ = (run registeredTwice).clear ⟨1, 0⟩ := by
  have absent : (⟨0, 1⟩, ⟨2, 0⟩) ∉ Log.ofCommands registeredTwice := by decide
  have perm : [⟨0, 1⟩, ⟨0, 0⟩].Perm ((run registeredTwice).readsOf ⟨1, 0⟩).toList := by decide
  obtain ⟨readers, -, -, refused, clearing⟩ := run_logged registeredTwice
  exact ⟨(readers _ _).mpr (by decide), by decide, absent, refused _ _ absent, perm,
    clearing _ _ perm⟩

/-- **A position with a number of too many digits is not told:** nothing is logged, and yet the refusal
    to take back an edge from there does not say so. -/
theorem unregister_tooLong :
    ((run []).perform (.unregister ⟨0, 10 ^ digitLimit⟩ ⟨0, 0⟩)).2 = .error .tooLongToWrite ∧
    ¬ ∀ commands t r fault, ((run commands).perform (.unregister t r)).2 = .error fault ↔
      (t, r) ∉ Log.ofCommands commands ∧ fault = .notRegistered r t := by
  have refused :
      ((run []).perform (.unregister ⟨0, 10 ^ digitLimit⟩ ⟨0, 0⟩)).2 = .error .tooLongToWrite := by
    have absent := (logged_run []).unregister_eq_error_iff.mpr
      ⟨List.not_mem_nil (a := ((⟨0, 10 ^ digitLimit⟩, ⟨0, 0⟩) : Position × Position)), rfl⟩
    simp only [Graph.perform, absent, Fault.raised_notRegistered, Position.isWritable_far,
      Bool.and_false, Bool.false_eq_true, if_false]
  refine ⟨refused, fun named => ?_⟩
  obtain ⟨-, same⟩ := (named _ _ _ _).mp refused
  cases same

end Graph

end Spreadsheet
