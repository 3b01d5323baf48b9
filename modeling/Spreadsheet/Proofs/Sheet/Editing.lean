import Spreadsheet.Proofs.Sheet.Recalculation

/-!
# Edits and recalculation

An edit evaluates the formula that it brings, and nothing else: what is not current after edits of a
current sheet lies downstream of the edited places (`Linked.currentBut_step`). So a sheet stays
current when each edit is followed by the recalculation of its key (`Linked.current_run_followed`).

A single recalculation after many edits does less than that (`Linked.currentBut_run`). The formula of
an edited place is not evaluated again, also where it lies downstream of another edited place: it
keeps the result that it got in between. Section 5 says what is current then, and when everything is.
-/

namespace Spreadsheet

namespace Sheet

open Spreadsheet.Graph Spreadsheet.Text

variable {s s' : Sheet} {p : Position} {e : Expression} {c : Cell} {key : Key} {keys : List Key}
variable {command : Command}

/-! ## 1. One place -/

/-- The second sheet is the first with another cell at one place, the formula of which, if it was
    accepted, is current. -/
structure Edited (s s' : Sheet) (p : Position) : Prop where
  config : s'.config = s.config
  elsewhere : ∀ q, q ≠ p → s'.cellAt q = s.cellAt q
  current : s'.CurrentAt p

/-- A cell without accepted formula is current wherever it stands. -/
theorem edited_store_cleared (s : Sheet) (p : Position) (unaccepted : c.accepted? = none) :
    Edited s ((s.cleared p).store p c) p where
  config := rfl
  elsewhere q other := by
    show ((s.cleared p).store p c).cellAt q = (s.cleared p).cellAt q
    rw [cellAt_store, if_neg other]
  current e r stored ne := by
    rw [cellAt_store, if_pos rfl] at stored
    rw [Cell.accepted?_eq_some_iff.mpr ⟨r, stored, ne⟩] at unaccepted
    cases unaccepted

/-- An accepted formula is evaluated before it is stored, and does not read its own place. -/
theorem edited_store_linked {result : Result} (s : Sheet) (alone : p ∉ e.references)
    (ok : (s.linked p e).evaluate e = .ok result) :
    Edited s ((s.linked p e).store p (.formula e result)) p where
  config := rfl
  elsewhere q other := by
    show ((s.linked p e).store p (.formula e result)).cellAt q = (s.linked p e).cellAt q
    rw [cellAt_store, if_neg other]
  current e' r stored _ := by
    rw [cellAt_store, if_pos rfl] at stored
    cases stored
    rw [← ok]
    refine evaluate_congr fun t ht => valueAt_congr rfl ?_
    have other : t ≠ p := fun same => alone (same ▸ ht)
    rw [cellAt_store, if_neg other]

/-- **An insertion changes one place, and leaves the formula there current.** -/
theorem edited_inserted {outcome : Sheet × Except Fault Unit} (nonNegative : c.nonNegative = true)
    (inserted : Inserted s p c outcome) : Edited s outcome.1 p := by
  cases inserted with
  | plain c noFormula => exact edited_store_cleared s p (Cell.accepted?_of_plain noFormula)
  | rejected e r => exact edited_store_cleared s p (by simp [Cell.accepted?])
  | accepted e _ result free ok => exact edited_store_linked s (not_mem_of_wouldCycle free) ok
  | stopped e _ fault _ error => exact absurd error (evaluate_ne_error nonNegative fault)

/-! ## 2. What an edit leaves open -/

/-- **A cell put at one of the keys leaves nothing open but what is downstream of the keys,** also
    where the old cell was all that led there. -/
theorem CurrentBut.edited (h : s.CurrentBut keys) (linked : s.Linked) (linked' : s'.Linked)
    (edited : Edited s s' p) (located : s.locate key = .ok p) (mem : key ∈ keys) :
    s'.CurrentBut keys := by
  intro q apart
  have named : s'.Names keys p := ⟨key, mem, (locate_congr edited.config key).trans located⟩
  by_cases here : q = p
  · rw [here]
    exact edited.current
  -- edges into other places stay: a path from a key outlives the edit, or its rest starts at `p`
  have kept : ∀ t r, r ≠ p → s.graph.Edge t r → s'.graph.Edge t r := by
    intro t r other edge
    obtain ⟨e, accepted, ht⟩ := (linked.edges t r).mp edge
    have accepted' := (acceptedAt?_congr (edited.elsewhere r other)).trans accepted
    exact (linked'.edges t r).mpr ⟨e, accepted', ht⟩
  have apart' : ¬ s.Downstream keys q := by
    intro downstream
    obtain ⟨k, ⟨root, mem, at_k⟩, path⟩ := downstream
    rcases reaches_of_replaced kept path here with path | path
    · exact apart ⟨k, ⟨root, mem, (locate_congr edited.config root).trans at_k⟩, path⟩
    · exact apart ⟨p, named, path⟩
  refine (h q apart').congr edited.config (edited.elsewhere q here) ?_
  intro e accepted t ht
  refine edited.elsewhere t ?_
  intro read
  rw [read] at ht
  have accepted' := (acceptedAt?_congr (edited.elsewhere q here)).trans accepted
  have edge : s'.graph.Edge p q := (linked'.edges p q).mpr ⟨e, accepted', ht⟩
  exact apart ⟨p, named, .single edge⟩

/-- **An edit at one of the keys leaves nothing open but what is downstream of the keys.** -/
theorem Linked.currentBut_step (h : s.Linked) (handed : command.nonNegative = true)
    (target : command.target? = some key) (mem : key ∈ keys) (but : s.CurrentBut keys)
    (step : Step s command s') : s'.CurrentBut keys := by
  cases step with
  | kept => exact but
  | inserted _ key' p c cache outcome target' located offered after inserted =>
    rw [target] at target'
    cases target'
    have start : ({ s with cache := cache } : Sheet).Linked := h.kept after
    have nonNegative : c.nonNegative = true := nonNegative_of_offered h.nonNegative handed offered
    have butStart : ({ s with cache := cache } : Sheet).CurrentBut keys := but
    exact butStart.edited start (start.inserted (holds_of_locate located) nonNegative inserted)
      (edited_inserted nonNegative inserted) located mem
  | recalculated => cases target

/-- What edits at the keys leave open is downstream of the keys. -/
theorem Linked.currentBut_run {edits : List Command} (h : s.Linked) (but : s.CurrentBut keys)
    (edit : ∀ c ∈ edits, c.Plain ∧ ∃ key ∈ keys, c.target? = some key) :
    (s.run edits).Linked ∧ (s.run edits).CurrentBut keys := by
  refine run_invariant (fun t => t.Linked ∧ t.CurrentBut keys) ⟨h, but⟩ edit ?_
  intro t command both edit
  obtain ⟨h, but⟩ := both
  obtain ⟨⟨own, handed⟩, key, mem, target⟩ := edit
  have step := t.step_perform command own
  exact ⟨h.step handed step, h.currentBut_step handed target mem but step⟩

/-! ## 3. Edits followed by recalculation -/

/-- An operation, and the recalculation of the key that it writes. -/
def Command.followed (command : Command) : List Command :=
  command :: (command.target?.map fun key => Command.recalculate [key]).toList

/-- **Recalculating the only key that was edited makes the sheet current.** -/
theorem Linked.current_recalculate_singleton (h : s.Linked) (but : s.CurrentBut [key]) :
    (s.recalculate [key]).1.Current := by
  cases located : [key].mapM s.locate with
  | ok roots => exact h.current_recalculate located but (s.independent_singleton key)
  | error fault =>
    rw [recalculate_of_fault located]
    intro p
    refine but p ?_
    intro downstream
    obtain ⟨k, ⟨key', mem, at_k⟩, -⟩ := downstream
    rw [List.mem_singleton.mp mem] at at_k
    rw [List.mapM_cons, at_k] at located
    cases located

/-- An operation that writes no key keeps a current sheet current. -/
theorem Linked.current_step (h : s.Linked) (current : s.Current) (target : command.target? = none)
    (step : Step s command s') : s'.Current := by
  cases step with
  | kept => exact current
  | inserted _ _ _ _ _ _ target' =>
    rw [target] at target'
    cases target'
  | recalculated keys =>
    rw [h.recalculate_of_current current keys]
    exact current

theorem Linked.current_followed (h : s.Linked) (current : s.Current) (plain : command.Plain) :
    (s.run command.followed).Linked ∧ (s.run command.followed).Current := by
  have step := s.step_perform command plain.1
  have linked : (s.perform command).1.Linked := h.step plain.2 step
  cases target : command.target? with
  | some key =>
    have but : (s.perform command).1.CurrentBut [key] :=
      h.currentBut_step plain.2 target List.mem_cons_self (current.but [key]) step
    have both : s.run command.followed = ((s.perform command).1.recalculate [key]).1 := by
      rw [Command.followed, target]
      rfl
    rw [both]
    exact ⟨linked.step rfl (.recalculated [key]), linked.current_recalculate_singleton but⟩
  | none =>
    have alone : s.run command.followed = (s.perform command).1 := by
      rw [Command.followed, target]
      rfl
    rw [alone]
    exact ⟨linked, h.current_step current target step⟩

/-- **A sheet stays current when every edit is followed by the recalculation of its key.** -/
theorem Linked.current_run_followed {commands : List Command} (h : s.Linked) (current : s.Current)
    (plain : ∀ c ∈ commands, c.Plain) :
    (s.run (commands.flatMap Command.followed)).Linked ∧
      (s.run (commands.flatMap Command.followed)).Current := by
  induction commands generalizing s with
  | nil => exact ⟨h, current⟩
  | cons command commands ih =>
    obtain ⟨first, later⟩ := List.forall_mem_cons.mp plain
    obtain ⟨linked, current⟩ := h.current_followed current first
    rw [List.flatMap_cons, run_append]
    exact ih linked current later

theorem current_fresh (config : SheetConfig) : (fresh config).Current := by
  intro p e r stored
  cases stored

/-! ## 4. Recalculation after any history -/

/-- **What recalculation makes current.** With keys of the grid it answers, and then every place that
    is downstream of a key and not named by one holds the result of its formula on the sheet as it
    stands. If no key leads to another, and all that was not current is downstream of the keys, the
    whole sheet is current. So it is after every history in which each edit is followed by the
    recalculation of its key. -/
theorem recalculate_reached (s : Sheet) (keys : List Key) (reached : s.Reached)
    (inside : ∀ key ∈ keys, s.contains key = true) :
    (∃ answer, (s.recalculate keys).2 = .ok answer) ∧
    (∀ p, s.Downstream keys p → ¬ s.Names keys p →
      ∃ e r, (s.recalculate keys).1.cellAt p = .formula e r ∧
        (s.recalculate keys).1.evaluate e = .ok r) ∧
    (s.Independent keys → s.CurrentBut keys → (s.recalculate keys).1.Current) ∧
    ∀ (config : SheetConfig) (commands : List Command), (∀ c ∈ commands, c.Plain) →
      ((fresh config).run (commands.flatMap Command.followed)).Current := by
  have linked : s.Linked := reached.linked
  obtain ⟨roots, located⟩ := exists_roots inside
  obtain ⟨cells, answers, -⟩ := linked.recalculate located
  refine ⟨answers, ?_, ?_, ?_⟩
  · intro p downstream unnamed
    exact linked.formula_recalculate located unnamed downstream
  · intro independent but
    exact linked.current_recalculate located but independent
  · intro config commands plain
    exact ((linked_fresh config).current_run_followed (current_fresh config) plain).2

/-- A1 becomes 5, B1 is made to read it, B2 to read itself, which is refused, and A1 becomes 7. -/
def readerStale : List Command :=
  [.set (.label (ofString "A1")) (.int 5), .set (.label (ofString "B1")) (.text (ofString "=A1+1")),
    .set (.label (ofString "B2")) (.text (ofString "=B2")), .set (.label (ofString "A1")) (.int 7)]

/-- The reader is renewed when what it reads is recalculated. -/
theorem recalculate_reader_stale :
    (∀ key ∈ [Key.label (ofString "A1")],
      ((fresh .standard).run readerStale).contains key = true) ∧
    (∃ answer, (((fresh .standard).run readerStale).recalculate
      [.label (ofString "A1")]).2 = .ok answer) ∧
    ((fresh .standard).run (readerStale.flatMap Command.followed)).Current := by
  have plain : ∀ c ∈ readerStale, c.Plain := by decide
  have inside : ∀ key ∈ [Key.label (ofString "A1")],
      ((fresh .standard).run readerStale).contains key = true := by decide +kernel
  obtain ⟨answers, -, -, current⟩ :=
    recalculate_reached _ _ ⟨.standard, readerStale, plain, rfl⟩ inside
  exact ⟨inside, answers, current .standard readerStale plain⟩

/-! ## 5. One recalculation after many edits -/

/-- **One recalculation after many edits.** It answers, and leaves every accepted formula current but
    those that stand at an edited place and are downstream of an edited place: an edited place keeps
    the cell that its edit left. So the sheet is current exactly if these formulas happen to hold
    their results already, and in particular if no edited place is downstream of another. -/
theorem recalculate_edits (s : Sheet) (edits : List Command) (keys : List Key) (reached : s.Reached)
    (current : s.Current) (edit : ∀ c ∈ edits, c.Plain ∧ ∃ key ∈ keys, c.target? = some key)
    (inside : ∀ key ∈ keys, s.contains key = true) :
    (∃ answer, ((s.run edits).recalculate keys).2 = .ok answer) ∧
    (∀ p, ((s.run edits).Names keys p → ¬ (s.run edits).Downstream keys p) →
      ((s.run edits).recalculate keys).1.CurrentAt p) ∧
    (∀ p, (s.run edits).Names keys p →
      ((s.run edits).recalculate keys).1.cellAt p = (s.run edits).cellAt p) ∧
    (((s.run edits).recalculate keys).1.Current ↔
      ∀ p e r, (s.run edits).Names keys p → (s.run edits).Downstream keys p →
        (s.run edits).cellAt p = .formula e r → r ≠ .error .cyclic →
        ((s.run edits).recalculate keys).1.evaluate e = .ok r) ∧
    ((s.run edits).Independent keys → ((s.run edits).recalculate keys).1.Current) := by
  obtain ⟨linked, but⟩ := reached.linked.currentBut_run (current.but keys) edit
  have config : (s.run edits).config = s.config := config_run s fun c hc => (edit c hc).1.1
  obtain ⟨roots, located⟩ := exists_roots (s := s.run edits) fun key hk =>
    (contains_congr config key).trans (inside key hk)
  obtain ⟨cells, answers, -⟩ := linked.recalculate located
  have free : ∀ p, ((s.run edits).Names keys p → ¬ (s.run edits).Downstream keys p) →
      ((s.run edits).recalculate keys).1.CurrentAt p := fun p =>
    linked.currentAt_recalculate located but
  have kept : ∀ p, (s.run edits).Names keys p →
      ((s.run edits).recalculate keys).1.cellAt p = (s.run edits).cellAt p := fun p named =>
    linked.cellAt_recalculate located fun _ => named
  refine ⟨answers, free, kept, ⟨?_, ?_⟩, linked.current_recalculate located but⟩
  · intro all p e r named _ stored ne
    rw [← kept p named] at stored
    exact all p e r stored ne
  · intro edited p
    by_cases both : (s.run edits).Names keys p ∧ (s.run edits).Downstream keys p
    · intro e r stored ne
      rw [kept p both.1] at stored
      exact edited p e r both.1 both.2 stored ne
    · exact free p fun named downstream => both ⟨named, downstream⟩

/-- B1 is made to read A1, and then A1 becomes 5. -/
def readerFirst : List Command :=
  [.set (.label (ofString "B1")) (.text (ofString "=A1")), .set (.label (ofString "A1")) (.int 5)]

/-- The keys that are edited, in the order of the edits. -/
def readerFirstKeys : List Key := readerFirst.filterMap Command.target?

/-- The general statement at these edits of a fresh sheet. -/
theorem recalculate_edits_reader_first :
    (∀ c ∈ readerFirst, c.Plain ∧ ∃ key ∈ readerFirstKeys, c.target? = some key) ∧
    (∀ key ∈ readerFirstKeys, (fresh .standard).contains key = true) ∧
    (∃ answer, (((fresh .standard).run readerFirst).recalculate readerFirstKeys).2 = .ok answer) ∧
    ∀ p, (((fresh .standard).run readerFirst).Names readerFirstKeys p →
        ¬ ((fresh .standard).run readerFirst).Downstream readerFirstKeys p) →
      (((fresh .standard).run readerFirst).recalculate readerFirstKeys).1.CurrentAt p := by
  have edit : ∀ c ∈ readerFirst, c.Plain ∧ ∃ key ∈ readerFirstKeys, c.target? = some key := by
    decide
  have inside : ∀ key ∈ readerFirstKeys, (fresh .standard).contains key = true := by decide +kernel
  obtain ⟨answers, free, -⟩ := recalculate_edits (fresh .standard) readerFirst readerFirstKeys
    ⟨.standard, [], by decide, rfl⟩ (current_fresh .standard) edit inside
  exact ⟨edit, inside, answers, free⟩

/-- **An edited reader is passed over:** B1 is not evaluated again and still tells that it found no
    number in A1, where there is 5 by now. -/
theorem not_current_reader_first :
    (fresh .standard).Reached ∧ (fresh .standard).Current ∧ (∀ c ∈ readerFirst, c.Plain) ∧
    (∀ key ∈ readerFirstKeys, (fresh .standard).contains key = true) ∧
    ¬ (((fresh .standard).run readerFirst).recalculate readerFirstKeys).1.Current := by
  refine ⟨⟨.standard, [], by decide, rfl⟩, current_fresh .standard, by decide, by decide +kernel,
    ?_⟩
  intro current
  have stored : (((fresh .standard).run readerFirst).recalculate readerFirstKeys).1.cellAt ⟨1, 0⟩ =
      .formula ⟨ofString "=A1", some [.operand (.cell ⟨0, 0⟩)]⟩ (.error .cellNotFound) := by
    decide +kernel
  have evaluated : (((fresh .standard).run readerFirst).recalculate readerFirstKeys).1.evaluate
      ⟨ofString "=A1", some [.operand (.cell ⟨0, 0⟩)]⟩ = .ok (.value 5) := by decide +kernel
  rw [current ⟨1, 0⟩ _ _ stored (by decide)] at evaluated
  cases evaluated

end Sheet

end Spreadsheet
