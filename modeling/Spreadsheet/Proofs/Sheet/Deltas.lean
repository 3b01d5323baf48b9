import Spreadsheet.Proofs.Sheet.Reentry

/-!
# What recalculation reports

The deltas that a recalculation answers with are the difference between the sheet before and the sheet
after (`Diff`): a place is among them exactly if its cell is another one, once, with the two results and
the text of the formula.

* `diff_refresh`: the reader that is evaluated again is the only place that can become another.
* `Diff.append`: differences at different places follow each other. `diff_refreshAll`: so readers that
  are evaluated one after the other, each once, report the difference that they make together.
* `Linked.recalculate_of_currentAt`: a second recalculation of the same keys evaluates the same formulas
  again, finds them current and reports nothing.
-/

namespace Spreadsheet

namespace Sheet

open Spreadsheet.Graph Spreadsheet.Text

variable {s s' s'' : Sheet} {p : Position} {keys keys' : List Key} {cells : List Position}
variable {deltas deltas' : List Delta}

/-! ## 1. Differences -/

/-- The deltas are the difference between the two sheets. -/
structure Diff (s s' : Sheet) (deltas : List Delta) : Prop where
  /-- The places of the deltas are those whose cell is another one. -/
  places : ∀ p, p ∈ deltas.map Delta.position ↔ s'.cellAt p ≠ s.cellAt p
  once : (deltas.map Delta.position).Nodup
  /-- A delta tells the formula's text, and its result before and after. -/
  results : ∀ d ∈ deltas, ∃ e, d.formula = e.text ∧
    s.cellAt d.position = .formula e d.before ∧ s'.cellAt d.position = .formula e d.after

theorem Diff.refl (s : Sheet) : Diff s s [] where
  places _ := by simp
  once := List.nodup_nil
  results _ hd := nomatch hd

theorem Diff.cellAt_eq (h : Diff s s' deltas) (other : p ∉ deltas.map Delta.position) :
    s'.cellAt p = s.cellAt p := by
  rw [h.places] at other
  exact not_not.mp other

/-- **Differences at different places follow each other.** -/
theorem Diff.append (h : Diff s s' deltas) (h' : Diff s' s'' deltas')
    (apart : ∀ p ∈ deltas.map Delta.position, p ∉ deltas'.map Delta.position) :
    Diff s s'' (deltas ++ deltas') where
  places p := by
    rw [List.map_append, List.mem_append]
    by_cases first : p ∈ deltas.map Delta.position
    · have moved := (h.places p).mp first
      rw [h'.cellAt_eq (apart p first)]
      exact iff_of_true (.inl first) moved
    · rw [← h.cellAt_eq first, ← h'.places p]
      exact or_iff_right first
  once := by
    rw [List.map_append]
    refine List.nodup_append.mpr ⟨h.once, h'.once, ?_⟩
    intro p hp q hq same
    exact apart p hp (same ▸ hq)
  results d hd := by
    rcases List.mem_append.mp hd with hd | hd
    · obtain ⟨e, text, before, after⟩ := h.results d hd
      have later := h'.cellAt_eq (apart _ (List.mem_map_of_mem hd))
      exact ⟨e, text, before, later.trans after⟩
    · obtain ⟨e, text, before, after⟩ := h'.results d hd
      have earlier := h.cellAt_eq fun first => apart _ first (List.mem_map_of_mem hd)
      exact ⟨e, text, earlier.symm.trans before, after⟩

/-! ## 2. Evaluating again -/

theorem diff_store {e : Expression} {before after : Result} (stored : s.cellAt p = .formula e before)
    (other : after ≠ before) :
    Diff s (s.store p (.formula e after)) [⟨p, before, after, e.text⟩] where
  places q := by
    rw [List.map_singleton, List.mem_singleton, cellAt_store]
    by_cases here : q = p
    · rw [if_pos here, here, stored]
      refine iff_of_true rfl ?_
      intro same
      cases same
      exact other rfl
    · rw [if_neg here]
      exact iff_of_false here fun moved => moved rfl
  once := List.nodup_singleton p
  results d hd := by
    obtain rfl := List.mem_singleton.mp hd
    refine ⟨e, rfl, stored, ?_⟩
    rw [cellAt_store, if_pos rfl]

/-- **A reader that is evaluated again reports what it changes,** which is its own cell or nothing. -/
theorem diff_refresh {delta : Option Delta} (grid : s.config.holds p = true)
    (ok : (s.refresh p).2 = .ok delta) :
    Diff s (s.refresh p).1 delta.toList ∧ (delta.toList.map Delta.position).Sublist [p] := by
  have unchanged : Diff s s (Option.toList none) ∧
      ((Option.toList none).map Delta.position).Sublist [p] := ⟨.refl s, List.nil_sublist _⟩
  cases stored : s.cellAt p with
  | formula e before =>
    cases evaluated : s.evaluate e with
    | error fault =>
      simp only [refresh, slot_of_holds grid, stored, evaluated] at ok
      cases ok
    | ok after =>
      by_cases same : after = before
      · rw [same] at evaluated
        rw [refresh_of_same grid stored evaluated] at ok ⊢
        cases ok
        exact unchanged
      · rw [refresh_of_other grid stored evaluated same] at ok ⊢
        cases ok
        exact ⟨diff_store stored same, List.Sublist.refl _⟩
  | _ =>
    have left : s.refresh p = (s, .ok none) := by simp only [refresh, slot_of_holds grid, stored]
    rw [left] at ok ⊢
    cases ok
    exact unchanged

/-- **Readers that are evaluated again, each once, report the difference that they make,** in the order
    in which they are evaluated. -/
theorem diff_refreshAll (grid : ∀ p ∈ cells, s.config.holds p = true) (nodup : cells.Nodup)
    (ok : (s.refreshAll cells).2 = .ok deltas) :
    Diff s (s.refreshAll cells).1 deltas ∧ (deltas.map Delta.position).Sublist cells := by
  induction cells generalizing s deltas with
  | nil =>
    cases ok
    exact ⟨.refl s, List.Sublist.refl _⟩
  | cons p rest ih =>
    obtain ⟨here, later⟩ := List.forall_mem_cons.mp grid
    obtain ⟨fresh, nodup⟩ := List.nodup_cons.mp nodup
    cases outcome : (s.refresh p).2 with
    | error fault =>
      rw [refreshAll_cons_of_error rest outcome] at ok
      cases ok
    | ok delta =>
      rw [refreshAll_cons_of_ok rest outcome] at ok ⊢
      cases outcomes : ((s.refresh p).1.refreshAll rest).2 with
      | error fault =>
        rw [outcomes] at ok
        cases ok
      | ok deltas' =>
        rw [outcomes] at ok
        cases ok
        rw [← (s.onlyCells_refresh p).config] at later
        obtain ⟨first, atFirst⟩ := diff_refresh here outcome
        obtain ⟨others, atOthers⟩ := ih later nodup outcomes
        refine ⟨first.append others ?_, ?_⟩
        · -- `p` is evaluated once, so no later delta is at its place
          intro q hq member
          rw [List.mem_singleton.mp (atFirst.subset hq)] at member
          exact fresh (atOthers.subset member)
        · rw [List.map_append]
          exact atFirst.append atOthers

/-! ## 3. The same keys again -/

theorem names_congr (config : s'.config = s.config) (same : ∀ key, key ∈ keys' ↔ key ∈ keys) :
    s'.Names keys' p ↔ s.Names keys p := by
  unfold Names
  simp only [same, locate_congr config]

theorem downstream_congr (only : OnlyCells s s') (same : ∀ key, key ∈ keys' ↔ key ∈ keys) :
    s'.Downstream keys' p ↔ s.Downstream keys p := by
  unfold Downstream
  simp only [names_congr only.config same, only.graph]

/-- **Where the formulas downstream of the keys are current, recalculating these changes nothing,** and
    evaluates as many formulas as there are. -/
theorem Linked.recalculate_of_currentAt (h : s.Linked) (inside : ∀ key ∈ keys, s.contains key = true)
    (nodup : cells.Nodup) (member : ∀ p, p ∈ cells ↔ ¬ s.Names keys p ∧ s.Downstream keys p)
    (current : ∀ p ∈ cells, s.CurrentAt p) :
    ∃ roots, s.recalculate keys = (s, .ok ⟨roots, [], cells.length⟩) := by
  obtain ⟨roots, located⟩ := exists_roots inside
  obtain ⟨cells', eq, nodup', member', -⟩ := recalculate_of_located h.toSound located
  have same : ∀ p, p ∈ cells' ↔ p ∈ cells := fun p => (member' p).trans (member p).symm
  have evaluable : ∀ p ∈ cells', s.Evaluable p := fun p hp =>
    h.evaluable_of_downstream ((member' p).mp hp).2
  have count : cells'.length = cells.length :=
    ((List.perm_ext_iff_of_nodup nodup' nodup).mpr same).length_eq
  rw [refreshAll_of_current (fun p hp => current p ((same p).mp hp)) evaluable, count] at eq
  exact ⟨roots, eq⟩

/-- What is downstream of the keys is a formula. -/
theorem Linked.formula_of_downstream (h : s.Linked) (reached : s.Downstream keys p) :
    ∃ e r, s.cellAt p = .formula e r := by
  obtain ⟨-, e, accepted, -⟩ := h.evaluable_of_downstream reached
  obtain ⟨r, stored, -⟩ := acceptedAt?_eq_some_iff.mp accepted
  exact ⟨e, r, stored⟩

/-! ## 4. Every history -/

/-- **Recalculation reports what it changes, and does so once.** On every sheet that a history leads to
    which neither edits the graph nor brings a negative reference, recalculating keys of the grid
    answers. The deltas are the difference between the sheet before and the sheet after, none of them
    before one of a formula that its own formula reads; it is told how many formulas were downstream of
    the keys and not at one of them. Of these only the results can become others: what was entered stays
    at every place, every other cell stays, and so do graph and widths. Recalculating the same keys
    again, in any order, evaluates as many formulas, reports nothing and changes nothing. -/
theorem recalculate_faithful (s : Sheet) (reached : s.Reached) (keys : List Key)
    (inside : ∀ key ∈ keys, s.contains key = true) :
    ∃ s' answer, s.recalculate keys = (s', .ok answer) ∧
      keys.mapM s.locate = .ok answer.changed ∧
      Diff s s' answer.deltas ∧
      (answer.deltas.Pairwise fun d d' => ¬ s.Reads d.position d'.position) ∧
      (∃ counted : List Position, counted.Nodup ∧ answer.evaluated = counted.length ∧
        ∀ p, p ∈ counted ↔
          (∃ e r, s.cellAt p = .formula e r) ∧ s.Downstream keys p ∧ ¬ s.Names keys p) ∧
      (∀ p, (s'.cellAt p).contents = (s.cellAt p).contents) ∧
      (∀ p, ¬ (s.Downstream keys p ∧ ¬ s.Names keys p) → s'.cellAt p = s.cellAt p) ∧
      OnlyCells s s' ∧
      ∀ keys', (∀ key, key ∈ keys' ↔ key ∈ keys) →
        ∃ again, s'.recalculate keys' = (s', .ok again) ∧
          again.evaluated = answer.evaluated ∧ again.deltas = [] := by
  have linked : s.Linked := reached.linked
  obtain ⟨roots, located⟩ := exists_roots inside
  obtain ⟨cells, deltas, eq, ok, renewed, nodup, member, ordered⟩ := linked.recalculate_eq located
  have evaluable : ∀ p ∈ cells, s.Evaluable p := fun p hp =>
    linked.evaluable_of_downstream ((member p).mp hp).2
  obtain ⟨diff, sublist⟩ := diff_refreshAll (fun p hp => (evaluable p hp).1) nodup ok
  refine ⟨_, _, eq, located, diff, List.pairwise_map.mp (ordered.sublist sublist),
    ⟨cells, nodup, rfl, ?_⟩, ?_, ?_, renewed.only, ?_⟩
  · intro p
    rw [member, and_comm]
    exact (and_iff_right_of_imp fun both => linked.formula_of_downstream both.1).symm
  · intro p
    have same := contents_recalculate s keys p
    rw [eq] at same
    exact same
  · intro p apart
    refine renewed.elsewhere p fun hp => apart ?_
    exact ⟨((member p).mp hp).2, ((member p).mp hp).1⟩
  · intro keys' same
    have inside' : ∀ key ∈ keys', (s.refreshAll cells).1.contains key = true := by
      intro key hkey
      rw [contains_congr renewed.only.config]
      exact inside key ((same key).mp hkey)
    have member' : ∀ p, p ∈ cells ↔ ¬ (s.refreshAll cells).1.Names keys' p ∧
        (s.refreshAll cells).1.Downstream keys' p := by
      intro p
      rw [names_congr renewed.only.config same, downstream_congr renewed.only same, member]
    obtain ⟨roots', again⟩ := (linked.of_renewed renewed evaluable).recalculate_of_currentAt inside'
      nodup member' renewed.current
    exact ⟨_, again, rfl, rfl⟩

/-- B1 doubles A1, C1 adds both, D1 doubles C1, and E1 is always 0; then A1 becomes 7. -/
def doubledAndAdded : List Command :=
  [.set (.label (ofString "A1")) (.int 5), .set (.label (ofString "B1")) (.text (ofString "=A1*2")),
    .set (.label (ofString "C1")) (.text (ofString "=A1+B1")),
    .set (.label (ofString "D1")) (.text (ofString "=C1*2")),
    .set (.label (ofString "E1")) (.text (ofString "=D1-D1")),
    .set (.label (ofString "A1")) (.int 7)]

/-- B1, A1 and once more B1. -/
def rootsB1A1 : List Key :=
  [.label (ofString "B1"), .label (ofString "A1"), .place ⟨1, 0⟩]

/-- The general statement at this sheet. B1 is a key itself and keeps its 10; of the three formulas
    evaluated two have another result, and D1 comes behind C1. -/
theorem recalculate_faithful_doubled_and_added :
    ((fresh .standard).run doubledAndAdded).Reached ∧
    (∀ key ∈ rootsB1A1, ((fresh .standard).run doubledAndAdded).contains key = true) ∧
    ∃ s' answer, ((fresh .standard).run doubledAndAdded).recalculate rootsB1A1 = (s', .ok answer) ∧
      Diff ((fresh .standard).run doubledAndAdded) s' answer.deltas ∧
      answer.deltas = [⟨⟨2, 0⟩, .value 15, .value 17, ofString "=A1+B1"⟩,
        ⟨⟨3, 0⟩, .value 30, .value 34, ofString "=C1*2"⟩] ∧
      answer.evaluated = 3 ∧
      ∃ again, s'.recalculate rootsB1A1.reverse = (s', .ok again) ∧
        again.evaluated = 3 ∧ again.deltas = [] := by
  have reached : ((fresh .standard).run doubledAndAdded).Reached :=
    ⟨.standard, doubledAndAdded, by decide, rfl⟩
  have inside : ∀ key ∈ rootsB1A1,
      ((fresh .standard).run doubledAndAdded).contains key = true := by decide +kernel
  have found : (((fresh .standard).run doubledAndAdded).recalculate rootsB1A1).2 =
      .ok ⟨[⟨1, 0⟩, ⟨0, 0⟩, ⟨1, 0⟩], [⟨⟨2, 0⟩, .value 15, .value 17, ofString "=A1+B1"⟩,
        ⟨⟨3, 0⟩, .value 30, .value 34, ofString "=C1*2"⟩], 3⟩ := by decide +kernel
  obtain ⟨s', answer, eq, -, diff, -, -, -, -, -, later⟩ :=
    recalculate_faithful _ reached rootsB1A1 inside
  rw [eq] at found
  cases found
  obtain ⟨again, eq', count, none⟩ := later rootsB1A1.reverse fun _ => List.mem_reverse
  exact ⟨reached, inside, s', _, eq, diff, rfl, rfl, again, eq', count, none⟩

end Sheet

end Spreadsheet
