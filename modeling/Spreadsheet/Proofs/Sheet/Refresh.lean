import Spreadsheet.Proofs.Sheet.Evaluation

/-!
# Evaluating formulas again

Evaluating readers again changes cells and nothing else (`OnlyCells`). On a reader inside the grid it
can stop for one reason, a negative reference (`negative_of_refreshAll`); without one it renews the
reader's result (`refresh_of_formula`).

`renewed_refreshAll` is what recalculation rests on: accepted formulas evaluated one after the other,
none before one that it reads, are all current in the end. The invariant of the induction is that a
formula once renewed reads nothing that is renewed later.
-/

namespace Spreadsheet

namespace Sheet

variable {s s' s'' : Sheet} {p q : Position} {e : Expression} {cells : List Position}

/-! ## 1. What stays -/

/-- The two sheets differ in their cells only. -/
structure OnlyCells (s s' : Sheet) : Prop where
  config : s'.config = s.config
  widths : s'.widths = s.widths
  graph : s'.graph = s.graph
  cache : s'.cache = s.cache

theorem OnlyCells.refl (s : Sheet) : OnlyCells s s := ⟨rfl, rfl, rfl, rfl⟩

theorem OnlyCells.trans (h : OnlyCells s s') (h' : OnlyCells s' s'') : OnlyCells s s'' :=
  ⟨h'.config.trans h.config, h'.widths.trans h.widths, h'.graph.trans h.graph,
    h'.cache.trans h.cache⟩

theorem onlyCells_store (s : Sheet) (p : Position) (c : Cell) : OnlyCells s (s.store p c) :=
  ⟨rfl, rfl, rfl, rfl⟩

theorem onlyCells_refresh (s : Sheet) (p : Position) : OnlyCells s (s.refresh p).1 := by
  unfold refresh
  split
  · exact .refl s
  · split
    · split
      · exact .refl s
      · split
        · exact .refl s
        · exact s.onlyCells_store _ _
    · exact .refl s

theorem refreshAll_cons_of_error {fault : Fault} (rest : List Position)
    (h : (s.refresh p).2 = .error fault) :
    s.refreshAll (p :: rest) = ((s.refresh p).1, .error fault) := by
  have split : s.refresh p = ((s.refresh p).1, .error fault) := Prod.ext rfl h
  rw [refreshAll, split]

theorem refreshAll_cons_of_ok {delta : Option Delta} (rest : List Position)
    (h : (s.refresh p).2 = .ok delta) :
    s.refreshAll (p :: rest) = (((s.refresh p).1.refreshAll rest).1,
      ((s.refresh p).1.refreshAll rest).2.map (delta.toList ++ ·)) := by
  have split : s.refresh p = ((s.refresh p).1, .ok delta) := Prod.ext rfl h
  rw [refreshAll, split]

/-- **What evaluating one reader again keeps, evaluating several keeps,** up to a fault too. -/
theorem refreshAll_kept (Holds : Sheet → Prop) (start : Holds s)
    (step : ∀ s p, Holds s → Holds (s.refresh p).1) (cells : List Position) :
    Holds (s.refreshAll cells).1 := by
  induction cells generalizing s with
  | nil => exact start
  | cons p rest ih =>
    have first : Holds (s.refresh p).1 := step s p start
    cases outcome : (s.refresh p).2 with
    | error fault =>
      rw [refreshAll_cons_of_error rest outcome]
      exact first
    | ok delta =>
      rw [refreshAll_cons_of_ok rest outcome]
      exact ih first

/-- **So does recalculation,** whether it answers or not. -/
theorem recalculate_kept (Holds : Sheet → Prop) (start : Holds s)
    (step : ∀ s p, Holds s → Holds (s.refresh p).1) (keys : List Key) :
    Holds (s.recalculate keys).1 := by
  unfold recalculate
  split
  · exact start
  · split
    · exact start
    · exact refreshAll_kept Holds start step _

/-- **Recalculation changes cells only.** -/
theorem onlyCells_recalculate (s : Sheet) (keys : List Key) :
    OnlyCells s (s.recalculate keys).1 :=
  recalculate_kept (OnlyCells s) (.refl s) (fun t p h => h.trans (t.onlyCells_refresh p)) keys

/-! ## 2. One reader -/

/-- **A cell stays as it is when a reader is evaluated again,** or it is a formula with the result that
    it gives on the sheet. -/
theorem cellAt_refresh (s : Sheet) (p q : Position) :
    (s.refresh p).1.cellAt q = s.cellAt q ∨
      ∃ e before after, s.cellAt q = .formula e before ∧ s.evaluate e = .ok after ∧
        (s.refresh p).1.cellAt q = .formula e after := by
  unfold refresh
  split
  · exact .inl rfl
  · rename_i slot _
    split
    · rename_i e before stored
      split
      · exact .inl rfl
      · rename_i after evaluated
        split
        · exact .inl rfl
        · have renewed := s.cellAt_store slot q (.formula e after)
          by_cases here : q = slot
          · rw [if_pos here] at renewed
            exact .inr ⟨e, before, after, here ▸ stored, evaluated, renewed⟩
          · rw [if_neg here] at renewed
            exact .inl renewed
    · exact .inl rfl

theorem fromEdge_of_inside {size n : Int} (h : 0 ≤ n ∧ n < size) : fromEdge size n = .ok n := by
  rw [fromEdge, if_pos h]

/-- A reader inside the grid stands for itself. -/
theorem slot_of_holds (grid : s.config.holds p = true) : s.slot p = .ok p := by
  obtain ⟨column, row⟩ := SheetConfig.holds_iff.mp grid
  simp only [slot, fromEdge_of_inside column, fromEdge_of_inside row]
  rfl

/-- **A reader inside the grid stops recalculation for a negative reference only.** -/
theorem negative_of_refresh {fault : Fault} (grid : s.config.holds p = true)
    (h : (s.refresh p).2 = .error fault) :
    ∃ q, q.isNegative = true ∧ fault = (Fault.negativePosition q).raised := by
  simp only [refresh, slot_of_holds grid] at h
  split at h
  · split at h
    · rename_i stopped
      cases h
      obtain ⟨q, -, negative, same⟩ := negative_of_evaluate stopped
      exact ⟨q, negative, same⟩
    · split at h <;> cases h
  · cases h

theorem negative_of_refreshAll {fault : Fault} (grid : ∀ p ∈ cells, s.config.holds p = true)
    (h : (s.refreshAll cells).2 = .error fault) :
    ∃ q, q.isNegative = true ∧ fault = (Fault.negativePosition q).raised := by
  induction cells generalizing s with
  | nil => cases h
  | cons p rest ih =>
    obtain ⟨here, later⟩ := List.forall_mem_cons.mp grid
    cases outcome : (s.refresh p).2 with
    | error fault' =>
      rw [refreshAll_cons_of_error rest outcome] at h
      cases h
      exact negative_of_refresh here outcome
    | ok delta =>
      rw [refreshAll_cons_of_ok rest outcome] at h
      cases outcomes : ((s.refresh p).1.refreshAll rest).2 with
      | error fault' =>
        rw [outcomes] at h
        cases h
        rw [← (s.onlyCells_refresh p).config] at later
        exact ih later outcomes
      | ok deltas =>
        rw [outcomes] at h
        cases h

/-- A formula that gives the result that it holds is left as it is. -/
theorem refresh_of_same {before : Result} (grid : s.config.holds p = true)
    (stored : s.cellAt p = .formula e before) (evaluated : s.evaluate e = .ok before) :
    s.refresh p = (s, .ok none) := by
  simp only [refresh, slot_of_holds grid, stored, evaluated, if_true]

/-- A formula that gives another result gets it, and this is reported. -/
theorem refresh_of_other {before after : Result} (grid : s.config.holds p = true)
    (stored : s.cellAt p = .formula e before) (evaluated : s.evaluate e = .ok after)
    (other : after ≠ before) :
    s.refresh p = (s.store p (.formula e after), .ok (some ⟨p, before, after, e.text⟩)) := by
  simp only [refresh, slot_of_holds grid, stored, evaluated, if_neg other]

/-- **A formula that gives a result holds it then;** every other place keeps its cell. -/
theorem refresh_of_formula {before after : Result} (grid : s.config.holds p = true)
    (stored : s.cellAt p = .formula e before) (evaluated : s.evaluate e = .ok after) :
    (∃ delta, (s.refresh p).2 = .ok delta) ∧
      ∀ q, (s.refresh p).1.cellAt q = if q = p then .formula e after else s.cellAt q := by
  by_cases same : after = before
  · rw [same] at evaluated ⊢
    rw [refresh_of_same grid stored evaluated]
    refine ⟨⟨none, rfl⟩, ?_⟩
    intro q
    split
    · rename_i here
      rw [here, stored]
    · rfl
  · rw [refresh_of_other grid stored evaluated same]
    exact ⟨⟨_, rfl⟩, fun q => cellAt_store s p q _⟩

/-! ## 3. Readers in order -/

/-- The second sheet is the first with new results for the accepted formulas at some places, each of
    them current. -/
structure Renewed (s s' : Sheet) (cells : List Position) : Prop where
  only : OnlyCells s s'
  accepted : ∀ p, s'.acceptedAt? p = s.acceptedAt? p
  elsewhere : ∀ p, p ∉ cells → s'.cellAt p = s.cellAt p
  current : ∀ p ∈ cells, s'.CurrentAt p

/-- The formula at a place was accepted, and it can be evaluated whatever the sheet shows. -/
def Evaluable (s : Sheet) (p : Position) : Prop :=
  s.config.holds p = true ∧ ∃ e, s.acceptedAt? p = some e ∧ e.nonNegative = true

/-- The accepted formula at a place reads another place. -/
def Reads (s : Sheet) (p q : Position) : Prop :=
  ∃ e, s.acceptedAt? p = some e ∧ q ∈ e.references

/-- **One formula evaluated again** is current as long as what it reads stays. -/
theorem renewed_refresh (h : s.Evaluable p) (alone : ¬ s.Reads p p) :
    (∃ delta, (s.refresh p).2 = .ok delta) ∧ Renewed s (s.refresh p).1 [p] := by
  obtain ⟨grid, e, accepted, nonNegative⟩ := h
  obtain ⟨before, stored, -⟩ := acceptedAt?_eq_some_iff.mp accepted
  obtain ⟨after, evaluated⟩ := evaluate_of_nonNegative (s := s) nonNegative
  obtain ⟨ok, cellAt⟩ := refresh_of_formula grid stored evaluated
  have here : (s.refresh p).1.cellAt p = .formula e after := by rw [cellAt, if_pos rfl]
  have elsewhere : ∀ q, q ≠ p → (s.refresh p).1.cellAt q = s.cellAt q := fun q other => by
    rw [cellAt, if_neg other]
  have only := s.onlyCells_refresh p
  refine ⟨ok, only, ?_, fun q other => elsewhere q (by simpa using other), ?_⟩
  · intro q
    by_cases same : q = p
    · rw [same, accepted]
      exact acceptedAt?_of_formula here (ne_cyclic_of_evaluate evaluated)
    · exact acceptedAt?_congr (elsewhere q same)
  · intro q hq
    obtain rfl := List.mem_singleton.mp hq
    intro e' r stored' _
    rw [here] at stored'
    cases stored'
    rw [← evaluated]
    refine evaluate_congr ?_
    intro t ht
    have other : t ≠ q := fun same => alone ⟨e, accepted, same ▸ ht⟩
    exact valueAt_congr only.config (elsewhere t other)

theorem Evaluable.of_renewed (h : s.Evaluable p) (renewed : Renewed s s' cells) :
    s'.Evaluable p := by
  obtain ⟨grid, e, accepted, nonNegative⟩ := h
  refine ⟨?_, e, ?_, nonNegative⟩
  · rw [renewed.only.config]
    exact grid
  · rw [renewed.accepted]
    exact accepted

theorem Renewed.reads_iff (h : Renewed s s' cells) : s'.Reads p q ↔ s.Reads p q := by
  unfold Reads
  rw [h.accepted]

/-- **Accepted formulas evaluated one after the other, none before one that it reads, are all current
    in the end.** -/
theorem renewed_refreshAll (evaluable : ∀ p ∈ cells, s.Evaluable p) (nodup : cells.Nodup)
    (alone : ∀ p ∈ cells, ¬ s.Reads p p) (ordered : cells.Pairwise fun p q => ¬ s.Reads p q) :
    (∃ deltas, (s.refreshAll cells).2 = .ok deltas) ∧
      Renewed s (s.refreshAll cells).1 cells := by
  induction cells generalizing s with
  | nil => exact ⟨⟨[], rfl⟩, .refl s, fun _ => rfl, fun _ _ => rfl, fun _ hp => nomatch hp⟩
  | cons p rest ih =>
    obtain ⟨evaluableHere, evaluable⟩ := List.forall_mem_cons.mp evaluable
    obtain ⟨aloneHere, alone⟩ := List.forall_mem_cons.mp alone
    obtain ⟨fresh, nodup⟩ := List.nodup_cons.mp nodup
    obtain ⟨orderedHere, ordered⟩ := List.pairwise_cons.mp ordered
    obtain ⟨⟨delta, ok⟩, first⟩ := renewed_refresh evaluableHere aloneHere
    obtain ⟨⟨deltas, oks⟩, others⟩ := ih (s := (s.refresh p).1)
      (fun q hq => (evaluable q hq).of_renewed first) nodup
      (fun q hq reads => alone q hq (first.reads_iff.mp reads))
      (ordered.imp fun hn reads => hn (first.reads_iff.mp reads))
    rw [refreshAll_cons_of_ok rest ok]
    refine ⟨⟨_, by rw [oks]; rfl⟩, first.only.trans others.only, ?_, ?_,
      List.forall_mem_cons.mpr ⟨?_, others.current⟩⟩
    · intro q
      rw [others.accepted, first.accepted]
    · intro q hq
      obtain ⟨other, later⟩ := not_or.mp (fun h => hq (List.mem_cons.mpr h))
      rw [others.elsewhere q later, first.elsewhere q (by simpa using other)]
    · -- what `p` reads is not in the rest, so `p` stays current while the rest is renewed
      have here : (s.refresh p).1.CurrentAt p := first.current p (List.mem_singleton.mpr rfl)
      refine here.congr others.only.config (others.elsewhere p fresh) ?_
      intro e accepted t ht
      rw [first.accepted] at accepted
      exact others.elsewhere t fun later => orderedHere t later ⟨e, accepted, ht⟩

end Sheet

end Spreadsheet
