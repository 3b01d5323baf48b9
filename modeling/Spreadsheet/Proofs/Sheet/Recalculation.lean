import Spreadsheet.Proofs.Sheet.Agreement

/-!
# What recalculation makes current

A sheet can be current but for what lies downstream of some keys (`CurrentBut`): that is where
formulas read what has become another. Recalculating these keys leaves one sort of formula open.

* `Linked.currentAt_recalculate`: a formula is current then, unless it stands at a key and is
  downstream of one as well;
* `Linked.cellAt_recalculate`: a place downstream of no key keeps its cell, and so does every place
  that a key names;
* `Linked.current_recalculate`: if no key is downstream of another, the sheet is current then;
* `Linked.recalculate_of_current`: a current sheet stays as it is.
-/

namespace Spreadsheet

namespace Sheet

open Spreadsheet.Graph

variable {s s' : Sheet} {p : Position} {keys : List Key} {roots cells : List Position}

/-! ## 1. Current but for what is downstream -/

/-- Every accepted formula that is not downstream of the keys is current. -/
def CurrentBut (s : Sheet) (keys : List Key) : Prop := ∀ p, ¬ s.Downstream keys p → s.CurrentAt p

theorem Current.but (h : s.Current) (keys : List Key) : s.CurrentBut keys := fun p _ => h p

/-- **Formulas downstream of no key stay current** while all that is renewed is downstream. -/
theorem CurrentBut.of_renewed (h : s.CurrentBut keys) (linked : s.Linked)
    (renewed : Renewed s s' cells) (member : ∀ p ∈ cells, s.Downstream keys p)
    (apart : ¬ s.Downstream keys p) : s'.CurrentAt p := by
  have here : s'.cellAt p = s.cellAt p := renewed.elsewhere p fun hp => apart (member p hp)
  refine (h p apart).congr renewed.only.config here ?_
  intro e accepted t ht
  have edge : s.graph.Edge t p := (linked.edges t p).mpr ⟨e, accepted, ht⟩
  refine renewed.elsewhere t ?_
  -- a formula that reads what is downstream is downstream itself
  intro later
  obtain ⟨k, named, path⟩ := member t later
  exact apart ⟨k, named, path.tail edge⟩

/-! ## 2. Keys of the grid -/

/-- **What recalculation leaves current:** every accepted formula but those that stand at a key and
    are downstream of one as well. -/
theorem Linked.currentAt_recalculate (h : s.Linked) (located : keys.mapM s.locate = .ok roots)
    (but : s.CurrentBut keys) (free : s.Names keys p → ¬ s.Downstream keys p) :
    (s.recalculate keys).1.CurrentAt p := by
  obtain ⟨cells, -, -, renewed, member⟩ := h.recalculate located
  by_cases reached : s.Downstream keys p
  · have unnamed : ¬ s.Names keys p := fun named => free named reached
    exact renewed.current p ((member p).mpr ⟨unnamed, reached⟩)
  · exact but.of_renewed h renewed (fun q hq => ((member q).mp hq).2) reached

/-- **A place downstream of no key keeps its cell, and so does every place that a key names.** -/
theorem Linked.cellAt_recalculate (h : s.Linked) (located : keys.mapM s.locate = .ok roots)
    (kept : s.Downstream keys p → s.Names keys p) :
    (s.recalculate keys).1.cellAt p = s.cellAt p := by
  obtain ⟨cells, -, -, renewed, member⟩ := h.recalculate located
  refine renewed.elsewhere p ?_
  intro hp
  obtain ⟨unnamed, reached⟩ := (member p).mp hp
  exact unnamed (kept reached)

/-- What is downstream holds a formula, and its result is that of the sheet as it stands then. -/
theorem Linked.formula_recalculate (h : s.Linked) (located : keys.mapM s.locate = .ok roots)
    (unnamed : ¬ s.Names keys p) (reached : s.Downstream keys p) :
    ∃ e r, (s.recalculate keys).1.cellAt p = .formula e r ∧
      (s.recalculate keys).1.evaluate e = .ok r := by
  obtain ⟨cells, -, -, renewed, member⟩ := h.recalculate located
  obtain ⟨-, e, accepted, -⟩ := h.evaluable_of_downstream reached
  rw [← renewed.accepted] at accepted
  obtain ⟨r, stored, ne⟩ := acceptedAt?_eq_some_iff.mp accepted
  exact ⟨e, r, stored, renewed.current p ((member p).mpr ⟨unnamed, reached⟩) e r stored ne⟩

/-! ## 3. Keys that do not lead to each other -/

/-- None of the places that the keys name is downstream of another. -/
def Independent (s : Sheet) (keys : List Key) : Prop :=
  ∀ p q, s.Names keys p → s.Names keys q → p ≠ q → ¬ s.graph.Reaches p q

theorem Independent.not_downstream (h : s.Independent keys) (acyclic : s.graph.Acyclic)
    (named : s.Names keys p) : ¬ s.Downstream keys p := by
  intro downstream
  obtain ⟨k, root, path⟩ := downstream
  by_cases same : k = p
  · rw [same] at path
    exact acyclic p path
  · exact h k p root named same path

/-- One key alone is independent. -/
theorem independent_singleton (s : Sheet) (key : Key) : s.Independent [key] := by
  intro p q ⟨k, hk, hp⟩ ⟨k', hk', hq⟩ other
  rw [List.mem_singleton.mp hk] at hp
  rw [List.mem_singleton.mp hk', hp] at hq
  cases hq
  exact absurd rfl other

/-- **Recalculating keys that do not lead to each other makes the sheet current,** if all that was
    not current before is downstream of them. -/
theorem Linked.current_recalculate (h : s.Linked) (located : keys.mapM s.locate = .ok roots)
    (but : s.CurrentBut keys) (independent : s.Independent keys) :
    (s.recalculate keys).1.Current := fun _ =>
  h.currentAt_recalculate located but (independent.not_downstream h.acyclic)

/-! ## 4. Current sheets -/

theorem refresh_of_current (h : s.CurrentAt p) (evaluable : s.Evaluable p) :
    s.refresh p = (s, .ok none) := by
  obtain ⟨grid, e, accepted, -⟩ := evaluable
  obtain ⟨r, stored, ne⟩ := acceptedAt?_eq_some_iff.mp accepted
  exact refresh_of_same grid stored (h e r stored ne)

/-- Readers that are current already are left as they are. -/
theorem refreshAll_of_current (current : ∀ p ∈ cells, s.CurrentAt p)
    (evaluable : ∀ p ∈ cells, s.Evaluable p) : s.refreshAll cells = (s, .ok []) := by
  induction cells with
  | nil => rfl
  | cons p rest ih =>
    obtain ⟨currentHere, current⟩ := List.forall_mem_cons.mp current
    obtain ⟨evaluableHere, evaluable⟩ := List.forall_mem_cons.mp evaluable
    have here : s.refresh p = (s, .ok none) := refresh_of_current currentHere evaluableHere
    have first : (s.refresh p).2 = .ok none := by rw [here]
    rw [refreshAll_cons_of_ok rest first, here, ih current evaluable]
    rfl

/-- **A current sheet stays as it is, whatever is recalculated.** -/
theorem Linked.recalculate_of_current (h : s.Linked) (current : s.Current) (keys : List Key) :
    (s.recalculate keys).1 = s := by
  cases located : keys.mapM s.locate with
  | error fault => rw [recalculate_of_fault located]
  | ok roots =>
    obtain ⟨cells, eq, -, member, -⟩ := recalculate_of_located h.toSound located
    have evaluable : ∀ p ∈ cells, s.Evaluable p := fun p hp =>
      h.evaluable_of_downstream ((member p).mp hp).2
    rw [eq, refreshAll_of_current (fun p _ => current p) evaluable]

end Sheet

end Spreadsheet
