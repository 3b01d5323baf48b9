import Spreadsheet.Proofs.Cell.Faults
import Spreadsheet.Proofs.Position.Label
import Spreadsheet.Proofs.Sheet.Refusal

/-!
# Reported faults can be told

The message of a fault may show numbers, and one of too many digits cannot be shown. What an operation
reports is `Tellable`: an answer, or a fault whose message can be written. A fault that shows numbers is
so because it is reported as `Fault.raised`; the other ones show none.

* `tellable_perform`: every operation on every sheet that a history leads to is so.
* `message_of_perform`: what is told about its fault is therefore the message of that fault, word for
  word, and never that of the digit limit in its place.
-/

namespace Spreadsheet

open Spreadsheet.Text

/-- An answer, or a fault whose message can be written. -/
def Tellable {α : Type} : Except Fault α → Prop
  | .ok _ => True
  | .error fault => fault.wording.isWritable = true

variable {α β : Type} {outcome : Except Fault α}

theorem Tellable.map (h : Tellable outcome) (f : α → β) : Tellable (outcome.map f) := by
  cases outcome with
  | ok a => trivial
  | error fault => exact h

/-- A fault is told as it was told before. -/
theorem Tellable.told {fault : Fault} (h : Tellable outcome) (stopped : outcome = .error fault) :
    fault.wording.isWritable = true := by
  subst stopped
  exact h

theorem tellable_mapM {f : α → Except Fault β} (each : ∀ a, Tellable (f a)) (items : List α) :
    Tellable (items.mapM f) := by
  induction items with
  | nil => trivial
  | cons a items ih =>
    rw [List.mapM_cons]
    cases first : f a with
    | error fault => exact (each a).told first
    | ok b =>
      cases rest : items.mapM f with
      | error fault => exact ih.told rest
      | ok bs => trivial

/-! ## 1. Texts -/

theorem tellable_readDigits (run : List Char) : Tellable (readDigits run) := by
  unfold readDigits
  split
  · rfl
  · trivial

/-- **A text that is no label is shown, and has no number to be written.** -/
theorem Position.tellable_ofLabel (t : Text) : Tellable (ofLabel t) := by
  unfold ofLabel
  cases found : (chars? (normalLabel t)).bind ofNormalLabel? with
  | none => rfl
  | some outcome =>
    obtain ⟨cs, -, read⟩ := Option.bind_eq_some_iff.mp found
    obtain ⟨column, first, rest, -, -, -, -, rfl⟩ := ofNormalLabel?_eq_some_iff.mp read
    exact (tellable_readDigits _).map _

theorem Expression.tellable_compile (t : Text) : Tellable (compile t) := by
  unfold compile
  split
  · refine Tellable.map ?_ _
    unfold compileBody
    refine Tellable.map ?_ _
    cases compiled : instructions (scan (t.drop 1)) with
    | ok is => trivial
    | error fault =>
      obtain ⟨before, run, after, -, -, -, rfl⟩ := instructions_eq_error_iff.mp compiled
      rfl
  · rfl

theorem Cache.tellable_compile (cache : Cache) (t : Text) : Tellable (cache.compile t).2 := by
  unfold compile
  split
  · trivial
  · split
    · trivial
    · rename_i stopped
      exact (Expression.tellable_compile t).told stopped

theorem Cache.tellable_ofEntry (cache : Cache) (t : Text) : Tellable (cache.ofEntry t).2 := by
  unfold ofEntry
  split
  · exact (cache.tellable_compile t).map _
  · cases entered : Cell.ofPlainEntry t with
    | ok c => trivial
    | error fault =>
      obtain ⟨run, -, -, rfl⟩ := Cell.ofPlainEntry_eq_error_iff.mp entered
      rfl

/-! ## 2. The graph -/

theorem Graph.tellable_evaluationOrder (g : Graph) : Tellable g.evaluationOrder := by
  unfold evaluationOrder
  split
  · trivial
  · exact Fault.isWritable_raised _

theorem Graph.tellable_perform {g : Graph} (h : g.WellFormed) (command : Command) :
    Tellable (g.perform command).2 := by
  cases command with
  | register target reader => trivial
  | clear reader => trivial
  | unregister target reader =>
    cases outcome : g.unregister target reader with
    | ok g' =>
      simp only [perform, outcome]
      trivial
    | error fault =>
      obtain ⟨-, rfl⟩ := h.unregister_eq_error_iff.mp outcome
      simp only [perform, outcome]
      exact Fault.isWritable_raised _

/-! ## 3. Places -/

namespace Sheet

theorem tellable_position (key : Key) : Tellable key.position := by
  cases key with
  | label t => exact Position.tellable_ofLabel t
  | place p =>
    simp only [Key.position]
    split
    · exact Fault.isWritable_raised _
    · trivial

variable (s : Sheet)

theorem tellable_locate (key : Key) : Tellable (s.locate key) := by
  unfold locate
  cases named : key.position with
  | error fault => exact (tellable_position key).told named
  | ok p =>
    simp only []
    split
    · trivial
    · exact Fault.isWritable_raised _

theorem tellable_cell (key : Key) : Tellable (s.cell key) := (s.tellable_locate key).map _

theorem tellable_entry (key : Key) : Tellable (s.entry key) := by
  unfold entry
  split
  · rename_i stopped
    exact ((s.tellable_cell key).map _).told stopped
  · rfl
  · trivial

theorem tellable_evaluate (e : Expression) : Tellable (s.evaluate e) := by
  unfold evaluate
  cases found : (e.execute (some s.valueAt)).reads.find? Position.isNegative with
  | some q =>
    simp only [found]
    exact Fault.isWritable_raised _
  | none =>
    simp only [found]
    trivial

/-! ## 4. Operations -/

theorem tellable_insertCell (c : Cell) (key : Key) : Tellable (s.insertCell c key).2 := by
  unfold insertCell
  split
  · rename_i p _
    have inserted := s.inserted_insertAt p c
    generalize s.insertAt p c = outcome at inserted ⊢
    cases inserted with
    | plain => trivial
    | rejected => trivial
    | accepted => trivial
    | stopped e _ fault _ error => exact (tellable_evaluate _ e).told error
  · rename_i stopped
    exact (s.tellable_locate key).told stopped

theorem tellable_enter (t : Text) (key : Key) : Tellable (s.enter t key).2 := by
  unfold enter
  cases entered : (s.cache.ofEntry t).2 with
  | ok c =>
    simp only [entered]
    exact tellable_insertCell _ c key
  | error fault =>
    simp only [entered]
    exact (s.cache.tellable_ofEntry t).told entered

/-- **A refused item is told in its printed form,** if it has one. -/
theorem isWritable_refusal (item : Item) :
    (item.refusal .unsupportedValue).wording.isWritable = true ∧
      (item.refusal .unsupportedCell).wording.isWritable = true := by
  unfold Item.refusal
  split
  · exact ⟨rfl, rfl⟩
  · exact ⟨rfl, rfl⟩

theorem tellable_set (key : Key) (item : Item) : Tellable (s.set key item).2 := by
  cases item with
  | cell c => exact s.tellable_insertCell c key
  | nothing => exact s.tellable_insertCell .empty key
  | text t => exact s.tellable_enter t key
  | int n =>
    unfold set
    simp only []
    split
    · exact s.tellable_insertCell (.number n) key
    · exact Fault.isWritable_raised _
  | _ => exact (isWritable_refusal _).1

theorem tellable_insert (item : Item) (key : Key) : Tellable (s.insert item key).2 := by
  cases item with
  | cell c => exact s.tellable_insertCell c key
  | _ => exact (isWritable_refusal _).2

theorem tellable_copy (source target : Key) : Tellable (s.copy source target).2 := by
  unfold copy
  split
  · exact s.tellable_insertCell _ target
  · rename_i stopped
    exact (s.tellable_cell source).told stopped

theorem tellable_reenter (source target : Key) : Tellable (s.reenter source target).2 := by
  unfold reenter
  split
  · exact s.tellable_enter _ target
  · rename_i stopped
    exact (s.tellable_entry source).told stopped

theorem tellable_setWidth (column width : Int) : Tellable (s.setWidth column width).2 := by
  unfold setWidth
  split
  · exact Fault.isWritable_raised _
  · split
    · rename_i stopped
      exact (s.tellable_locate _).told stopped
    · trivial

theorem tellable_fromEdge (size n : Int) : Tellable (fromEdge size n) := by
  unfold fromEdge
  split
  · trivial
  · split
    · rfl
    · split
      · trivial
      · rfl

theorem tellable_slot (p : Position) : Tellable (s.slot p) := by
  unfold slot
  split
  · rename_i stopped
    exact (tellable_fromEdge _ _).told stopped
  · exact (tellable_fromEdge _ _).map _

theorem tellable_refresh (p : Position) : Tellable (s.refresh p).2 := by
  unfold refresh
  split
  · rename_i stopped
    exact (s.tellable_slot p).told stopped
  · split
    · split
      · rename_i stopped
        exact (s.tellable_evaluate _).told stopped
      · split <;> trivial
    · trivial

/-- Along the readers it is the first fault that is reported. -/
theorem tellable_refreshAll (cells : List Position) : Tellable (s.refreshAll cells).2 := by
  induction cells generalizing s with
  | nil => trivial
  | cons p rest ih =>
    cases outcome : (s.refresh p).2 with
    | error fault =>
      rw [refreshAll_cons_of_error rest outcome]
      exact (s.tellable_refresh p).told outcome
    | ok delta =>
      rw [refreshAll_cons_of_ok rest outcome]
      exact (ih _).map _

theorem tellable_recalculate (keys : List Key) : Tellable (s.recalculate keys).2 := by
  unfold recalculate
  split
  · rename_i stopped
    exact (tellable_mapM s.tellable_locate keys).told stopped
  · split
    · rename_i stopped
      exact (s.graph.tellable_evaluationOrder.map _).told stopped
    · exact (s.tellable_refreshAll _).map _

theorem tellable_evaluateText (t : Text) : Tellable (s.evaluateText t).2 := by
  unfold evaluateText
  split
  · exact tellable_evaluate _ _
  · rename_i stopped
    have compiled : (s.cache.compile t).2 = .error _ := congrArg Prod.snd stopped
    exact (s.cache.tellable_compile t).told compiled

variable {s}

/-- **What an operation reports can be told,** after every history: no fault shows a number of too many
    digits. -/
theorem tellable_perform (arises : s.Arises) (command : Command) :
    Tellable (s.perform command).2 := by
  cases command with
  | set key item => exact (s.tellable_set key item).map _
  | insert item key => exact (s.tellable_insert item key).map _
  | copy source target => exact (s.tellable_copy source target).map _
  | reenter source target => exact (s.tellable_reenter source target).map _
  | setWidth column width => exact (s.tellable_setWidth column width).map _
  | compile t => exact (s.cache.tellable_compile t).map _
  | evaluate t => exact (s.tellable_evaluateText t).map _
  | recalculate keys => exact (s.tellable_recalculate keys).map _
  | graph command => exact (Graph.tellable_perform arises.wellFormed command).map _

/-- **What is told about a fault is its own message.** -/
theorem message_of_perform {command : Command} {fault : Fault} (arises : s.Arises)
    (stopped : (s.perform command).2 = .error fault) : fault.message = fault.wording.text := by
  rw [Fault.message, Fault.raised, if_pos ((tellable_perform arises command).told stopped)]

end Sheet

end Spreadsheet
