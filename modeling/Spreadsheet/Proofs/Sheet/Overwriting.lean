import Spreadsheet.Proofs.Sheet.Refusal

/-!
# The last insertion counts

What an insertion leaves behind is undone by the next one at the same place. It changes the cell of the
place and the edges to it (`SameBut`), and the next insertion drops these edges first.

* `clear_congr`: clearing a reader leaves graphs that differ in the edges to it alone the same, list by
  list. `clear_registerAll`: so it undoes the registration of a formula.
* `sameBut_inserted`: every outcome of an insertion, also one that stops, differs from the sheet before
  in that way only.
* `SameBut.insertAt`: inserting a cell into two such sheets has the same outcome, and leaves the same
  sheet if it answers. The test for loops looks at the cleared graphs, which are the same, and a formula
  that passes it does not read its own place.
* `insert_insert` puts them together for every sheet that a history leads to.
-/

namespace Spreadsheet

/-! ## 1. Edges to one reader -/

namespace Graph

variable {g g' : Graph} {r : Position} {targets : List Position}

/-- What is listed for a target are its readers. -/
theorem WellFormed.get?_readers_eq (h : g.WellFormed) (t : Position) :
    g.readers.get? t = someReaders? (g.readersOf t) := by
  unfold someReaders?
  split
  · rename_i none
    exact (h.get?_readers t).mpr none
  · rename_i some
    cases listed : g.readers.get? t with
    | none => exact absurd ((h.get?_readers t).mp listed) some
    | some readers => rw [readersOf, listed, Option.getD_some]

/-- What is listed for a reader are its targets. -/
theorem WellFormed.get?_reads_eq (h : g.WellFormed) (r : Position) :
    g.reads.get? r = someTargets? (g.readsOf r) := by
  cases listed : g.reads.get? r with
  | none => simp [someTargets?, readsOf, listed]
  | some targets =>
    have ne : targets ≠ .empty := fun empty => h.reads_ne r (empty ▸ listed)
    rw [readsOf, listed, Option.getD_some, someTargets?, if_neg ne]

/-- **A well-formed graph is given by its lists of readers.** -/
theorem WellFormed.eq_of_readersOf (h : g.WellFormed) (h' : g'.WellFormed)
    (same : ∀ t, g'.readersOf t = g.readersOf t) : g' = g := by
  refine Graph.ext (PositionMap.ext_get? fun t => ?_) (PositionMap.ext_get? fun r => ?_)
  · rw [h'.get?_readers_eq, h.get?_readers_eq, same]
  · have targets : g'.readsOf r = g.readsOf r := PositionSet.ext_mem fun t => by
      rw [← h'.paired, ← h.paired, same]
    rw [h'.get?_reads_eq, h.get?_reads_eq, targets]

/-- **Graphs that differ in the edges to one reader alone are the same without these.** -/
theorem clear_congr (h : g.WellFormed) (h' : g'.WellFormed)
    (same : ∀ t, (g'.readersOf t).filter (· ≠ r) = (g.readersOf t).filter (· ≠ r)) :
    g'.clear r = g.clear r :=
  (h.clear r).eq_of_readersOf (h'.clear r) fun t => by
    rw [readersOf_clear h', readersOf_clear h, same]

theorem clear_clear (h : g.WellFormed) (r : Position) : (g.clear r).clear r = g.clear r :=
  clear_congr h (h.clear r) fun t => by simp [readersOf_clear h]

/-- **Clearing undoes the registration of a formula,** and takes the edges that its place had before. -/
theorem clear_registerAll (h : g.WellFormed) (nodup : targets.Nodup) (r : Position) :
    (g.registerAll targets r).clear r = g.clear r :=
  clear_congr h (h.registerAll targets r) fun t => by
    rw [readersOf_registerAll nodup]
    split <;> simp

end Graph

namespace Sheet

open Spreadsheet.Graph Spreadsheet.Text

variable {s s' : Sheet} {p : Position} {e : Expression} {c : Cell} {key : Key}

/-! ## 2. Sheets that differ at one place -/

/-- The second sheet is the first but for the cell at one place and the edges to it. -/
structure SameBut (s s' : Sheet) (p : Position) : Prop where
  config : s'.config = s.config
  widths : s'.widths = s.widths
  cache : s'.cache = s.cache
  cells : ∀ q, q ≠ p → s'.cells.get? q = s.cells.get? q
  clear : s'.graph.clear p = s.graph.clear p

theorem SameBut.refl (s : Sheet) (p : Position) : SameBut s s p :=
  ⟨rfl, rfl, rfl, fun _ _ => rfl, rfl⟩

/-- What is stored at the place makes no difference. -/
theorem SameBut.of_store (h : SameBut s s' p) (c : Cell) : SameBut s (s'.store p c) p where
  config := h.config
  widths := h.widths
  cache := h.cache
  cells q other := by
    show (s'.cells.assign p _).get? q = s.cells.get? q
    rw [PositionMap.get?_assign, if_neg other, h.cells q other]
  clear := h.clear

theorem sameBut_cleared (h : s.graph.WellFormed) (p : Position) : SameBut s (s.cleared p) p :=
  ⟨rfl, rfl, rfl, fun _ _ => rfl, clear_clear h p⟩

theorem sameBut_linked (h : s.graph.WellFormed) (p : Position) (e : Expression) :
    SameBut s (s.linked p e) p where
  config := rfl
  widths := rfl
  cache := rfl
  cells _ _ := rfl
  clear := (clear_registerAll (h.clear p) e.references_nodup p).trans (clear_clear h p)

/-- **An insertion makes a difference at its place only,** also one that stops. -/
theorem sameBut_inserted {outcome : Sheet × Except Fault Unit} (h : s.graph.WellFormed)
    (inserted : Inserted s p c outcome) : SameBut s outcome.1 p := by
  cases inserted with
  | plain => exact (sameBut_cleared h p).of_store _
  | rejected => exact (sameBut_cleared h p).of_store _
  | accepted e => exact (sameBut_linked h p e).of_store _
  | stopped e => exact sameBut_linked h p e

/-! ## 3. Inserting at that place -/

/-- **With the same edges, storing a cell at the place leaves the same sheet.** -/
theorem SameBut.store_eq (h : SameBut s s' p) (g : Graph) (c : Cell) :
    ({ s' with graph := g } : Sheet).store p c = ({ s with graph := g } : Sheet).store p c := by
  have cells : ∀ v, s'.cells.assign p v = s.cells.assign p v := fun v =>
    PositionMap.ext_get? fun q => by
      rw [PositionMap.get?_assign, PositionMap.get?_assign]
      split
      · rfl
      · rename_i other
        exact h.cells q other
  simp only [store, h.config, h.widths, h.cache, cells]

theorem SameBut.cleared_store (h : SameBut s s' p) (c : Cell) :
    (s'.cleared p).store p c = (s.cleared p).store p c := by
  unfold cleared
  rw [h.clear]
  exact h.store_eq _ c

theorem SameBut.linked_store (h : SameBut s s' p) (e : Expression) (c : Cell) :
    (s'.linked p e).store p c = (s.linked p e).store p c := by
  unfold linked
  rw [h.clear]
  exact h.store_eq _ c

/-- A formula that does not read the place gives the same. -/
theorem SameBut.evaluate_eq (h : SameBut s s' p) (alone : p ∉ e.references) :
    s'.evaluate e = s.evaluate e := by
  refine evaluate_congr fun t ht => valueAt_congr h.config ?_
  have other : t ≠ p := fun same => alone (same ▸ ht)
  rw [cellAt, h.cells t other]
  rfl

/-- **An insertion does not see what stood at its place:** it has the same outcome, and leaves the same
    sheet if it answers. -/
theorem SameBut.insertAt (h : SameBut s s' p) (c : Cell) :
    (s'.insertAt p c).2 = (s.insertAt p c).2 ∧
      ((s.insertAt p c).2 = .ok () → s'.insertAt p c = s.insertAt p c) := by
  have inserted := s.inserted_insertAt p c
  generalize s.insertAt p c = outcome at inserted ⊢
  cases inserted with
  | plain c noFormula =>
    rw [insertAt_of_plain noFormula, h.cleared_store]
    exact ⟨rfl, fun _ => rfl⟩
  | rejected e r loop =>
    rw [insertAt_of_loop (h.clear ▸ loop), h.cleared_store]
    exact ⟨rfl, fun _ => rfl⟩
  | accepted e r result free ok =>
    have same : s'.evaluate e = s.evaluate e := h.evaluate_eq (not_mem_of_wouldCycle free)
    have ok' : (s'.linked p e).evaluate e = .ok result := same.trans ok
    rw [insertAt_of_ok (h.clear ▸ free) ok', h.linked_store]
    exact ⟨rfl, fun _ => rfl⟩
  | stopped e r fault free error =>
    have same : s'.evaluate e = s.evaluate e := h.evaluate_eq (not_mem_of_wouldCycle free)
    have error' : (s'.linked p e).evaluate e = .error fault := same.trans error
    rw [insertAt_of_error (h.clear ▸ free) error']
    exact ⟨rfl, fun answered => nomatch answered⟩

/-- **Inserting a cell twice is inserting it once,** also if it stops. -/
theorem insertAt_insertAt (h : s.graph.WellFormed) (p : Position) (c : Cell) :
    (s.insertAt p c).1.insertAt p c = s.insertAt p c := by
  have inserted := s.inserted_insertAt p c
  have same := (sameBut_inserted h inserted).insertAt c
  cases outcome : (s.insertAt p c).2 with
  | ok answer => exact same.2 outcome
  | error fault =>
    obtain ⟨e, r, rfl, free, error, linked⟩ := insertAt_refused outcome
    have both : s.insertAt p (.formula e r) = (s.linked p e, .error fault) :=
      insertAt_of_error free error
    have clear := (sameBut_linked h p e).clear
    have again : (s.linked p e).linked p e = s.linked p e := by
      show ({ s with graph := ((s.linked p e).graph.clear p).registerAll e.references p } : Sheet) = _
      rw [clear]
      rfl
    rw [both]
    refine (insertAt_of_error (s := s.linked p e) (clear ▸ free) error).trans ?_
    rw [again]

/-! ## 4. Items and keys -/

theorem insert_cell_of_located (located : s.locate key = .ok p) (c : Cell) :
    s.insert (.cell c) key = s.insertAt p c := insertCell_of_located located c

theorem insert_of_unlocated {fault : Fault} (item : Item) (h : s.locate key = .error fault) :
    (s.insert item key).1 = s := by
  cases item with
  | cell c => simp only [insert, insertCell, h]
  | _ => rfl

theorem sameBut_insert (h : s.graph.WellFormed) (item : Item) (located : s.locate key = .ok p) :
    SameBut s (s.insert item key).1 p := by
  cases item with
  | cell c =>
    rw [insert_cell_of_located located]
    exact sameBut_inserted h (s.inserted_insertAt p c)
  | _ => exact .refl s p

/-- Any other item is refused, whatever stood at the place. -/
theorem SameBut.insert (h : SameBut s s' p) (item : Item) (located : s.locate key = .ok p) :
    (s'.insert item key).2 = (s.insert item key).2 ∧
      ((s.insert item key).2 = .ok () → s'.insert item key = s.insert item key) := by
  cases item with
  | cell c =>
    have located' : s'.locate key = .ok p := (locate_congr h.config key).trans located
    rw [insert_cell_of_located located, insert_cell_of_located located']
    exact h.insertAt c
  | _ => exact ⟨rfl, fun answered => nomatch answered⟩

theorem insert_insert_self (h : s.graph.WellFormed) (item : Item) (located : s.locate key = .ok p) :
    (s.insert item key).1.insert item key = s.insert item key := by
  cases item with
  | cell c =>
    have located' : (s.insertAt p c).1.locate key = .ok p :=
      (locate_congr (sameBut_inserted h (s.inserted_insertAt p c)).config key).trans located
    rw [insert_cell_of_located located, insert_cell_of_located located']
    exact insertAt_insertAt h p c
  | _ => rfl

/-! ## 5. Every history -/

/-- **The last insertion counts.** On every sheet that a history of operations leads to, edits of the
    graph included, what is inserted at a key, refused or not, makes no difference to what is inserted
    there next: this has the outcome that it has without the first insertion, and if it answers, it
    leaves the same sheet, with the same readers of each place in the same order and as often. So
    inserting twice is inserting once, and a place that is cleared is as if nothing had been inserted
    there before. -/
theorem insert_insert (s : Sheet) (arises : s.Arises) (key : Key) (first last : Item) :
    ((s.insert first key).1.insert last key).2 = (s.insert last key).2 ∧
    (((s.insert first key).1.insert last key).2 = .ok () →
      (s.insert first key).1.insert last key = s.insert last key) ∧
    (s.insert last key).1.insert last key = s.insert last key ∧
    (s.insert first key).1.set key .nothing = s.set key .nothing := by
  have h := arises.wellFormed
  cases located : s.locate key with
  | error fault =>
    rw [insert_of_unlocated first located, insert_of_unlocated last located]
    exact ⟨rfl, fun _ => rfl, rfl, rfl⟩
  | ok p =>
    have but := sameBut_insert h first located
    obtain ⟨outcome, answered⟩ := but.insert last located
    refine ⟨outcome, fun ok => answered (outcome ▸ ok), insert_insert_self h last located, ?_⟩
    have plain : (s.insert (.cell .empty) key).2 = .ok () := by
      rw [insert_cell_of_located located]
      rfl
    exact (but.insert (.cell .empty) located).2 plain

/-- B1 reads A1, which is 5; behind the back of the cells it is registered that C1 and once more B1 read
    A1, and that C1 and D1 read each other. -/
def handEdited : List Command :=
  [.set (.label (ofString "A1")) (.int 5), .set (.label (ofString "B1")) (.text (ofString "=A1")),
    .graph (.register ⟨0, 0⟩ ⟨2, 0⟩), .graph (.register ⟨0, 0⟩ ⟨1, 0⟩),
    .graph (.register ⟨2, 0⟩ ⟨3, 0⟩), .graph (.register ⟨3, 0⟩ ⟨2, 0⟩)]

/-- Doubles A1. -/
def twiceA1 : Item :=
  .cell (.formula ⟨ofString "=A1+A1",
    some [.operand (.cell ⟨0, 0⟩), .operand (.cell ⟨0, 0⟩), .operator .add]⟩ (.error .notExecuted))

/-- The general statement at this sheet: the first insertion into B1 is stopped by a place left of A1,
    and has changed the readers of that place; the second one answers. -/
theorem insert_insert_hand_edited :
    ((fresh .standard).run handEdited).Arises ∧
    (((fresh .standard).run handEdited).insert (.cell (.formula leftOfA1 (.value 0)))
      (.label (ofString "B1"))).2 = .error (.negativePosition ⟨-1, 0⟩) ∧
    (((fresh .standard).run handEdited).insert (.cell (.formula leftOfA1 (.value 0)))
      (.label (ofString "B1"))).1.insert twiceA1 (.label (ofString "B1")) =
      ((fresh .standard).run handEdited).insert twiceA1 (.label (ofString "B1")) ∧
    (((fresh .standard).run handEdited).insert twiceA1 (.label (ofString "B1"))).1.graph.readersOf
      ⟨0, 0⟩ = [⟨2, 0⟩, ⟨1, 0⟩] := by
  have arises : ((fresh .standard).run handEdited).Arises := ⟨.standard, handEdited, rfl⟩
  obtain ⟨-, answered, -⟩ := insert_insert _ arises (.label (ofString "B1"))
    (.cell (.formula leftOfA1 (.value 0))) twiceA1
  exact ⟨arises, by decide +kernel, answered (by decide +kernel), by decide +kernel⟩

end Sheet

end Spreadsheet
