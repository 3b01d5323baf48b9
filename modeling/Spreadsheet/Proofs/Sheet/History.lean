import Spreadsheet.Proofs.Sheet.Editing

/-!
# A sheet forgets its history

The results that a current sheet caches are determined by what was entered: a formula holds what it
gives on the cells that it reads, and these hold what they give in turn, down to cells that hold no
formula. So two current sheets with the same contents and the same rejected formulas are the same,
cell by cell (`Linked.cellAt_eq`), and register the same edges (`Linked.perm_readersOf`), in whatever
order the contents came and whatever stood there before (`history_independent`).
-/

namespace Spreadsheet

/-- What was entered into the cell: the cell with a formula's result forgotten. -/
def Cell.contents : Cell → Cell
  | .formula e _ => .unevaluated e
  | c => c

theorem Cell.contents_eq_unevaluated_iff {c : Cell} {e : Expression} :
    c.contents = .unevaluated e ↔ ∃ r, c = .formula e r := by
  cases c with
  | formula e' r => simp [contents, unevaluated]
  | _ => simp [contents, unevaluated]

/-- Cells without formula are their contents. -/
theorem Cell.contents_of_plain {c : Cell} (h : ∀ e r, c ≠ .formula e r) : c.contents = c := by
  cases c with
  | formula e r => exact absurd rfl (h e r)
  | _ => rfl

namespace Sheet

open Spreadsheet.Graph Spreadsheet.Text

variable {s s' : Sheet} {p : Position}

/-- The place holds a formula that was rejected as cyclic. -/
def RejectedAt (s : Sheet) (p : Position) : Prop := ∃ e, s.cellAt p = .formula e (.error .cyclic)

/-- The two sheets hold the same contents, and the same of their formulas were rejected. -/
structure SameEntries (s s' : Sheet) : Prop where
  contents : ∀ p, (s.cellAt p).contents = (s'.cellAt p).contents
  rejected : ∀ p, s.RejectedAt p ↔ s'.RejectedAt p

/-- A formula of the one sheet stands in the other one too, where it was rejected or accepted alike. -/
theorem SameEntries.formula {e : Expression} {r : Result} (h : SameEntries s s')
    (stored : s.cellAt p = .formula e r) :
    ∃ r', s'.cellAt p = .formula e r' ∧ (r = .error .cyclic ↔ r' = .error .cyclic) := by
  have same := h.contents p
  rw [stored] at same
  obtain ⟨r', stored'⟩ := Cell.contents_eq_unevaluated_iff.mp same.symm
  have rejected := h.rejected p
  simp only [RejectedAt, stored, stored', Cell.formula.injEq] at rejected
  refine ⟨r', stored', ?_, ?_⟩
  · intro cyclic
    obtain ⟨_, -, cyclic'⟩ := rejected.mp ⟨e, rfl, cyclic⟩
    exact cyclic'
  · intro cyclic'
    obtain ⟨_, -, cyclic⟩ := rejected.mpr ⟨e, rfl, cyclic'⟩
    exact cyclic

/-- **Current sheets with the same entries are the same cell by cell.** -/
theorem Linked.cellAt_eq (linked : s.Linked) (current : s.Current) (current' : s'.Current)
    (config : s'.config = s.config) (entries : SameEntries s s') (p : Position) :
    s'.cellAt p = s.cellAt p := by
  -- along the edges: the cells that a formula reads are the same before it is looked at
  induction p using (linked.acyclic.wellFounded linked.wellFormed).induction with
  | _ p ih =>
    by_cases formula : ∃ e r, s.cellAt p = .formula e r
    · obtain ⟨e, r, stored⟩ := formula
      obtain ⟨r', stored', alike⟩ := entries.formula stored
      rw [stored, stored']
      by_cases cyclic : r = .error .cyclic
      · rw [cyclic, alike.mp cyclic]
      · have accepted := acceptedAt?_of_formula stored cyclic
        have reads : ∀ t ∈ e.references, s'.valueAt t = s.valueAt t := by
          intro t ht
          have edge : s.graph.Edge t p := (linked.edges t p).mpr ⟨e, accepted, ht⟩
          exact valueAt_congr config (ih t edge)
        have holds : s.evaluate e = .ok r := current p e r stored cyclic
        have holds' : s'.evaluate e = .ok r' :=
          current' p e r' stored' fun cyclic' => cyclic (alike.mpr cyclic')
        rw [evaluate_congr reads, holds] at holds'
        cases holds'
        rfl
    · have plain : ∀ e r, s.cellAt p ≠ .formula e r := fun e r stored => formula ⟨e, r, stored⟩
      have plain' : ∀ e r, s'.cellAt p ≠ .formula e r := by
        intro e r stored'
        have same := entries.contents p
        rw [stored'] at same
        obtain ⟨r, stored⟩ := Cell.contents_eq_unevaluated_iff.mp same
        exact plain e r stored
      have same := entries.contents p
      rw [Cell.contents_of_plain plain, Cell.contents_of_plain plain'] at same
      exact same.symm

/-- Sheets with the same accepted formulas register the same readers of a place, perhaps in another
    order. -/
theorem Linked.perm_of_accepted (linked : s.Linked) (linked' : s'.Linked)
    (same : ∀ p, s'.acceptedAt? p = s.acceptedAt? p) (t : Position) :
    (s'.graph.readersOf t).Perm (s.graph.readersOf t) := by
  refine (List.perm_ext_iff_of_nodup (linked'.simple t) (linked.simple t)).mpr ?_
  intro r
  have reads : s'.Reads r t ↔ s.Reads r t := by
    unfold Reads
    rw [same r]
  exact (linked'.edges t r).trans (reads.trans (linked.edges t r).symm)

/-- So do sheets with the same cells. -/
theorem Linked.perm_readersOf (linked : s.Linked) (linked' : s'.Linked)
    (same : ∀ p, s'.cellAt p = s.cellAt p) (t : Position) :
    (s'.graph.readersOf t).Perm (s.graph.readersOf t) :=
  linked.perm_of_accepted linked' (fun p => acceptedAt?_congr (same p)) t

theorem config_run_followed {commands : List Command} (s : Sheet)
    (plain : ∀ c ∈ commands, c.Plain) :
    (s.run (commands.flatMap Command.followed)).config = s.config := by
  refine config_run s fun c hc => ?_
  obtain ⟨command, member, followed⟩ := List.mem_flatMap.mp hc
  rcases List.mem_cons.mp followed with rfl | after
  · exact (plain c member).1
  · rw [Option.mem_toList, Option.map_eq_some_iff] at after
    obtain ⟨key, -, rfl⟩ := after
    rfl

/-- **A sheet forgets its history.** Two histories on sheets of the same extents, in which each edit is
    followed by the recalculation of its key, may differ in everything: if they end with the same
    contents at every place and the same rejected formulas, then they end with the same cell at every
    place, its cached result included, and with the same edges. -/
theorem history_independent (config : SheetConfig) (commands commands' : List Command)
    (plain : ∀ c ∈ commands, c.Plain) (plain' : ∀ c ∈ commands', c.Plain)
    (entries : SameEntries ((fresh config).run (commands.flatMap Command.followed))
      ((fresh config).run (commands'.flatMap Command.followed))) :
    (∀ p, ((fresh config).run (commands'.flatMap Command.followed)).cellAt p =
      ((fresh config).run (commands.flatMap Command.followed)).cellAt p) ∧
    ∀ t, (((fresh config).run (commands'.flatMap Command.followed)).graph.readersOf t).Perm
      (((fresh config).run (commands.flatMap Command.followed)).graph.readersOf t) := by
  obtain ⟨linked, current⟩ :=
    (linked_fresh config).current_run_followed (current_fresh config) plain
  obtain ⟨linked', current'⟩ :=
    (linked_fresh config).current_run_followed (current_fresh config) plain'
  have extents := config_run_followed (fresh config) plain
  have extents' := config_run_followed (fresh config) plain'
  have cells := linked.cellAt_eq current current' (extents'.trans extents.symm) entries
  exact ⟨cells, linked.perm_readersOf linked' cells⟩

/-- B1 and C1 are made to read A1 before it holds anything, and then A1 becomes 5. -/
def readersFirst : List Command :=
  [.set (.label (ofString "B1")) (.text (ofString "=A1+1")),
    .set (.label (ofString "C1")) (.text (ofString "=A1*2")),
    .set (.label (ofString "A1")) (.int 5)]

/-- A1 becomes 5 after it held a text, C1 first reads itself and is refused, and B1 is a copy. -/
def readersLast : List Command :=
  [.set (.label (ofString "A1")) (.text (ofString "five")),
    .set (.label (ofString "A1")) (.int 5),
    .set (.label (ofString "C1")) (.text (ofString "=C1")),
    .set (.label (ofString "C1")) (.text (ofString "=A1*2")),
    .set (.label (ofString "D4")) (.text (ofString "=A1+1")),
    .copy (.label (ofString "D4")) (.label (ofString "B1")),
    .set (.label (ofString "D4")) .nothing]

/-- The general statement at these histories, which register the readers of A1 in different orders. -/
theorem history_independent_readers :
    (∀ c ∈ readersFirst, c.Plain) ∧ (∀ c ∈ readersLast, c.Plain) ∧
    SameEntries ((fresh .standard).run (readersFirst.flatMap Command.followed))
      ((fresh .standard).run (readersLast.flatMap Command.followed)) ∧
    (∀ p, ((fresh .standard).run (readersLast.flatMap Command.followed)).cellAt p =
      ((fresh .standard).run (readersFirst.flatMap Command.followed)).cellAt p) ∧
    ((fresh .standard).run (readersFirst.flatMap Command.followed)).graph.readersOf ⟨0, 0⟩ =
      [⟨1, 0⟩, ⟨2, 0⟩] ∧
    ((fresh .standard).run (readersLast.flatMap Command.followed)).graph.readersOf ⟨0, 0⟩ =
      [⟨2, 0⟩, ⟨1, 0⟩] := by
  have plain : ∀ c ∈ readersFirst, c.Plain := by decide
  have plain' : ∀ c ∈ readersLast, c.Plain := by decide
  have stored : ((fresh .standard).run (readersFirst.flatMap Command.followed)).cells =
      ((fresh .standard).run (readersLast.flatMap Command.followed)).cells := by decide +kernel
  have same : ∀ p, ((fresh .standard).run (readersFirst.flatMap Command.followed)).cellAt p =
      ((fresh .standard).run (readersLast.flatMap Command.followed)).cellAt p := by
    intro p
    rw [cellAt, stored]
    rfl
  have entries : SameEntries ((fresh .standard).run (readersFirst.flatMap Command.followed))
      ((fresh .standard).run (readersLast.flatMap Command.followed)) := by
    refine ⟨fun p => by rw [same p], fun p => ?_⟩
    unfold RejectedAt
    rw [same p]
  obtain ⟨cells, -⟩ :=
    history_independent .standard readersFirst readersLast plain plain' entries
  exact ⟨plain, plain', entries, cells, by decide +kernel, by decide +kernel⟩

end Sheet

end Spreadsheet
