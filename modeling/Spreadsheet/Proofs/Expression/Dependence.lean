import Spreadsheet.Proofs.Expression.References

/-!
# What a result depends on

The dependency graph is fed with the references of an expression, and its run reads cells. The two go
through the program apart from each other: the references are the cells of the program by first
appearance (`references_firstAppearances`), and the run asks for the cells in order until one of them
has no number. `depends_on_references` says that no run looks beyond the references.
-/

namespace Spreadsheet

namespace Expression

open Spreadsheet.Text

variable {e : Expression} {p : Position}

/-- **A run asks for the cells of the program from the first one on.** -/
theorem reads_from_first (e : Expression) (source : Option Source) :
    (e.execute source).reads <+: e.cells := by
  obtain ⟨text, program⟩ := e
  cases program with
  | none => exact List.nil_prefix
  | some program => exact Program.reads_run_from_first source program []

theorem reads_of_value {source : Option Source} {n : Int}
    (h : (e.execute source).result = .value n) : (e.execute source).reads = e.cells := by
  obtain ⟨text, program⟩ := e
  cases program with
  | none => cases h
  | some program => exact Program.reads_run_of_value h

theorem ends_of_missing {values : Source} {before after : List Position}
    (reads : (e.execute (some values)).reads = before ++ p :: after) (missing : values p = none) :
    after = [] ∧ (e.execute (some values)).result = .error .cellNotFound := by
  obtain ⟨text, program⟩ := e
  cases program with
  | none => simp [execute, Program.execute] at reads
  | some program => exact Program.ends_of_missing reads missing

/-- Without cells there is nothing that a source could tell. -/
theorem execute_of_no_cells (none : e.cells = []) (source source' : Option Source) :
    e.execute source = e.execute source' := by
  obtain ⟨text, program⟩ := e
  cases program with
  | none => rfl
  | some program =>
    refine Program.run_congr (fun p member => ?_) []
    have cell : p ∈ program.filterMap Instruction.cell? :=
      List.mem_filterMap.mpr ⟨_, member, rfl⟩
    have none : program.filterMap Instruction.cell? = [] := none
    rw [none] at cell
    cases cell

/-- **A result depends on the references only.** Two sources that give the same at every reference of
    an expression give the same result and are asked for the same positions in the same order. These
    are cells of the program from the first one on, in order and each as often as it comes; the first
    one without a number is the last one asked for, with the error that a cell has no number, and a run
    that gives a number has asked for all of them. A program without cells gives the same with every
    source and without any. -/
theorem depends_on_references (e : Expression) :
    (∀ values values' : Source, (∀ p ∈ e.references, values p = values' p) →
      (e.execute (some values)).result = (e.execute (some values')).result ∧
      (e.execute (some values)).reads = (e.execute (some values')).reads) ∧
    (∀ values : Source, (e.execute (some values)).reads <+: e.cells ∧
      (∀ before p after, (e.execute (some values)).reads = before ++ p :: after →
        values p = none → after = [] ∧ (e.execute (some values)).result = .error .cellNotFound) ∧
      ∀ n, (e.execute (some values)).result = .value n → (e.execute (some values)).reads = e.cells) ∧
    (e.cells = [] → ∀ source source' : Option Source,
      (e.execute source).result = (e.execute source').result) := by
  refine ⟨fun values values' same => ?_, fun values => ⟨?_, ?_, ?_⟩, fun none source source' => ?_⟩
  · rw [execute_congr same]
    exact ⟨rfl, rfl⟩
  · exact e.reads_from_first (some values)
  · exact fun before p after => ends_of_missing
  · exact fun n => reads_of_value
  · rw [execute_of_no_cells none source source']

/-- A formula that reads two cells, one of them twice: `=A1*B1+A1`. -/
def readingTwice : Expression :=
  ⟨ofString "=A1*B1+A1", some [.operand (.cell ⟨0, 0⟩), .operand (.cell ⟨1, 0⟩), .operator .mul,
    .operand (.cell ⟨0, 0⟩), .operator .add]⟩

/-- A formula without cells: `=7/2`. -/
def readingNothing : Expression :=
  ⟨ofString "=7/2", some [.operand (.number 7), .operand (.number 2), .operator .div]⟩

/-- The general statement at these formulas: a source that has a number for A1 only, and one that has
    one for C1 as well; both are asked for A1 and then for B1. -/
theorem depends_on_references_reading_twice :
    let lone : Source := fun p => if p = ⟨0, 0⟩ then some 5 else none
    let other : Source := fun p => if p = ⟨2, 0⟩ then some 8 else lone p
    (readingTwice.execute (some lone)).result = (readingTwice.execute (some other)).result ∧
    (readingTwice.execute (some lone)).reads = [] ++ ⟨0, 0⟩ :: [⟨1, 0⟩] ∧
    (readingTwice.execute (some lone)).result = .error .cellNotFound ∧
    (readingNothing.execute (some lone)).result = (readingNothing.execute none).result ∧
    (readingNothing.execute (some lone)).reads = readingNothing.cells := by
  intro lone other
  obtain ⟨same, missing, -⟩ := readingTwice.depends_on_references
  obtain ⟨-, whole, nothing⟩ := readingNothing.depends_on_references
  have reads : (readingTwice.execute (some lone)).reads = [⟨0, 0⟩] ++ ⟨1, 0⟩ :: [] := by decide
  refine ⟨(same lone other (by decide)).1, reads, ((missing lone).2.1 _ _ _ reads rfl).2, ?_, ?_⟩
  · exact nothing rfl (some lone) none
  · exact (whole lone).2.2 3 (by decide)

end Expression

end Spreadsheet
