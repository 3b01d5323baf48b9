import Spreadsheet.Fault
import Spreadsheet.Position.Map

/-!
# The graph of dependencies

An edge says that the formula at one position, the reader, reads another, the target. The graph
keeps edges twice: for each target its readers, in the order of registration and as often as they
were registered (`readers`), and for each reader the set of its targets (`reads`). A position
without readers, or without targets, is not listed at all.

`register`, `unregister` and `clear` are the only changes; `Command` and `run` say what a history
of them leads to.
-/

namespace Spreadsheet

/-- Which formulas read which cells. -/
@[ext] structure Graph where
  /-- The readers of each target, oldest registration first. -/
  readers : PositionMap (List Position)
  /-- The targets of each reader. -/
  reads : PositionMap PositionSet
  deriving DecidableEq

namespace Graph

/-! ## 1. Looking up -/

/-- The graph without edges. -/
def empty : Graph := ⟨.empty, .empty⟩

/-- The readers of a position, oldest registration first. -/
def readersOf (g : Graph) (p : Position) : List Position := (g.readers.get? p).getD []

/-- The targets of a position. -/
def readsOf (g : Graph) (p : Position) : PositionSet := (g.reads.get? p).getD .empty

/-- The positions that read something, in ascending order. -/
def formulaCells (g : Graph) : List Position := g.reads.keys

/-! ## 2. Changing -/

/-- A list worth keeping: one that is not empty. -/
def someReaders? (readers : List Position) : Option (List Position) :=
  if readers = [] then none else some readers

/-- A set worth keeping: one that is not empty. -/
def someTargets? (targets : PositionSet) : Option PositionSet :=
  if targets = .empty then none else some targets

/-- Registers that the formula at `reader` reads `target`. -/
def register (g : Graph) (target reader : Position) : Graph where
  readers := g.readers.insert target (g.readersOf target ++ [reader])
  reads := g.reads.insert reader ((g.readsOf reader).add target)

/-- Registers a formula as the reader of several targets. -/
def registerAll (g : Graph) (targets : List Position) (reader : Position) : Graph :=
  targets.foldl (fun g target => g.register target reader) g

/-- Takes back one registration of an edge, the oldest; the target stays in the reader's set as long
    as another registration is left. With the last one it leaves the set, for which the reader has to
    be listed. -/
def unregister (g : Graph) (target reader : Position) : Except Fault Graph :=
  if reader ∈ g.readersOf target then
    let left := (g.readersOf target).erase reader
    let readers := g.readers.assign target (someReaders? left)
    if reader ∈ left then .ok ⟨readers, g.reads⟩
    else
      match g.reads.get? reader with
      | none => .error (.notListed reader)
      | some targets => .ok ⟨readers, g.reads.assign reader (someTargets? (targets.erase target))⟩
  else .error (Fault.notRegistered reader target).raised

/-- Strikes a reader from the list of one target. -/
def strike (reader : Position) (readers : PositionMap (List Position)) (target : Position) :
    PositionMap (List Position) :=
  readers.assign target (someReaders? (((readers.get? target).getD []).filter (· ≠ reader)))

/-- Drops a reader from the lists of the given targets, in the given order, and its own set. -/
def clearAlong (g : Graph) (targets : List Position) (reader : Position) : Graph where
  readers := targets.foldl (strike reader) g.readers
  reads := g.reads.erase reader

/-- Drops every edge of the formula at `reader`. -/
def clear (g : Graph) (reader : Position) : Graph :=
  g.clearAlong (g.readsOf reader).toList reader

/-! ## 3. Lookups after a change -/

theorem readersOf_register (g : Graph) (target reader p : Position) :
    (g.register target reader).readersOf p =
      if p = target then g.readersOf target ++ [reader] else g.readersOf p := by
  simp only [register, readersOf, PositionMap.get?_insert]
  split <;> rfl

theorem readsOf_register (g : Graph) (target reader p : Position) :
    (g.register target reader).readsOf p =
      if p = reader then (g.readsOf reader).add target else g.readsOf p := by
  simp only [register, readsOf, PositionMap.get?_insert]
  split <;> rfl

@[simp] theorem getD_someReaders? (l : List Position) : (someReaders? l).getD [] = l := by
  unfold someReaders?
  split
  · rename_i h; rw [h]; rfl
  · rfl

@[simp] theorem getD_someTargets? (s : PositionSet) : (someTargets? s).getD .empty = s := by
  unfold someTargets?
  split
  · rename_i h; rw [h]; rfl
  · rfl

theorem get?_strike (reader : Position) (readers : PositionMap (List Position))
    (target p : Position) :
    ((strike reader readers target).get? p).getD [] =
      if p = target then ((readers.get? p).getD []).filter (· ≠ reader)
      else (readers.get? p).getD [] := by
  rw [strike, PositionMap.get?_assign]
  split
  · rename_i h; rw [h, getD_someReaders?]
  · rfl

/-- What is left of the list of a target when a reader is struck from those of several: nothing hangs
    on the order of these, or on whether one is given twice. -/
theorem get?_foldl_strike (targets : List Position) (reader : Position)
    (readers : PositionMap (List Position)) (p : Position) :
    (targets.foldl (strike reader) readers).get? p =
      if p ∈ targets then someReaders? (((readers.get? p).getD []).filter (· ≠ reader))
      else readers.get? p := by
  induction targets generalizing readers with
  | nil => simp
  | cons t targets ih =>
    rw [List.foldl_cons, ih, get?_strike, strike, PositionMap.get?_assign]
    by_cases later : p ∈ targets <;> by_cases here : p = t <;> simp [later, here]

/-- **Clearing strikes the reader from the list of every target given, whatever their order.** -/
theorem readersOf_clearAlong (g : Graph) (targets : List Position) (reader p : Position) :
    (g.clearAlong targets reader).readersOf p =
      if p ∈ targets then (g.readersOf p).filter (· ≠ reader) else g.readersOf p := by
  simp only [clearAlong, readersOf, get?_foldl_strike]
  split
  · exact getD_someReaders? _
  · rfl

theorem readsOf_clear (g : Graph) (reader p : Position) :
    (g.clear reader).readsOf p = if p = reader then .empty else g.readsOf p := by
  simp only [clear, clearAlong, readsOf, PositionMap.get?_erase]
  split <;> rfl

/-! ## 4. Histories -/

/-- A change of the graph. -/
inductive Command
  | register (target reader : Position)
  | unregister (target reader : Position)
  | clear (reader : Position)
  deriving DecidableEq

/-- Carries out a change; a refused one leaves the graph as it is. -/
def perform (g : Graph) : Command → Graph × Except Fault Unit
  | .register target reader => (g.register target reader, .ok ())
  | .unregister target reader =>
    match g.unregister target reader with
    | .ok g' => (g', .ok ())
    | .error fault => (g, .error fault)
  | .clear reader => (g.clear reader, .ok ())

/-- The graph after a history of changes, refused ones included. -/
def run (commands : List Command) : Graph :=
  commands.foldl (fun g command => (g.perform command).1) empty

end Graph

end Spreadsheet
