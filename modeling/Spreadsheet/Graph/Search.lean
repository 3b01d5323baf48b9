import Spreadsheet.Graph.Basic

/-!
# Search along the readers

From a position the graph leads to its readers, to their readers, and so on. One search answers the
two questions asked of the graph: whether a new formula would close a loop (`wouldCycle`), and
which formulas lie downstream of changed cells (`downstream`). Each step of the search takes a
position off the finite list of those not seen yet, so a search ends on every graph, cycles and
repeated edges included.
-/

namespace Spreadsheet

namespace Graph

theorem mem_of_dropWhile_eq_cons {unseen pending rest : List Position} {p : Position}
    (h : pending.dropWhile (fun q => decide (q ∉ unseen)) = p :: rest) : p ∈ unseen := by
  have := List.head?_dropWhile_not (fun q => decide (q ∉ unseen)) pending
  rw [h] at this
  simpa using this

/-- The positions met from those `pending` along `next`, each once, as far as they are listed in
    `unseen`: the first one pending that was not seen yet is met, and what it leads to is pending
    then. -/
def search (next : Position → List Position) (unseen pending : List Position) : List Position :=
  match _h : pending.dropWhile fun q => decide (q ∉ unseen) with
  | [] => []
  | p :: rest => p :: search next (unseen.erase p) (next p ++ rest)
termination_by unseen.length
decreasing_by
  have member := mem_of_dropWhile_eq_cons _h
  have := List.length_erase_of_mem member
  have := List.length_pos_of_mem member
  omega

/-- Every position that reads something, as the lists of readers tell it. -/
def allReaders (g : Graph) : List Position := g.readers.entries.flatMap (·.2)

/-- **The positions that are reached from the given ones by one or more edges.** -/
def downstream (g : Graph) (roots : List Position) : List Position :=
  search g.readersOf g.allReaders (roots.flatMap g.readersOf)

/-- **Whether a formula at `p` that reads `targets` would close a loop:** it reads itself, or a
    position that it leads to, or it lies on a loop already. -/
def wouldCycle (g : Graph) (p : Position) (targets : List Position) : Bool :=
  decide (p ∈ targets) || (g.downstream [p]).any fun q => decide (q = p) || decide (q ∈ targets)

theorem mem_allReaders {g : Graph} {p q : Position} (h : q ∈ g.readersOf p) : q ∈ g.allReaders := by
  unfold readersOf at h
  cases hp : g.readers.get? p with
  | none => simp [hp] at h
  | some readers =>
    rw [hp] at h
    exact List.mem_flatMap.2 ⟨_, PositionMap.get?_eq_some_iff.1 hp, h⟩

end Graph

end Spreadsheet
