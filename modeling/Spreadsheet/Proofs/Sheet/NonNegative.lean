import Spreadsheet.Proofs.Cell.Entry
import Spreadsheet.Proofs.Expression.Caching
import Spreadsheet.Proofs.Sheet.Evaluation

/-!
# Sheets without negative references

Only a cell that was built by hand can refer to a negative position. Operations that are handed no
such cell bring none to their target (`nonNegative_of_offered`), and the texts that they compile give
none to be kept (`NonNegative.cacheAfter`).
-/

namespace Spreadsheet

/-- Whether a cell refers to no negative position. -/
def Cell.nonNegative : Cell → Bool
  | .formula e _ => e.nonNegative
  | _ => true

/-- Whether an item is not a cell that refers to a negative position. -/
def Item.nonNegative : Item → Bool
  | .cell c => c.nonNegative
  | _ => true

/-- Whether the cell that an operation is handed, if it is handed one, refers to no negative
    position. -/
def Sheet.Command.nonNegative : Sheet.Command → Bool
  | .set _ item => item.nonNegative
  | .insert item _ => item.nonNegative
  | _ => true

namespace Sheet

variable {s : Sheet} {e : Expression} {c : Cell}

/-- No formula of the sheet and none of the expressions kept refers to a negative position. -/
structure NonNegative (s : Sheet) : Prop where
  cells : ∀ p, (s.cellAt p).nonNegative = true
  kept : ∀ text e, s.cache.find? text = some e → e.nonNegative = true

theorem nonNegative_fresh (config : SheetConfig) : (fresh config).NonNegative where
  cells _ := rfl
  kept text e h := by
    rw [fresh, Cache.find?_empty] at h
    cases h

theorem nonNegative_of_compile {text : Text} (h : s.NonNegative)
    (ok : (s.cache.compile text).2 = .ok e) : e.nonNegative = true := by
  rcases Cache.found_or_compiled ok with found | compiled
  · exact h.kept _ _ found
  · exact Expression.nonNegative_of_compile compiled

theorem nonNegative_of_ofEntry {text : Text} (h : s.NonNegative)
    (ok : (s.cache.ofEntry text).2 = .ok c) : c.nonNegative = true := by
  unfold Cache.ofEntry at ok
  split at ok
  · cases compiled : (s.cache.compile text).2 with
    | ok e =>
      simp only [compiled, Except.map] at ok
      cases ok
      exact nonNegative_of_compile h compiled
    | error fault =>
      simp only [compiled, Except.map] at ok
      cases ok
  · rcases Cell.ofPlainEntry_cases ok with ⟨-, rfl⟩ | rfl | ⟨n, -, rfl⟩
    · rfl
    · rfl
    · rfl

/-- **An operation handed no negative reference brings none.** -/
theorem nonNegative_of_offered {command : Command} (h : s.NonNegative)
    (handed : command.nonNegative = true) (offered : Offered s command c) :
    c.nonNegative = true := by
  cases offered with
  | set => exact handed
  | insert => exact handed
  | emptied => rfl
  | number => rfl
  | entered _ _ _ ok => exact nonNegative_of_ofEntry h ok
  | copied source _ _ ok =>
    obtain ⟨p, -, rfl⟩ := cellAt_of_cell ok
    exact h.cells p
  | reentered _ _ _ _ _ ok => exact nonNegative_of_ofEntry h ok

theorem NonNegative.cacheAfter {cache : Cache} (h : s.NonNegative) (after : s.CacheAfter cache) :
    ∀ text e, cache.find? text = some e → e.nonNegative = true := by
  rcases after with rfl | ⟨text, rfl⟩
  · exact h.kept
  · exact Cache.forall_find?_compile h.kept
      (fun _ _ compiled => Expression.nonNegative_of_compile compiled) text

end Sheet

end Spreadsheet
