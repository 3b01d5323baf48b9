import Spreadsheet.Cell.Entry

/-!
# What a cache keeps

A cache that is asked for the expression of a text keeps that expression from then on, and nothing
else changes in it (`forall_find?_compile`). So a cache that began without entries is `Faithful`: what
it keeps under a text is what the text compiles to, and asking it cannot be told from compiling
(`Faithful.compile_eq`), or entering a text with its help from entering it without
(`Faithful.ofEntry_eq`).
-/

namespace Spreadsheet

namespace Cache

variable {cache : Cache} {text : Text} {e : Expression}

/-! ## 1. Asking a cache -/

/-- The expression that a cache gives was kept there, or is compiled now. -/
theorem found_or_compiled (ok : (cache.compile text).2 = .ok e) :
    cache.find? text = some e ∨ Expression.compile text = .ok e := by
  unfold compile at ok
  split at ok
  · rename_i found
    cases ok
    exact .inl found
  · split at ok
    · rename_i compiled
      cases ok
      exact .inr compiled
    · cases ok

/-- **What holds of all that is kept, and of all that is compiled, holds of all that is kept after.** -/
theorem forall_find?_compile {Holds : Text → Expression → Prop}
    (kept : ∀ text e, cache.find? text = some e → Holds text e)
    (compiled : ∀ text e, Expression.compile text = .ok e → Holds text e) (text : Text) :
    ∀ other e, (cache.compile text).1.find? other = some e → Holds other e := by
  intro other e found
  unfold compile at found
  split at found
  · exact kept other e found
  · split at found
    · rename_i ok
      rw [find?_insert] at found
      split at found
      · rename_i same
        cases found
        exact same ▸ compiled text e ok
      · exact kept other e found
    · exact kept other e found

/-! ## 2. Faithful caches -/

/-- What the cache keeps under a text is what the text compiles to. -/
def Faithful (cache : Cache) : Prop :=
  ∀ text e, cache.find? text = some e → Expression.compile text = .ok e

theorem faithful_empty : empty.Faithful := by
  intro text e found
  rw [find?_empty] at found
  cases found

theorem Faithful.compile (h : cache.Faithful) (text : Text) : (cache.compile text).1.Faithful :=
  forall_find?_compile h (fun _ _ ok => ok) text

/-- **Asking a faithful cache comes to the same as compiling,** also for texts that do not compile. -/
theorem Faithful.compile_eq (h : cache.Faithful) (text : Text) :
    (cache.compile text).2 = Expression.compile text := by
  unfold Cache.compile
  split
  · rename_i e found
    exact (h text e found).symm
  · split
    · rename_i ok
      exact ok.symm
    · rename_i error
      exact error.symm

/-- **A text enters the same cell with a faithful cache as without one.** -/
theorem Faithful.ofEntry_eq (h : cache.Faithful) (text : Text) :
    (cache.ofEntry text).2 = Cell.ofEntry text := by
  unfold Cache.ofEntry Cell.ofEntry
  split
  · rw [← h.compile_eq text]
  · rfl

end Cache

end Spreadsheet
