import Spreadsheet.Proofs.Expression.Caching
import Spreadsheet.Proofs.Sheet.Refresh

/-!
# The cache of a sheet is invisible

Whatever an operation does, refused or not, it leaves the cache as it was or with one text more
(`cacheAfter_perform`). So the cache of a sheet is faithful after every history (`faithful_run`).

Where a cell is put does not depend on the cache (`insertCell_withCache`). Entering a text therefore
comes to the same as making it into a cell without any cache and inserting that cell
(`cache_invisible`).
-/

namespace Spreadsheet

namespace Sheet

open Spreadsheet.Text

variable {s s' : Sheet}

/-! ## 1. The cache after an operation -/

theorem Step.cacheAfter {command : Command} (step : Step s command s') : s.CacheAfter s'.cache := by
  cases step with
  | kept _ _ _ after => exact after
  | inserted _ _ _ _ cache _ _ _ _ after inserted =>
    cases inserted with
    | plain => exact after
    | rejected => exact after
    | accepted => exact after
    | stopped => exact after
  | recalculated keys => exact .inl (s.onlyCells_recalculate keys).cache

/-- **An operation leaves the cache as it was, or with one text compiled.** -/
theorem cacheAfter_perform (s : Sheet) (command : Command) :
    s.CacheAfter (s.perform command).1.cache := by
  cases own : command.editsGraph with
  | false => exact (s.step_perform command own).cacheAfter
  | true =>
    cases command with
    | graph command => exact .inl rfl
    | _ => cases own

theorem CacheAfter.faithful {cache : Cache} (after : s.CacheAfter cache) (h : s.cache.Faithful) :
    cache.Faithful := by
  rcases after with rfl | ⟨text, rfl⟩
  · exact h
  · exact h.compile text

/-- **After every history the cache is faithful.** -/
theorem faithful_run (config : SheetConfig) (commands : List Command) :
    ((fresh config).run commands).cache.Faithful :=
  run_kept (fun s => s.cache.Faithful) Cache.faithful_empty commands fun s command h =>
    (s.cacheAfter_perform command).faithful h

/-! ## 2. Entering a text without the cache -/

/-- The sheet with another cache. -/
def withCache (s : Sheet) (cache : Cache) : Sheet := { s with cache := cache }

theorem insertAt_withCache (s : Sheet) (cache : Cache) (p : Position) (c : Cell) :
    (s.withCache cache).insertAt p c = ((s.insertAt p c).1.withCache cache, (s.insertAt p c).2) := by
  cases c with
  | formula e r =>
    cases test : (s.graph.clear p).wouldCycle p e.references with
    | true =>
      have test' : ((s.withCache cache).graph.clear p).wouldCycle p e.references = true := test
      rw [insertAt_of_loop test, insertAt_of_loop test']
      rfl
    | false =>
      have test' : ((s.withCache cache).graph.clear p).wouldCycle p e.references = false := test
      -- the run of the formula looks at cells only
      have same : ((s.withCache cache).linked p e).evaluate e = (s.linked p e).evaluate e := rfl
      cases evaluated : (s.linked p e).evaluate e with
      | ok result =>
        rw [insertAt_of_ok test evaluated, insertAt_of_ok test' (same.trans evaluated)]
        rfl
      | error fault =>
        rw [insertAt_of_error test evaluated, insertAt_of_error test' (same.trans evaluated)]
        rfl
  | _ => rfl

/-- **Where a cell is put does not depend on the cache.** -/
theorem insertCell_withCache (s : Sheet) (cache : Cache) (c : Cell) (key : Key) :
    (s.withCache cache).insertCell c key =
      ((s.insertCell c key).1.withCache cache, (s.insertCell c key).2) := by
  have same : (s.withCache cache).locate key = s.locate key := rfl
  unfold insertCell
  rw [same]
  cases s.locate key with
  | ok p => exact s.insertAt_withCache cache p c
  | error fault => rfl

/-- Makes a text into a cell without any cache, and inserts that cell. -/
def enterUncached (s : Sheet) (text : Text) (key : Key) : Sheet × Except Fault Unit :=
  match Cell.ofEntry text with
  | .ok c => s.insert (.cell c) key
  | .error fault => (s, .error fault)

/-- Entering a text comes to the same without the cache. -/
theorem enter_eq (h : s.cache.Faithful) (text : Text) (key : Key) :
    ∃ cache, s.enter text key =
      ((s.enterUncached text key).1.withCache cache, (s.enterUncached text key).2) := by
  have entry := h.ofEntry_eq text
  refine ⟨(s.cache.ofEntry text).1, ?_⟩
  unfold enterUncached
  cases outcome : Cell.ofEntry text with
  | ok c =>
    rw [outcome] at entry
    rw [enter_of_ok entry]
    exact s.insertCell_withCache _ c key
  | error fault =>
    rw [outcome] at entry
    rw [enter_of_error entry]
    rfl

/-- **The cache of a sheet is invisible.** After every history, refused operations and edits of the
    graph included, what is kept under a text is what the text compiles to; compiling a text with the
    sheet gives what compiling it without gives, or the same fault; and setting a key to a text gives
    the same cells, the same graph and the same fault as making the text into a cell without any cache
    and inserting that cell: at most the cache itself is another one. -/
theorem cache_invisible (config : SheetConfig) (commands : List Command) :
    (∀ text e, ((fresh config).run commands).cache.find? text = some e →
      Expression.compile text = .ok e) ∧
    (∀ text, (((fresh config).run commands).compile text).2 = Expression.compile text) ∧
    ∀ text key, ∃ cache, ((fresh config).run commands).set key (.text text) =
      ((((fresh config).run commands).enterUncached text key).1.withCache cache,
        (((fresh config).run commands).enterUncached text key).2) := by
  have faithful := faithful_run config commands
  exact ⟨faithful, faithful.compile_eq, enter_eq faithful⟩

/-- A formula is entered outside the grid, which is refused. -/
def refusedOutside : List Command := [.set (.label (ofString "Z1")) (.text (ofString "=B1+1"))]

/-- The general statement at this history: the text was compiled and is kept, and it is entered alike
    with what is kept and without. -/
theorem cache_invisible_refused_outside :
    ((fresh .standard).run refusedOutside).cache.find? (ofString "=B1+1") =
      some ⟨ofString "=B1+1",
        some [.operand (.cell ⟨1, 0⟩), .operand (.number 1), .operator .add]⟩ ∧
    Expression.compile (ofString "=B1+1") =
      .ok ⟨ofString "=B1+1",
        some [.operand (.cell ⟨1, 0⟩), .operand (.number 1), .operator .add]⟩ ∧
    ∃ cache, ((fresh .standard).run refusedOutside).set (.label (ofString "A1"))
        (.text (ofString "=B1+1")) =
      ((((fresh .standard).run refusedOutside).enterUncached (ofString "=B1+1")
        (.label (ofString "A1"))).1.withCache cache,
        (((fresh .standard).run refusedOutside).enterUncached (ofString "=B1+1")
          (.label (ofString "A1"))).2) := by
  have kept : ((fresh .standard).run refusedOutside).cache.find? (ofString "=B1+1") =
      some ⟨ofString "=B1+1",
        some [.operand (.cell ⟨1, 0⟩), .operand (.number 1), .operator .add]⟩ := by decide +kernel
  obtain ⟨faithful, -, entering⟩ := cache_invisible .standard refusedOutside
  exact ⟨kept, faithful _ _ kept, entering _ _⟩

end Sheet

end Spreadsheet
