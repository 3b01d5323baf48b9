import Spreadsheet.Sheet.Command

/-!
# What one operation does

Whatever enters a sheet takes one way, and this file says once what can happen on it. `Inserted`
lists the four outcomes at a place and `Placed` the cells that they leave there (`placed_inserted`);
`Offered` lists the cells that an operation can bring there (`perform_of_offered`; one that can bring
none is refused, `offered_or_refused`), and `Step` the three ways in which an operation other than an
edit of the graph moves a sheet: the cells and the graph stay, a cell is inserted at the target of the
operation, or formulas are evaluated again. Every operation is such a step (`step_perform`), so an
invariant is shown for three cases, and `run_invariant` carries it through a history.
-/

namespace Spreadsheet

namespace Sheet

variable {s : Sheet} {p : Position} {c : Cell}

/-! ## 1. One place -/

/-- The sheet without the edges of the formula at `p`. -/
def cleared (s : Sheet) (p : Position) : Sheet := { s with graph := s.graph.clear p }

/-- The sheet with the edges of the formula `e` at `p`, in place of those that `p` had. -/
def linked (s : Sheet) (p : Position) (e : Expression) : Sheet :=
  { s with graph := (s.graph.clear p).registerAll e.references p }

/-- The outcomes of putting a cell at a place. -/
inductive Inserted (s : Sheet) (p : Position) : Cell → Sheet × Except Fault Unit → Prop
  /-- A cell without formula is stored. -/
  | plain (c : Cell) (h : ∀ e r, c ≠ .formula e r) :
      Inserted s p c ((s.cleared p).store p c, .ok ())
  /-- A formula that would close a loop is stored as cyclic. -/
  | rejected (e : Expression) (r : Result)
      (loop : (s.graph.clear p).wouldCycle p e.references = true) :
      Inserted s p (.formula e r) ((s.cleared p).store p (.formula e (.error .cyclic)), .ok ())
  /-- Any other formula is linked, evaluated and stored. -/
  | accepted (e : Expression) (r result : Result)
      (free : (s.graph.clear p).wouldCycle p e.references = false)
      (ok : (s.linked p e).evaluate e = .ok result) :
      Inserted s p (.formula e r) ((s.linked p e).store p (.formula e result), .ok ())
  /-- A formula whose evaluation stops is linked, and not stored. -/
  | stopped (e : Expression) (r : Result) (fault : Fault)
      (free : (s.graph.clear p).wouldCycle p e.references = false)
      (error : (s.linked p e).evaluate e = .error fault) :
      Inserted s p (.formula e r) (s.linked p e, .error fault)

theorem insertAt_of_plain (plain : ∀ e r, c ≠ .formula e r) :
    s.insertAt p c = ((s.cleared p).store p c, .ok ()) := by
  cases c with
  | formula e r => exact absurd rfl (plain e r)
  | _ => rfl

section Formulas

variable {e : Expression} {r : Result}

theorem insertAt_of_loop (loop : (s.graph.clear p).wouldCycle p e.references = true) :
    s.insertAt p (.formula e r) =
      ((s.cleared p).store p (.formula e (.error .cyclic)), .ok ()) := by
  simp only [insertAt, loop]
  rfl

theorem insertAt_of_ok {result : Result}
    (free : (s.graph.clear p).wouldCycle p e.references = false)
    (ok : (s.linked p e).evaluate e = .ok result) :
    s.insertAt p (.formula e r) = ((s.linked p e).store p (.formula e result), .ok ()) := by
  unfold linked at ok
  simp only [insertAt, free, ok]
  rfl

theorem insertAt_of_error {fault : Fault}
    (free : (s.graph.clear p).wouldCycle p e.references = false)
    (error : (s.linked p e).evaluate e = .error fault) :
    s.insertAt p (.formula e r) = (s.linked p e, .error fault) := by
  unfold linked at error
  simp only [insertAt, free, error]
  rfl

end Formulas

theorem inserted_insertAt (s : Sheet) (p : Position) (c : Cell) :
    Inserted s p c (s.insertAt p c) := by
  cases c with
  | formula e r =>
    cases test : (s.graph.clear p).wouldCycle p e.references with
    | true =>
      rw [insertAt_of_loop test]
      exact .rejected e r test
    | false =>
      cases evaluated : (s.linked p e).evaluate e with
      | ok result =>
        rw [insertAt_of_ok test evaluated]
        exact .accepted e r result test evaluated
      | error fault =>
        rw [insertAt_of_error test evaluated]
        exact .stopped e r fault test evaluated
  | empty => exact .plain _ nofun
  | number n => exact .plain _ nofun
  | text t => exact .plain _ nofun

/-- What stands at a place after a cell was put there. -/
inductive Placed (s : Sheet) (p : Position) : Cell → Cell → Prop
  | plain (c : Cell) (h : ∀ e r, c ≠ .formula e r) : Placed s p c c
  | rejected (e : Expression) (r : Result)
      (loop : (s.graph.clear p).wouldCycle p e.references = true) :
      Placed s p (.formula e r) (.formula e (.error .cyclic))
  | evaluated (e : Expression) (r result : Result) (ok : s.evaluate e = .ok result) :
      Placed s p (.formula e r) (.formula e result)

/-- **An insertion changes one cell at most.** -/
theorem placed_inserted {outcome : Sheet × Except Fault Unit} (inserted : Inserted s p c outcome)
    (q : Position) :
    outcome.1.cellAt q = s.cellAt q ∨ (q = p ∧ Placed s p c (outcome.1.cellAt q)) := by
  have stored : ∀ (t : Sheet) (c' : Cell), t.cellAt q = s.cellAt q → Placed s p c c' →
      (t.store p c').cellAt q = s.cellAt q ∨ (q = p ∧ Placed s p c ((t.store p c').cellAt q)) := by
    intro t c' before placed
    rw [cellAt_store]
    split
    · rename_i here
      exact .inr ⟨here, placed⟩
    · exact .inl before
  cases inserted with
  | plain _ noFormula => exact stored (s.cleared p) c rfl (.plain c noFormula)
  | rejected e r loop => exact stored (s.cleared p) _ rfl (.rejected e r loop)
  | accepted e r result _ ok => exact stored (s.linked p e) _ rfl (.evaluated e r result ok)
  | stopped => exact .inl rfl

theorem insertCell_of_located {key : Key} (located : s.locate key = .ok p) (c : Cell) :
    s.insertCell c key = s.insertAt p c := by
  unfold insertCell
  rw [located]

/-- The cell that a key names is that of its place. -/
theorem cellAt_of_cell {key : Key} (ok : s.cell key = .ok c) :
    ∃ p, s.locate key = .ok p ∧ s.cellAt p = c := by
  unfold cell at ok
  cases located : s.locate key with
  | ok p =>
    rw [located] at ok
    cases ok
    exact ⟨p, rfl, rfl⟩
  | error fault =>
    rw [located] at ok
    cases ok

/-! ## 2. Operations -/

/-- The key whose place an operation writes. -/
def Command.target? : Command → Option Key
  | .set key _ => some key
  | .insert _ key => some key
  | .copy _ target => some target
  | .reenter _ target => some target
  | _ => none

/-- Whether an operation edits the graph behind the back of the cells. -/
def Command.editsGraph : Command → Bool
  | .graph _ => true
  | _ => false

/-- The cells that an operation can bring to its target. -/
inductive Offered (s : Sheet) : Command → Cell → Prop
  | set (key : Key) (c : Cell) : Offered s (.set key (.cell c)) c
  | insert (c : Cell) (key : Key) : Offered s (.insert (.cell c) key) c
  | emptied (key : Key) : Offered s (.set key .nothing) .empty
  | number (key : Key) (n : Int) (fits : fitsInt64 n = true) :
      Offered s (.set key (.int n)) (.number n)
  | entered (key : Key) (text : Text) (c : Cell) (ok : (s.cache.ofEntry text).2 = .ok c) :
      Offered s (.set key (.text text)) c
  | copied (source target : Key) (c : Cell) (ok : s.cell source = .ok c) :
      Offered s (.copy source target) c
  | reentered (source target : Key) (text : Text) (c : Cell) (found : s.entry source = .ok text)
      (ok : (s.cache.ofEntry text).2 = .ok c) : Offered s (.reenter source target) c

/-- The caches that an operation can leave: the one it found, or that with one text compiled. -/
def CacheAfter (s : Sheet) (cache : Cache) : Prop :=
  cache = s.cache ∨ ∃ text, cache = (s.cache.compile text).1

/-- **The ways in which an operation moves a sheet.** -/
inductive Step (s : Sheet) : Command → Sheet → Prop
  /-- Cells and graph stay. -/
  | kept (command : Command) (widths : List Int) (cache : Cache) (after : s.CacheAfter cache) :
      Step s command { s with widths := widths, cache := cache }
  /-- A cell is put at the target. -/
  | inserted (command : Command) (key : Key) (p : Position) (c : Cell) (cache : Cache)
      (outcome : Sheet × Except Fault Unit) (target : command.target? = some key)
      (located : s.locate key = .ok p) (offered : Offered s command c)
      (after : s.CacheAfter cache) (inserted : Inserted { s with cache := cache } p c outcome) :
      Step s command outcome.1
  /-- Formulas are evaluated again. -/
  | recalculated (keys : List Key) : Step s (.recalculate keys) (s.recalculate keys).1

theorem cacheAfter_compile (s : Sheet) (text : Text) : s.CacheAfter (s.cache.compile text).1 :=
  .inr ⟨text, rfl⟩

theorem cacheAfter_ofEntry (s : Sheet) (text : Text) : s.CacheAfter (s.cache.ofEntry text).1 := by
  unfold Cache.ofEntry
  split
  · exact .inr ⟨text, rfl⟩
  · exact .inl rfl

section Steps

variable {command : Command} {key : Key}

theorem enter_of_ok {text : Text} (ok : (s.cache.ofEntry text).2 = .ok c) :
    s.enter text key = { s with cache := (s.cache.ofEntry text).1 }.insertCell c key := by
  have entered : s.cache.ofEntry text = ((s.cache.ofEntry text).1, .ok c) := Prod.ext rfl ok
  unfold enter
  rw [entered]

theorem enter_of_error {text : Text} {fault : Fault}
    (error : (s.cache.ofEntry text).2 = .error fault) :
    s.enter text key = ({ s with cache := (s.cache.ofEntry text).1 }, .error fault) := by
  have entered : s.cache.ofEntry text = ((s.cache.ofEntry text).1, .error fault) :=
    Prod.ext rfl error
  unfold enter
  rw [entered]

/-- **What an operation can bring to its target it puts there,** whatever it compiled before. -/
theorem perform_of_offered (target : command.target? = some key) (offered : Offered s command c) :
    ∃ cache, s.CacheAfter cache ∧
      s.perform command =
        answering (fun _ => .done) ({ s with cache := cache }.insertCell c key) := by
  cases offered with
  | set _ c =>
    cases target
    exact ⟨s.cache, .inl rfl, rfl⟩
  | insert c _ =>
    cases target
    exact ⟨s.cache, .inl rfl, rfl⟩
  | emptied _ =>
    cases target
    exact ⟨s.cache, .inl rfl, rfl⟩
  | number _ n fits =>
    cases target
    refine ⟨s.cache, .inl rfl, ?_⟩
    simp only [perform, Sheet.set, fits, if_true]
  | entered _ text _ ok =>
    cases target
    refine ⟨_, s.cacheAfter_ofEntry text, ?_⟩
    rw [← enter_of_ok ok]
    rfl
  | copied source _ _ ok =>
    cases target
    refine ⟨s.cache, .inl rfl, ?_⟩
    simp only [perform, copy, ok]
  | reentered source _ text _ found ok =>
    cases target
    refine ⟨_, s.cacheAfter_ofEntry text, ?_⟩
    rw [← enter_of_ok ok]
    simp only [perform, reenter, found]

/-- **An operation with a target that can bring nothing there is refused,** before any place is
    touched. -/
theorem offered_or_refused (s : Sheet) (target : command.target? = some key) :
    (∃ c, Offered s command c) ∨ ∃ fault cache, s.CacheAfter cache ∧
      s.perform command = ({ s with cache := cache }, .error fault) := by
  have entering : ∀ text, (∃ c, (s.cache.ofEntry text).2 = .ok c) ∨ ∃ fault cache,
      s.CacheAfter cache ∧ s.enter text key = ({ s with cache := cache }, .error fault) := by
    intro text
    cases outcome : (s.cache.ofEntry text).2 with
    | ok c => exact .inl ⟨c, rfl⟩
    | error fault => exact .inr ⟨fault, _, s.cacheAfter_ofEntry text, enter_of_error outcome⟩
  cases command with
  | set key' item =>
    cases target
    cases item with
    | cell c => exact .inl ⟨c, .set key c⟩
    | nothing => exact .inl ⟨.empty, .emptied key⟩
    | int n =>
      by_cases fits : fitsInt64 n = true
      · exact .inl ⟨.number n, .number key n fits⟩
      · refine .inr ⟨(Fault.numberOutOfRange n).raised, s.cache, .inl rfl, ?_⟩
        simp only [perform, Sheet.set, fits]
        rfl
    | text text =>
      rcases entering text with ⟨c, ok⟩ | ⟨fault, cache, after, refused⟩
      · exact .inl ⟨c, .entered key text c ok⟩
      · refine .inr ⟨fault, cache, after, ?_⟩
        simp only [perform, Sheet.set, refused]
        rfl
    | _ => exact .inr ⟨_, s.cache, .inl rfl, rfl⟩
  | insert item key' =>
    cases target
    cases item with
    | cell c => exact .inl ⟨c, .insert c key⟩
    | _ => exact .inr ⟨_, s.cache, .inl rfl, rfl⟩
  | copy source key' =>
    cases target
    cases found : s.cell source with
    | ok c => exact .inl ⟨c, .copied source key c found⟩
    | error fault =>
      refine .inr ⟨fault, s.cache, .inl rfl, ?_⟩
      simp only [perform, copy, found]
      rfl
  | reenter source key' =>
    cases target
    cases found : s.entry source with
    | ok text =>
      rcases entering text with ⟨c, ok⟩ | ⟨fault, cache, after, refused⟩
      · exact .inl ⟨c, .reentered source key text c found ok⟩
      · refine .inr ⟨fault, cache, after, ?_⟩
        simp only [perform, reenter, found, refused]
        rfl
    | error fault =>
      refine .inr ⟨fault, s.cache, .inl rfl, ?_⟩
      simp only [perform, reenter, found]
      rfl
  | _ => cases target

theorem step_insertCell (target : command.target? = some key) (offered : Offered s command c)
    {cache : Cache} (after : s.CacheAfter cache) :
    Step s command ({ s with cache := cache }.insertCell c key).1 := by
  have same : ({ s with cache := cache } : Sheet).locate key = s.locate key := rfl
  unfold insertCell
  rw [same]
  cases located : s.locate key with
  | ok p =>
    exact .inserted command key p c cache _ target located offered after (inserted_insertAt _ p c)
  | error fault => exact .kept command s.widths cache after

theorem step_of_target (target : command.target? = some key) :
    Step s command (s.perform command).1 := by
  rcases s.offered_or_refused target with ⟨c, offered⟩ | ⟨fault, cache, after, refused⟩
  · obtain ⟨cache, after, put⟩ := perform_of_offered target offered
    rw [put]
    exact step_insertCell target offered after
  · rw [refused]
    exact .kept command s.widths cache after

/-- **Every operation other than an edit of the graph is a step.** -/
theorem step_perform (s : Sheet) (command : Command) (own : command.editsGraph = false) :
    Step s command (s.perform command).1 := by
  cases command with
  | set key _ => exact step_of_target rfl
  | insert _ key => exact step_of_target rfl
  | copy _ target => exact step_of_target rfl
  | reenter _ target => exact step_of_target rfl
  | setWidth column width =>
    simp only [perform, answering, setWidth]
    split
    · exact .kept _ s.widths s.cache (.inl rfl)
    · split
      · exact .kept _ s.widths s.cache (.inl rfl)
      · exact .kept _ _ s.cache (.inl rfl)
  | compile text => exact .kept _ s.widths _ (s.cacheAfter_compile text)
  | evaluate text =>
    have after := s.cacheAfter_compile text
    simp only [perform, answering, evaluateText, Sheet.compile]
    cases compiled : s.cache.compile text with
    | mk cache outcome =>
      rw [compiled] at after
      cases outcome with
      | ok e => exact .kept _ s.widths cache after
      | error fault => exact .kept _ s.widths cache after
  | recalculate keys => exact .recalculated keys
  | graph command => cases own

end Steps

/-! ## 3. Histories -/

/-- **What every step keeps holds after every history.** -/
theorem run_invariant (Holds : Sheet → Prop) {Allowed : Command → Prop} {commands : List Command}
    (start : Holds s) (allowed : ∀ c ∈ commands, Allowed c)
    (step : ∀ s c, Holds s → Allowed c → Holds (s.perform c).1) : Holds (s.run commands) := by
  unfold run
  induction commands generalizing s with
  | nil => exact start
  | cons c commands ih =>
    obtain ⟨first, later⟩ := List.forall_mem_cons.mp allowed
    exact ih (step s c start first) later

/-- What every operation keeps, whatever it is, holds after every history. -/
theorem run_kept (Holds : Sheet → Prop) (start : Holds s) (commands : List Command)
    (step : ∀ s c, Holds s → Holds (s.perform c).1) : Holds (s.run commands) := by
  have any : ∀ c ∈ commands, True := fun _ _ => trivial
  exact run_invariant Holds start any fun s c h _ => step s c h

theorem run_append (s : Sheet) (commands later : List Command) :
    s.run (commands ++ later) = (s.run commands).run later := List.foldl_append

end Sheet

end Spreadsheet
