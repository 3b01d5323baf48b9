import Spreadsheet.Proofs.Program.Depth
import Spreadsheet.Proofs.Program.Tree

/-!
# How shallow the stacks are

Two stacks are at work on a formula: the operators that wait while it is arranged, and the numbers
that lie there while its program runs. Neither of them grows with the formula.

* `arrange_after`: the arranging can be stopped behind any part of a formula (`Arranging.after`), with
  some of the program written and some operators waiting.
* `tightening_after`: whatever the shape of the formula, each operator that waits binds strictly
  tighter than the one below it. There are two ranks, so at most one operator of sums waits, with at
  most one of products above it (`Tightening.shallow`).
* `inStep_after`: where an operator stands between any two operands, the two stacks keep step. Behind
  every operand the program has left one number more than operators wait: their left operands, and the
  one read last.
* `leaves_one`: so such a program has never more than three numbers on the stack, and leaves one.
* `shallow_stacks` puts them together for tokens and for runs.
-/

namespace Spreadsheet

namespace Program

/-! ## 1. Stopping the arranging -/

/-- A formula arranged in part: what is written of its program, and the operators that wait, the latest
    first. -/
structure Arranging where
  written : Program
  waiting : List Operator
  deriving DecidableEq

namespace Arranging

/-- Nothing is read yet. -/
def start : Arranging := ⟨[], []⟩

/-- One more element of the formula is read. -/
def next (a : Arranging) (i : Instruction) : Arranging :=
  ⟨a.written ++ released a.waiting i, waitingAfter a.waiting i⟩

/-- Some more elements of the formula are read. -/
def after (a : Arranging) (read : List Instruction) : Arranging := read.foldl next a

/-- Some of the tokens of a formula are read. -/
def ofTokens (read : List Token) : Arranging := start.after (read.filterMap Token.instruction?)

theorem after_append (a : Arranging) (first second : List Instruction) :
    a.after (first ++ second) = (a.after first).after second :=
  List.foldl_append

end Arranging

open Arranging

variable {source : Option Source} {program done : Program} {waiting : List Operator}
variable {a : Arranging} {i : Instruction} {o : Operator} {stack : List Int} {most d d' : Nat}

/-- **Stopping changes nothing:** the program is what is written, and then the rest of the formula
    arranged while these operators wait. -/
theorem arrange_after (a : Arranging) (read later : List Instruction) :
    a.written ++ arrange a.waiting (read ++ later) =
      (a.after read).written ++ arrange (a.after read).waiting later := by
  induction read generalizing a with
  | nil => rfl
  | cons i read ih =>
    have stepped := ih (a.next i)
    rw [List.cons_append, arrange_cons, ← List.append_assoc]
    exact stepped

theorem toPostfix_ofTokens {read later : List Token} (valid : Token.invalid ∉ read ++ later) :
    toPostfix (read ++ later) = some ((ofTokens read).written ++
      arrange (ofTokens read).waiting (later.filterMap Token.instruction?)) := by
  rw [toPostfix_of_valid valid, List.filterMap_append]
  exact congrArg some (arrange_after start _ _)

/-! ## 2. Operators that wait -/

/-- Each of the operators binds strictly tighter than those below it. -/
def Tightening (waiting : List Operator) : Prop :=
  waiting.Pairwise fun above below => above.precedence < below.precedence

/-- At most one operator of sums waits, and above it at most one of products. -/
def Shallow (waiting : List Operator) : Prop :=
  ∃ product sum : Option Operator, waiting = product.toList ++ sum.toList ∧
    (∀ o ∈ product, o = .mul ∨ o = .div) ∧ ∀ o ∈ sum, o = .add ∨ o = .sub

/-- The operators that an operator does not release bind looser than it. -/
theorem Tightening.looser (h : Tightening waiting) {w : Operator}
    (hw : w ∈ waiting.dropWhile (·.bindsFirst o)) : o.precedence < w.precedence := by
  have upward : waiting.Pairwise fun above below =>
      below.bindsFirst o = true → above.bindsFirst o = true := by
    refine h.imp fun {above below} tighter binds => ?_
    exact decide_eq_true (tighter.le.trans (of_decide_eq_true binds))
  have stays : w.bindsFirst o = false :=
    eq_false_of_mem_dropWhile (Operator.bindsFirst · o) upward hw
  exact not_le.mp (of_decide_eq_false stays)

/-- **One more element keeps the operators that wait in order,** whatever it is. -/
theorem Tightening.waitingAfter (h : Tightening waiting) (i : Instruction) :
    Tightening (waitingAfter waiting i) := by
  cases i with
  | operand x => exact h
  | operator o =>
    have kept : Tightening (waiting.dropWhile (·.bindsFirst o)) :=
      h.sublist (List.dropWhile_sublist _)
    exact List.pairwise_cons.mpr ⟨fun w hw => h.looser hw, kept⟩

/-- **Behind any part of a formula** the operators that wait bind tighter and tighter upwards. -/
theorem tightening_after (read : List Instruction) : Tightening (start.after read).waiting := by
  induction read using List.reverseRecOn with
  | nil => exact List.Pairwise.nil
  | append_singleton read i ih =>
    rw [after_append]
    exact ih.waitingAfter i

theorem product_or_sum (o : Operator) : (o = .mul ∨ o = .div) ∨ (o = .add ∨ o = .sub) := by
  cases o <;> simp

/-- Of two operators the one binds strictly tighter only if it is of products and the other of sums. -/
theorem precedence_lt_iff {above below : Operator} :
    above.precedence < below.precedence ↔
      (above = .mul ∨ above = .div) ∧ (below = .add ∨ below = .sub) := by
  cases above <;> cases below <;> simp [Operator.precedence]

/-- **There are two ranks,** so no more than two operators wait. -/
theorem Tightening.shallow (h : Tightening waiting) : Shallow waiting := by
  match waiting, h with
  | [], _ => exact ⟨none, none, rfl, by simp, by simp⟩
  | [o], _ =>
    rcases product_or_sum o with product | sum
    · exact ⟨some o, none, rfl, by simpa using product, by simp⟩
    · exact ⟨none, some o, rfl, by simp, by simpa using sum⟩
  | [above, below], h =>
    have tighter := (List.pairwise_cons.mp h).1 below (by simp)
    obtain ⟨product, sum⟩ := precedence_lt_iff.mp tighter
    exact ⟨some above, some below, rfl, by simpa using product, by simpa using sum⟩
  | above :: middle :: below :: rest, h =>
    -- the middle one would be of sums, below the first, and of products, above the third
    obtain ⟨first, others⟩ := List.pairwise_cons.mp h
    obtain ⟨-, sum⟩ := precedence_lt_iff.mp (first middle (by simp))
    obtain ⟨product, -⟩ := precedence_lt_iff.mp ((List.pairwise_cons.mp others).1 below (by simp))
    rcases sum with rfl | rfl <;> simp at product

theorem Shallow.length_le (h : Shallow waiting) : waiting.length ≤ 2 := by
  obtain ⟨product, sum, rfl, -, -⟩ := h
  have one : product.toList.length ≤ 1 := Option.length_toList_le
  have other : sum.toList.length ≤ 1 := Option.length_toList_le
  rw [List.length_append]
  omega

/-! ## 3. Numbers on the stack -/

/-- From the empty stack the program leaves so many numbers, and at no time are there more than
    `most`. -/
structure Leaves (most : Nat) (program : Program) (left : Nat) : Prop where
  counted : depth 0 program = some left
  within : ∀ done, done <+: program → ∀ d, depth 0 done = some d → d ≤ most

theorem leaves_nil (most : Nat) : Leaves most [] 0 where
  counted := rfl
  within := by
    intro done part d reached
    rw [List.prefix_nil.mp part] at reached
    cases reached
    exact Nat.zero_le most

theorem Leaves.le (h : Leaves most program d) : d ≤ most :=
  h.within program List.prefix_rfl d h.counted

/-- One more instruction that leaves no more than allowed. -/
theorem Leaves.snoc (h : Leaves most program d) (enough : depthAfter d i = some d')
    (le : d' ≤ most) : Leaves most (program ++ [i]) d' := by
  have counted : depth 0 (program ++ [i]) = some d' := by
    rw [depth_append, h.counted, Option.bind_some, depth_singleton, enough]
  refine ⟨counted, fun done part k reached => ?_⟩
  rcases List.prefix_concat_iff.mp part with rfl | part
  · rw [counted] at reached
    cases reached
    exact le
  · exact h.within done part k reached

/-- Each of some operators takes one number away, as long as two are there. -/
theorem Leaves.operators (operators : List Operator)
    (h : Leaves most program (operators.length + (d + 1))) :
    Leaves most (program ++ operators.map .operator) (d + 1) := by
  induction operators generalizing program with
  | nil => simpa using h
  | cons o operators ih =>
    rw [List.length_cons] at h
    have allowed := h.le
    have enough : depthAfter (operators.length + 1 + (d + 1)) (.operator o) =
        some (operators.length + (d + 1)) :=
      depthAfter_operator_eq_some_iff.mpr (by omega)
    have all := ih (h.snoc enough (by omega))
    rwa [List.append_assoc] at all

/-! ## 4. Both stacks -/

/-- What is written leaves a left operand for every operator that waits, and the operand read last. -/
def InStep (most : Nat) (a : Arranging) : Prop := Leaves most a.written (a.waiting.length + 1)

/-- **An operator and the operand behind it keep the stacks in step,** as long as there is room: each
    operator that is released takes one number away, and the operand comes on top. -/
theorem InStep.next (h : InStep most a) (o : Operator) (x : Operand)
    (room : (waitingAfter a.waiting (.operator o)).length < most) :
    InStep most ((a.next (.operator o)).next (.operand x)) := by
  have split : a.waiting.length =
      (a.waiting.takeWhile (·.bindsFirst o)).length +
        (a.waiting.dropWhile (·.bindsFirst o)).length := by
    rw [← List.length_append, List.takeWhile_append_dropWhile]
  rw [InStep, split, Nat.add_assoc] at h
  have released := h.operators
  exact released.snoc rfl room

/-- **Behind every operand the stacks are in step,** in a formula with an operator between any two. -/
theorem inStep_after (first : Operand) (rest : List (Operator × Operand)) :
    InStep 3 (start.after (chain first rest)) := by
  induction rest using List.reverseRecOn with
  | nil =>
    have alone : Leaves 3 [.operand first] 1 := (leaves_nil 3).snoc rfl (by decide)
    exact alone
  | append_singleton rest next ih =>
    obtain ⟨o, x⟩ := next
    have longer : chain first (rest ++ [(o, x)]) =
        chain first rest ++ [.operator o, .operand x] := by
      simp [chain]
    have above : Tightening (waitingAfter (start.after (chain first rest)).waiting (.operator o)) :=
      (tightening_after _).waitingAfter _
    rw [longer, after_append]
    exact ih.next o x (Nat.lt_succ_of_le above.shallow.length_le)

/-- **The program of such a formula has never more than three numbers on the stack,** and leaves
    one. -/
theorem leaves_one (first : Operand) (rest : List (Operator × Operand)) :
    Leaves 3 (arrange [] (chain first rest)) 1 := by
  have stopped := arrange_after start (chain first rest) []
  rw [List.append_nil, arrange_nil] at stopped
  have drained := (inStep_after first rest).operators
  rwa [← stopped] at drained

/-! ## 5. Runs -/

/-- A run that comes to a stack goes on from there. -/
theorem result_run_append (later : Program) (reached : stackAfter source done [] = .ok stack) :
    (run source (done ++ later) []).result = (run source later stack).result := by
  rw [result_run, result_run, stackAfter_append, reached]
  rfl

/-- No stack that a run comes to has more numbers than allowed. -/
theorem Leaves.length_le (h : Leaves most program d) (part : done <+: program)
    (reached : stackAfter source done [] = .ok stack) : stack.length ≤ most :=
  h.within done part stack.length (depth_of_stackAfter reached)

/-- **A run that leaves one number has it as its result,** unless it fails. -/
theorem Leaves.result (h : Leaves most program 1) (source : Option Source) :
    (∃ n, stackAfter source program [] = .ok [n] ∧
      (execute (some program) source).result = .value n) ∨
    ∃ e, stackAfter source program [] = .error e ∧
      (execute (some program) source).result = .error e := by
  have ended := result_run source program []
  cases reached : stackAfter source program [] with
  | error e =>
    rw [reached] at ended
    exact .inr ⟨e, rfl, ended⟩
  | ok stack =>
    have counted := depth_of_stackAfter reached
    rw [List.length_nil, h.counted] at counted
    obtain ⟨n, rfl⟩ := List.length_eq_one_iff.mp (Option.some.inj counted).symm
    rw [reached] at ended
    exact .inl ⟨n, rfl, ended⟩

/-- **Both stacks stay shallow.** Behind any part of a list of valid tokens, whatever its shape, the
    operators that wait bind strictly tighter from one to the next above it: at most one of sums, and
    above it at most one of products. The program of a formula with an operator between any two operands
    never has more than three numbers on the stack, with any source of cells or without one, and its run
    leaves exactly one number, its result, or fails. -/
theorem shallow_stacks :
    (∀ read later : List Token, Token.invalid ∉ read ++ later →
      toPostfix (read ++ later) = some ((ofTokens read).written ++
        arrange (ofTokens read).waiting (later.filterMap Token.instruction?)) ∧
      Tightening (ofTokens read).waiting ∧ Shallow (ofTokens read).waiting) ∧
    ∀ (first : Operand) (rest : List (Operator × Operand)), ∃ program,
      toPostfix ((chain first rest).map Instruction.token) = some program ∧ ∀ source,
        (∀ done later stack, program = done ++ later → stackAfter source done [] = .ok stack →
          stack.length ≤ 3 ∧
          (execute (some program) source).result = (run source later stack).result) ∧
        ((∃ n, stackAfter source program [] = .ok [n] ∧
            (execute (some program) source).result = .value n) ∨
          ∃ e, stackAfter source program [] = .error e ∧
            (execute (some program) source).result = .error e) := by
  constructor
  · intro read later valid
    have ordered : Tightening (ofTokens read).waiting := tightening_after _
    exact ⟨toPostfix_ofTokens valid, ordered, ordered.shallow⟩
  · intro first rest
    have leaves := leaves_one first rest
    refine ⟨arrange [] (chain first rest), toPostfix_map_token _, fun source => ⟨?_, ?_⟩⟩
    · intro done later stack split reached
      refine ⟨leaves.length_le ⟨later, split.symm⟩ reached, ?_⟩
      rw [split]
      exact result_run_append later reached
    · exact leaves.result source

/-- A difference in front of a product: `2 - A1 * 3`. -/
def differenceFirst : List (Operator × Operand) := [(.sub, .cell ⟨0, 0⟩), (.mul, .number 3)]

/-- Its program: `2 A1 3 * -`. -/
def differenceFirstArranged : Program :=
  [.operand (.number 2), .operand (.cell ⟨0, 0⟩), .operand (.number 3), .operator .mul,
    .operator .sub]

/-- The general statement at a formula in which two operators wait, and at one with three numbers on the
    stack: no more are possible. -/
theorem shallow_stacks_difference_first :
    (ofTokens ((uneven.take 6).map Instruction.token)).waiting = [.div, .add] ∧
    Token.invalid ∉ (uneven.take 6 ++ uneven.drop 6).map Instruction.token ∧
    Tightening [.div, .add] ∧ Shallow [.div, .add] ∧
    toPostfix ((chain (.number 2) differenceFirst).map Instruction.token) =
      some differenceFirstArranged ∧
    stackAfter (some fun _ => some 7) (differenceFirstArranged.take 3) [] = .ok [3, 7, 2] ∧
    ([3, 7, 2] : List Int).length ≤ 3 ∧
    stackAfter (some fun _ => some 7) differenceFirstArranged [] = .ok [-19] ∧
    (execute (some differenceFirstArranged) (some fun _ => some 7)).result = .value (-19) := by
  have waits : (ofTokens ((uneven.take 6).map Instruction.token)).waiting = [.div, .add] := rfl
  have valid : Token.invalid ∉ (uneven.take 6 ++ uneven.drop 6).map Instruction.token := by decide
  have compiled : toPostfix ((chain (.number 2) differenceFirst).map Instruction.token) =
      some differenceFirstArranged := by decide
  obtain ⟨stopped, programs⟩ := shallow_stacks
  obtain ⟨-, ordered, few⟩ := stopped ((uneven.take 6).map Instruction.token)
    ((uneven.drop 6).map Instruction.token) (List.map_append ▸ valid)
  obtain ⟨program, same, runs⟩ := programs (.number 2) differenceFirst
  obtain rfl : differenceFirstArranged = program := Option.some.inj (compiled.symm.trans same)
  obtain ⟨within, ended⟩ := runs (some fun _ => some 7)
  have three : stackAfter (some fun _ => some 7) (differenceFirstArranged.take 3) [] =
      .ok [3, 7, 2] := rfl
  have one : stackAfter (some fun _ => some 7) differenceFirstArranged [] = .ok [-19] := rfl
  refine ⟨waits, valid, waits ▸ ordered, waits ▸ few, compiled, three,
    (within _ (differenceFirstArranged.drop 3) _ rfl three).1, one, ?_⟩
  rcases ended with ⟨n, left, value⟩ | ⟨e, failed, -⟩
  · cases one.symm.trans left
    exact value
  · cases one.symm.trans failed

end Program

end Spreadsheet
