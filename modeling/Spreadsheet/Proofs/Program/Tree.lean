import Spreadsheet.Proofs.Program.Postfix
import Spreadsheet.Proofs.Program.Reads

/-!
# Formulas as ordinary arithmetic

A formula made of operands with an operator between any two of them is read as a tree: products and
quotients first, then sums and differences, each level from the left (`Tree.ofChain`). A tree is
evaluated operand before operand and operation last, up to the first failure (`Tree.evaluate`).

* `grouped_ofChain`, `spelled_ofChain`: the tree is grouped as that says, and it spells the formula.
* `arrange_chain`: the program of the formula is the tree, each operator behind its operands. The
  operators that wait are of products, and below these of sums (`arrange_rest`).
* `run_program`: running the program of a tree is evaluating the tree and going on with its value.
* `execute_chain`: so compiling and running a formula is its evaluation as ordinary arithmetic.
-/

namespace Spreadsheet

/-! ## 1. Trees -/

/-- Arithmetic on operands. -/
inductive Tree
  | operand (x : Operand)
  | operation (o : Operator) (left right : Tree)
  deriving DecidableEq

/-- Whether the operator is one of products, which bind tighter than sums. -/
def Operator.isTight : Operator → Bool
  | mul | div => true
  | add | sub => false

/-- An operand, and operators each with the operand that follows it: a formula from left to right. -/
def chain (first : Operand) (rest : List (Operator × Operand)) : List Instruction :=
  .operand first :: rest.flatMap fun next => [.operator next.1, .operand next.2]

namespace Tree

/-- The product that the formula begins with, `product` being what was read of it, and the products
    behind it, each with the operator of sums in front of it. -/
def products (product : Tree) : List (Operator × Operand) → Tree × List (Operator × Tree)
  | [] => (product, [])
  | (o, x) :: rest =>
    if o.isTight then products (.operation o product (.operand x)) rest
    else
      let (next, others) := products (.operand x) rest
      (product, (o, next) :: others)

/-- Products joined to a sum from the left. -/
def sum (first : Tree) (others : List (Operator × Tree)) : Tree :=
  others.foldl (fun left next => .operation next.1 left next.2) first

/-- **The tree of a formula:** its products, joined from the left. -/
def ofChain (first : Operand) (rest : List (Operator × Operand)) : Tree :=
  sum (products (.operand first) rest).1 (products (.operand first) rest).2

/-- The formula that the tree spells when it is written without brackets. -/
def spelled : Tree → List Instruction
  | operand x => [.operand x]
  | operation o left right => left.spelled ++ .operator o :: right.spelled

/-- The tree with each operator behind its operands. -/
def program : Tree → Program
  | operand x => [.operand x]
  | operation o left right => left.program ++ right.program ++ [.operator o]

/-! ## 2. Grouping -/

/-- Whether the last operation of the tree is a sum or a difference. -/
def isSum : Tree → Bool
  | operand _ => false
  | operation o _ _ => !o.isTight

/-- Whether the tree is an operand alone. -/
def isOperand : Tree → Bool
  | operand _ => true
  | operation _ _ _ => false

/-- What the tree has to be for its spelling to need no brackets: no sum stands in a product, and
    operations of one level lean to the left. -/
def Grouped : Tree → Prop
  | operand _ => True
  | operation o left right =>
    left.Grouped ∧ right.Grouped ∧
      if o.isTight then left.isSum = false ∧ right.isOperand = true else right.isSum = false

/-- What `products` finds are products, and in order they spell what was read. -/
theorem products_spec (product : Tree) (rest : List (Operator × Operand))
    (grouped : product.Grouped) (whole : product.isSum = false) :
    ((products product rest).1.Grouped ∧ (products product rest).1.isSum = false) ∧
    (∀ next ∈ (products product rest).2,
      next.1.isTight = false ∧ next.2.Grouped ∧ next.2.isSum = false) ∧
    (products product rest).1.spelled ++
        ((products product rest).2.flatMap fun next => .operator next.1 :: next.2.spelled) =
      product.spelled ++ rest.flatMap fun next => [.operator next.1, .operand next.2] := by
  induction rest generalizing product with
  | nil => simp [products, grouped, whole]
  | cons next rest ih =>
    obtain ⟨o, x⟩ := next
    by_cases tight : o.isTight = true
    · have longer : (operation o product (.operand x)).Grouped := by
        simp [Grouped, grouped, tight, whole, isOperand]
      have still : (operation o product (.operand x)).isSum = false := by simp [isSum, tight]
      obtain ⟨first, others, spells⟩ := ih _ longer still
      rw [products, if_pos tight]
      refine ⟨first, others, ?_⟩
      rw [spells]
      simp [spelled]
    · obtain ⟨first, others, spells⟩ := ih (.operand x) trivial rfl
      rw [products, if_neg tight]
      refine ⟨⟨grouped, whole⟩, ?_, ?_⟩
      · exact List.forall_mem_cons.mpr ⟨⟨by simpa using tight, first⟩, others⟩
      · simp only [List.flatMap_cons, List.cons_append, List.nil_append]
        rw [spells]
        simp [spelled]

theorem grouped_sum {first : Tree} {others : List (Operator × Tree)} (grouped : first.Grouped)
    (products : ∀ next ∈ others,
      next.1.isTight = false ∧ next.2.Grouped ∧ next.2.isSum = false) :
    (sum first others).Grouped := by
  induction others generalizing first with
  | nil => exact grouped
  | cons next others ih =>
    obtain ⟨⟨loose, right, product⟩, later⟩ := List.forall_mem_cons.mp products
    have joined : (operation next.1 first next.2).Grouped := by
      simp [Grouped, grouped, right, product, loose]
    exact ih joined later

theorem spelled_sum (first : Tree) (others : List (Operator × Tree)) :
    (sum first others).spelled =
      first.spelled ++ others.flatMap fun next => .operator next.1 :: next.2.spelled := by
  induction others generalizing first with
  | nil => simp [sum]
  | cons next others ih =>
    have step : sum first (next :: others) = sum (operation next.1 first next.2) others := rfl
    rw [step, ih]
    simp [spelled]

theorem program_sum (first : Tree) (others : List (Operator × Tree)) :
    (sum first others).program =
      first.program ++ others.flatMap fun next => next.2.program ++ [.operator next.1] := by
  induction others generalizing first with
  | nil => simp [sum]
  | cons next others ih =>
    have step : sum first (next :: others) = sum (operation next.1 first next.2) others := rfl
    rw [step, ih]
    simp [program]

/-- **The tree of a formula has products inside sums, and both lean to the left.** -/
theorem grouped_ofChain (first : Operand) (rest : List (Operator × Operand)) :
    (ofChain first rest).Grouped := by
  obtain ⟨⟨grouped, -⟩, others, -⟩ := products_spec (.operand first) rest trivial rfl
  exact grouped_sum grouped others

/-- **The tree of a formula spells the formula.** -/
theorem spelled_ofChain (first : Operand) (rest : List (Operator × Operand)) :
    (ofChain first rest).spelled = chain first rest := by
  obtain ⟨-, -, spells⟩ := products_spec (.operand first) rest trivial rfl
  rw [ofChain, spelled_sum, spells]
  rfl

end Tree

/-! ## 3. Compiling -/

namespace Program

open Spreadsheet.Tree

/-- An operator of products keeps its operands from any other, one of sums from those of sums. -/
theorem bindsFirst_eq (first second : Operator) :
    first.bindsFirst second = (first.isTight || !second.isTight) := by
  cases first <;> cases second <;> rfl

/-- An operator of products releases the products that wait, and no sum. -/
theorem waiting_of_tight {tight loose : List Operator} {o : Operator}
    (hTight : ∀ m ∈ tight, m.isTight = true) (hLoose : ∀ a ∈ loose, a.isTight = false)
    (ho : o.isTight = true) :
    released (tight ++ loose) (.operator o) = tight.map .operator ∧
    waitingAfter (tight ++ loose) (.operator o) = o :: loose := by
  have gone : ∀ m ∈ tight, m.bindsFirst o = true := by
    intro m hm
    simp [bindsFirst_eq, hTight m hm]
  have stays : loose.takeWhile (·.bindsFirst o) = [] ∧ loose.dropWhile (·.bindsFirst o) = loose := by
    cases loose with
    | nil => exact ⟨rfl, rfl⟩
    | cons a loose =>
      have first : ¬ a.bindsFirst o = true := by
        simp [bindsFirst_eq, ho, hLoose a List.mem_cons_self]
      exact ⟨List.takeWhile_cons_of_neg first, List.dropWhile_cons_of_neg first⟩
  rw [released, waitingAfter, List.takeWhile_append_of_pos gone, List.dropWhile_append_of_pos gone,
    stays.1, stays.2, List.append_nil]
  exact ⟨rfl, rfl⟩

/-- An operator of sums releases everything. -/
theorem waiting_of_loose {o : Operator} (waiting : List Operator) (ho : o.isTight = false) :
    released waiting (.operator o) = waiting.map .operator ∧
    waitingAfter waiting (.operator o) = [o] := by
  have gone : ∀ w ∈ waiting, w.bindsFirst o = true := by
    intro w _
    simp [bindsFirst_eq, ho]
  rw [released, waitingAfter, List.takeWhile_eq_self_iff.mpr gone, List.dropWhile_eq_nil_iff.mpr gone]
  exact ⟨rfl, rfl⟩

theorem arrange_operator_operand (waiting : List Operator) (o : Operator) (x : Operand)
    (rest : List Instruction) :
    arrange waiting (.operator o :: .operand x :: rest) =
      released waiting (.operator o) ++
        .operand x :: arrange (waitingAfter waiting (.operator o)) rest := by
  rw [arrange_cons, arrange_cons]
  rfl

/-- **Where the arranging stands between two operators:** of the product read last all is written
    but the operators of products that wait, and below these waits the sum that the product ends. -/
theorem arrange_rest (tight loose : List Operator) (written : Program) (product : Tree)
    (rest : List (Operator × Operand)) (hTight : ∀ m ∈ tight, m.isTight = true)
    (hLoose : ∀ a ∈ loose, a.isTight = false)
    (hWritten : written ++ tight.map .operator = product.program) :
    written ++ arrange (tight ++ loose)
        (rest.flatMap fun next => [.operator next.1, .operand next.2]) =
      (products product rest).1.program ++ loose.map .operator ++
        (products product rest).2.flatMap fun next => next.2.program ++ [.operator next.1] := by
  induction rest generalizing tight loose written product with
  | nil => simp [products, ← hWritten]
  | cons next rest ih =>
    obtain ⟨o, x⟩ := next
    rw [List.flatMap_cons, List.cons_append, List.cons_append, List.nil_append,
      arrange_operator_operand]
    by_cases ho : o.isTight = true
    · have later := ih [o] loose (product.program ++ [.operand x])
        (.operation o product (.operand x)) (by simp [ho]) hLoose (by simp [Tree.program])
      obtain ⟨out, waiting⟩ := waiting_of_tight hTight hLoose ho
      rw [out, waiting, products, if_pos ho, ← later, ← hWritten]
      simp
    · have ho : o.isTight = false := by simpa using ho
      have later := ih [] [o] [.operand x] (.operand x) (by simp) (by simp [ho]) rfl
      obtain ⟨out, waiting⟩ := waiting_of_loose (tight ++ loose) ho
      rw [out, waiting, products, if_neg (by simp [ho]), ← hWritten]
      simp only [List.nil_append, List.singleton_append] at later
      rw [later]
      simp

/-- **The program of a formula is its tree, each operator behind its operands.** -/
theorem arrange_chain (first : Operand) (rest : List (Operator × Operand)) :
    arrange [] (chain first rest) = (ofChain first rest).program := by
  have all := arrange_rest [] [] [.operand first] (.operand first) rest (by simp) (by simp) rfl
  have start : arrange [] (chain first rest) = [.operand first] ++
      arrange [] (rest.flatMap fun next => [.operator next.1, .operand next.2]) := rfl
  rw [start, ofChain, program_sum]
  simpa using all

end Program

/-! ## 4. Evaluation -/

/-- A number as a result, if it fits 64 bits. -/
def Result.bounded (n : Int) : Result :=
  if -(Nat.pow 2 63 : Int) ≤ n ∧ n ≤ (Nat.pow 2 63 : Int) - 1 then .value n else .error .overflow

/-- What an operation means: its exact value as far as it fits 64 bits. A quotient is the quotient of
    the magnitudes, rounded down, with the sign of the exact one. -/
def Operator.meaning : Operator → Int → Int → Result
  | add, left, right => .bounded (left + right)
  | sub, left, right => .bounded (left - right)
  | mul, left, right => .bounded (left * right)
  | div, left, right =>
    if right = 0 then .error .divisionByZero
    else .bounded (left.sign * right.sign * (left.natAbs / right.natAbs : Nat))

/-- What an operand means, and whether a cell is read for it. -/
def Operand.meaning (source : Option Source) : Operand → Outcome
  | number n => ⟨.value n, []⟩
  | cell p =>
    match source with
    | none => ⟨.error .notImplemented, []⟩
    | some values =>
      match values p with
      | some n => ⟨.value n, [p]⟩
      | none => ⟨.error .cellNotFound, [p]⟩

/-- One evaluation and then, if it gives a number, another that may use it. -/
def Outcome.andThen (outcome : Outcome) (next : Int → Outcome) : Outcome :=
  match outcome.result with
  | .value n => ⟨(next n).result, outcome.reads ++ (next n).reads⟩
  | .error _ => outcome

/-- **The evaluation of a tree:** the left operand, then the right one, then the operation, up to the
    first failure. -/
def Tree.evaluate (source : Option Source) : Tree → Outcome
  | operand x => x.meaning source
  | operation o left right =>
    (left.evaluate source).andThen fun a =>
      (right.evaluate source).andThen fun b => ⟨o.meaning a b, []⟩

theorem Outcome.andThen_assoc (outcome : Outcome) (next later : Int → Outcome) :
    (outcome.andThen next).andThen later = outcome.andThen fun n => (next n).andThen later := by
  obtain ⟨result, reads⟩ := outcome
  cases result with
  | error e => rfl
  | value n =>
    cases h : (next n).result with
    | error e => simp [andThen, h]
    | value m => simp [andThen, h]

/-- Truncated division by magnitudes and signs. -/
theorem tdiv_eq_sign_mul (a b : Int) :
    a.tdiv b = a.sign * b.sign * (a.natAbs / b.natAbs : Nat) := by
  have magnitude : (a.tdiv b).natAbs = a.natAbs / b.natAbs := Int.natAbs_tdiv a b
  have sign := Int.sign_tdiv a b
  rw [← Int.sign_mul_natAbs (a.tdiv b), magnitude, sign]
  by_cases small : a.natAbs < b.natAbs
  · simp [small, Nat.div_eq_of_lt small]
  · rw [if_neg small]

/-- What a step of the machine gives, as a result. -/
def Result.ofExcept : Except ErrorValue Int → Result
  | .ok n => .value n
  | .error e => .error e

theorem Result.bounded_eq (n : Int) :
    bounded n = ofExcept (if fitsInt64 n then .ok n else .error .overflow) := by
  have same : fitsInt64 n = true ↔ -(Nat.pow 2 63 : Int) ≤ n ∧ n ≤ (Nat.pow 2 63 : Int) - 1 :=
    fitsInt64_iff
  by_cases fits : fitsInt64 n = true
  · rw [bounded, if_pos fits, if_pos (same.mp fits)]
    rfl
  · rw [bounded, if_neg fits, if_neg fun h => fits (same.mpr h)]
    rfl

/-- The machine gives for an operation what it means. -/
theorem Operator.meaning_eq (o : Operator) (a b : Int) : o.meaning a b = .ofExcept (o.apply a b) := by
  by_cases zero : o = .div ∧ b = 0
  · obtain ⟨rfl, rfl⟩ := zero
    rfl
  · have exact : o.meaning a b = .bounded (o.exact a b) := by
      cases o with
      | add => rfl
      | sub => rfl
      | mul => rfl
      | div =>
        have nonzero : b ≠ 0 := fun h => zero ⟨rfl, h⟩
        rw [meaning, if_neg nonzero, ← tdiv_eq_sign_mul]
        rfl
    rw [exact, Result.bounded_eq, apply, if_neg zero]

/-! ## 5. Running -/

namespace Program

variable {source : Option Source}

theorem run_operand (x : Operand) (later : Program) (stack : List Int) :
    run source (.operand x :: later) stack =
      (x.meaning source).andThen fun n => run source later (n :: stack) := by
  cases x with
  | number n =>
    have step : step source (.operand (.number n)) stack = .ok (n :: stack) := rfl
    rw [run_cons_of_ok later step]
    simp [asked, Instruction.cell?, Instruction.operand?, Operand.cell?, Operand.meaning,
      Outcome.andThen]
  | cell p =>
    cases source with
    | none => rfl
    | some values =>
      cases found : values p with
      | none =>
        have step : step (some values) (.operand (.cell p)) stack = .error .cellNotFound := by
          simp [step, operandValue, found, Except.map]
        rw [run_cons_of_error later step]
        simp [asked, Instruction.cell?, Instruction.operand?, Operand.cell?, Operand.meaning,
          Outcome.andThen, found]
      | some n =>
        have step : step (some values) (.operand (.cell p)) stack = .ok (n :: stack) := by
          simp [step, operandValue, found, Except.map]
        rw [run_cons_of_ok later step]
        simp [asked, Instruction.cell?, Instruction.operand?, Operand.cell?, Operand.meaning,
          Outcome.andThen, found]

theorem run_operator (o : Operator) (a b : Int) (later : Program) (stack : List Int) :
    run source (.operator o :: later) (b :: a :: stack) =
      (⟨o.meaning a b, []⟩ : Outcome).andThen fun n => run source later (n :: stack) := by
  have silent : asked source (.operator o) = [] := by
    simp [asked, Instruction.cell?, Instruction.operand?]
  cases applied : o.apply a b with
  | error e =>
    have step : step source (.operator o) (b :: a :: stack) = .error e := by
      simp [step, applied, Except.map]
    rw [run_cons_of_error later step, Operator.meaning_eq, applied, silent]
    rfl
  | ok n =>
    have step : step source (.operator o) (b :: a :: stack) = .ok (n :: stack) := by
      simp [step, applied, Except.map]
    rw [run_cons_of_ok later step, Operator.meaning_eq, applied, silent]
    rfl

/-- **Running the program of a tree** is evaluating the tree and going on with its value on the
    stack. -/
theorem run_program (t : Tree) (later : Program) (stack : List Int) :
    run source (t.program ++ later) stack =
      (t.evaluate source).andThen fun n => run source later (n :: stack) := by
  induction t generalizing later stack with
  | operand x => exact run_operand x later stack
  | operation o left right ihLeft ihRight =>
    rw [Tree.program, List.append_assoc, List.append_assoc, ihLeft, Tree.evaluate,
      Outcome.andThen_assoc]
    congr 1
    funext a
    rw [ihRight, Outcome.andThen_assoc]
    congr 1
    funext b
    exact run_operator o a b later stack

end Program

/-- Going on with nothing but the value changes nothing. -/
theorem Outcome.andThen_value (outcome : Outcome) :
    (outcome.andThen fun n => ⟨.value n, []⟩) = outcome := by
  obtain ⟨result, reads⟩ := outcome
  cases result with
  | error e => rfl
  | value n => simp [andThen]

/-- Going on fails as the first part does, or as the second. -/
theorem Outcome.error_of_andThen {outcome : Outcome} {next : Int → Outcome} {e : ErrorValue}
    (h : (outcome.andThen next).result = .error e) :
    outcome.result = .error e ∨ ∃ n, (next n).result = .error e := by
  unfold andThen at h
  split at h
  · exact .inr ⟨_, h⟩
  · exact .inl h

/-- **The evaluation of a tree never lacks an operand.** -/
theorem Tree.evaluate_ne_outOfStack (source : Option Source) (t : Tree) :
    (t.evaluate source).result ≠ .error .outOfStack := by
  induction t with
  | operand x =>
    cases x with
    | number n => simp [evaluate, Operand.meaning]
    | cell p =>
      cases source with
      | none => simp [evaluate, Operand.meaning]
      | some values => cases found : values p <;> simp [evaluate, Operand.meaning, found]
  | operation o left right ihLeft ihRight =>
    intro short
    rcases Outcome.error_of_andThen short with inLeft | ⟨a, short⟩
    · exact ihLeft inLeft
    · rcases Outcome.error_of_andThen short with inRight | ⟨b, last⟩
      · exact ihRight inRight
      · have bounded : ∀ n, Result.bounded n ≠ .error .outOfStack := by
          intro n
          unfold Result.bounded
          split <;> simp
        cases o with
        | add => exact bounded _ last
        | sub => exact bounded _ last
        | mul => exact bounded _ last
        | div =>
          simp only [Operator.meaning] at last
          split at last
          · cases last
          · exact bounded _ last

/-! ## 6. Formulas -/

/-- **Compiling a formula and running it is evaluating it as ordinary arithmetic,** with any source of
    cells or without one: there is a program, and it gives the result of the tree and asks for the
    same cells in the same order. The tree is grouped by rank and from the left, and spells the
    formula; so no operator lacks an operand. -/
theorem execute_chain (source : Option Source) (first : Operand)
    (rest : List (Operator × Operand)) :
    ((Tree.ofChain first rest).Grouped ∧ (Tree.ofChain first rest).spelled = chain first rest) ∧
    ∃ program, Program.toPostfix ((chain first rest).map Instruction.token) = some program ∧
      Program.execute (some program) source = (Tree.ofChain first rest).evaluate source ∧
      (Program.execute (some program) source).result ≠ .error .outOfStack := by
  have compiled : Program.toPostfix ((chain first rest).map Instruction.token) =
      some (Tree.ofChain first rest).program := by
    rw [Program.toPostfix_map_token, Program.arrange_chain]
  have executed : Program.execute (some (Tree.ofChain first rest).program) source =
      (Tree.ofChain first rest).evaluate source := by
    have run := @Program.run_program source (Tree.ofChain first rest) [] []
    rw [List.append_nil] at run
    exact run.trans (Outcome.andThen_value _)
  refine ⟨⟨Tree.grouped_ofChain first rest, Tree.spelled_ofChain first rest⟩, _, compiled, executed,
    ?_⟩
  rw [executed]
  exact Tree.evaluate_ne_outOfStack source _

end Spreadsheet
