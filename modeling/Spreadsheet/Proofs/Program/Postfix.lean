import Mathlib.Data.List.FinRange
import Mathlib.Data.List.Induction
import Mathlib.Data.List.NodupEquivFin
import Mathlib.Data.List.TakeWhile
import Spreadsheet.Program.Basic

/-!
# What the arranging does to a formula

Putting a formula in postfix order asks nothing of its shape, and it only moves things. This file says
for every sequence of operands and operators what comes where.

* `toPostfix_eq_some_iff`, `toPostfix_eq_none_iff`: which lists of tokens have a program.
* `map_order`: the arranging followed with indices in place of instructions (`order`); so nothing is
  lost and nothing added (`perm_arrange`).
* `pairwise_order`: of any two elements of the formula it is decided which one comes first in the
  program. An operand comes at once; an operator waits for the first operator behind it that binds no
  tighter (`Precedes`). What carries the proof is that the operators that wait bind tighter from one to
  the next (`Waiting`).
* `exists_place`: so each element has its place in the program, by this rule.
* `firstAppearances_eraseDups`: the references of a program are its cells by first appearance.
* `toPostfix_exact` puts them together for lists of tokens.
-/

namespace Spreadsheet

namespace Program

/-! ## 1. Tokens -/

section Tokens

variable {tokens : List Token} {formula : List Instruction} {program : Program}

/-- The instructions of a list of tokens stand for these tokens one by one. -/
theorem mapM_instruction?_eq_some_iff :
    tokens.mapM Token.instruction? = some formula ↔ tokens = formula.map Instruction.token := by
  induction tokens generalizing formula with
  | nil => cases formula <;> simp
  | cons token rest ih =>
    cases formula with
    | nil => simp [Option.bind_eq_some_iff]
    | cons i formula =>
      simp [Option.bind_eq_some_iff, Token.instruction?_eq_some_iff, ih]

theorem isSome_mapM_instruction? :
    (tokens.mapM Token.instruction?).isSome ↔ Token.invalid ∉ tokens := by
  induction tokens with
  | nil => simp
  | cons token rest ih =>
    rw [List.mapM_cons, List.mem_cons, not_or, ← ih]
    cases meant : token.instruction? with
    | none =>
      have : token = .invalid := Token.instruction?_eq_none_iff.mp meant
      simp [this]
    | some i =>
      have : Token.invalid ≠ token := fun same => by
        rw [← same] at meant
        cases meant
      cases rest.mapM Token.instruction? <;> simp [this]

/-- **A list of tokens has a program when it is a formula,** and that is the formula arranged. -/
theorem toPostfix_eq_some_iff :
    toPostfix tokens = some program ↔
      ∃ formula : List Instruction, tokens = formula.map Instruction.token ∧
        arrange [] formula = program := by
  simp only [toPostfix, Option.map_eq_some_iff, mapM_instruction?_eq_some_iff]

theorem toPostfix_map_token (formula : List Instruction) :
    toPostfix (formula.map Instruction.token) = some (arrange [] formula) :=
  toPostfix_eq_some_iff.mpr ⟨formula, rfl, rfl⟩

/-- The tokens of a formula stand for its elements. -/
theorem filterMap_instruction?_token (formula : List Instruction) :
    (formula.map Instruction.token).filterMap Token.instruction? = formula := by
  have all : Token.instruction? ∘ Instruction.token = some := by
    funext i
    exact Token.instruction?_eq_some_iff.mpr rfl
  rw [List.filterMap_map, all, List.filterMap_some]

/-- Valid tokens have a program, and it is what they stand for, arranged. -/
theorem toPostfix_of_valid (valid : Token.invalid ∉ tokens) :
    toPostfix tokens = some (arrange [] (tokens.filterMap Token.instruction?)) := by
  obtain ⟨formula, meant⟩ := Option.isSome_iff_exists.mp (isSome_mapM_instruction?.mpr valid)
  obtain rfl := mapM_instruction?_eq_some_iff.mp meant
  rw [toPostfix_map_token, filterMap_instruction?_token]

/-- **It has none when one of the tokens is invalid.** -/
theorem toPostfix_eq_none_iff : toPostfix tokens = none ↔ Token.invalid ∈ tokens := by
  rw [toPostfix, Option.map_eq_none_iff, ← Option.not_isSome_iff_eq_none, isSome_mapM_instruction?,
    not_not]

end Tokens

/-! ## 2. Arranging indices -/

end Program

/-- Whether an instruction keeps its operands from a later one: both have to be operators. -/
def Instruction.bindsFirst : Instruction → Instruction → Bool
  | .operator first, .operator second => first.bindsFirst second
  | _, _ => false

theorem Instruction.bindsFirst_operand (i : Instruction) (x : Operand) :
    i.bindsFirst (.operand x) = false := by
  cases i <;> rfl

namespace Program

section Order

variable {ι : Type} {read : ι → Instruction} {i j : ι} {waiting indices : List ι}

/-- The operators among `waiting` that are written when the element of an index comes up. -/
def leaving (read : ι → Instruction) (waiting : List ι) (i : ι) : List ι :=
  waiting.takeWhile fun w => (read w).bindsFirst (read i)

/-- The operators among `waiting` that wait on. -/
def staying (read : ι → Instruction) (waiting : List ι) (i : ι) : List ι :=
  waiting.dropWhile fun w => (read w).bindsFirst (read i)

theorem leaving_append_staying (read : ι → Instruction) (waiting : List ι) (i : ι) :
    leaving read waiting i ++ staying read waiting i = waiting :=
  List.takeWhile_append_dropWhile

theorem binds_of_leaving {w : ι} (hw : w ∈ leaving read waiting i) :
    (read w).bindsFirst (read i) = true :=
  List.mem_takeWhile_imp (p := fun w => (read w).bindsFirst (read i)) hw

/-- What is left behind the first elements with a property has it nowhere, if an element never has it
    without all those before it. -/
theorem eq_false_of_mem_dropWhile {α : Type} (p : α → Bool) {l : List α} {x : α}
    (upward : l.Pairwise fun before behind => p behind = true → p before = true)
    (hx : x ∈ l.dropWhile p) : p x = false := by
  have kept := upward.sublist (List.dropWhile_sublist p)
  have stops := List.head?_dropWhile_not p l
  cases rest : l.dropWhile p with
  | nil =>
    rw [rest] at hx
    cases hx
  | cons first others =>
    rw [rest] at hx kept stops
    rcases List.mem_cons.mp hx with rfl | behind
    · exact stops
    · refine Bool.eq_false_iff.mpr fun has => ?_
      have before := (List.pairwise_cons.mp kept).1 x behind has
      exact Bool.false_ne_true (stops.symm.trans before)

/-- The indices of a formula in the order in which the program has its elements; `read` tells the
    element of an index, and `waiting` are the operators that wait, the latest first. -/
def order (read : ι → Instruction) (waiting : List ι) : List ι → List ι
  | [] => waiting
  | i :: rest =>
    match read i with
    | .operand _ => i :: order read waiting rest
    | .operator _ => leaving read waiting i ++ order read (i :: staying read waiting i) rest

theorem order_operand {x : Operand} (h : read i = .operand x) (waiting rest : List ι) :
    order read waiting (i :: rest) = i :: order read waiting rest := by
  simp only [order, h]

theorem order_operator {o : Operator} (h : read i = .operator o) (waiting rest : List ι) :
    order read waiting (i :: rest) =
      leaving read waiting i ++ order read (i :: staying read waiting i) rest := by
  simp only [order, h]

/-- **The program has the elements of the formula in this order.** -/
theorem map_order {operators : List Operator}
    (same : waiting.map read = operators.map Instruction.operator) (indices : List ι) :
    (order read waiting indices).map read = arrange operators (indices.map read) := by
  induction indices generalizing waiting operators with
  | nil => exact same
  | cons i rest ih =>
    rw [List.map_cons, arrange_cons]
    cases element : read i with
    | operand x =>
      rw [order_operand element, List.map_cons, element, ih same]
      rfl
    | operator o =>
      have out : (leaving read waiting i).map read = released operators (.operator o) := by
        have mapped := List.takeWhile_map (f := read) (p := (·.bindsFirst (.operator o)))
          (l := waiting)
        rw [same, List.takeWhile_map] at mapped
        rw [leaving, element]
        exact mapped.symm
      have kept : (i :: staying read waiting i).map read =
          (waitingAfter operators (.operator o)).map Instruction.operator := by
        have mapped := List.dropWhile_map (f := read) (p := (·.bindsFirst (.operator o)))
          (l := waiting)
        rw [same, List.dropWhile_map] at mapped
        rw [List.map_cons, element, staying, element]
        exact congrArg _ mapped.symm
      rw [order_operator element, List.map_append, ih kept, out]

/-- **Every index has its turn,** as often as it waits or is still to come. -/
theorem perm_order (read : ι → Instruction) (waiting indices : List ι) :
    (order read waiting indices).Perm (waiting ++ indices) := by
  induction indices generalizing waiting with
  | nil => simp [order]
  | cons i rest ih =>
    cases element : read i with
    | operand x =>
      rw [order_operand element]
      exact ((ih waiting).cons i).trans List.perm_middle.symm
    | operator o =>
      rw [order_operator element]
      have later := (ih (i :: staying read waiting i)).append_left (leaving read waiting i)
      have moved : (leaving read waiting i ++ (i :: staying read waiting i ++ rest)).Perm
          (leaving read waiting i ++ (staying read waiting i ++ i :: rest)) :=
        List.perm_middle.symm.append_left _
      have whole := later.trans moved
      rwa [← List.append_assoc, leaving_append_staying] at whole

theorem mem_order : i ∈ order read waiting indices ↔ i ∈ waiting ∨ i ∈ indices :=
  (perm_order read waiting indices).mem_iff.trans List.mem_append

/-! ## 3. Which of two elements comes first -/

variable [LinearOrder ι]

/-- Whether an element of the formula comes before a later one in the program too: it is an operand,
    or an operator that need not wait for the later one. -/
def Precedes (read : ι → Instruction) (indices : List ι) (i j : ι) : Prop :=
  (∃ x, read i = .operand x) ∨ ∃ k ∈ indices, i < k ∧ k ≤ j ∧ (read i).bindsFirst (read k) = true

theorem precedes_iff_of_operator {a : Operator} (operator : read i = .operator a) :
    Precedes read indices i j ↔
      ∃ k ∈ indices, i < k ∧ k ≤ j ∧ ∃ c, read k = .operator c ∧ a.bindsFirst c = true := by
  have binds (k : ι) : (read i).bindsFirst (read k) = true ↔
      ∃ c, read k = .operator c ∧ a.bindsFirst c = true := by
    rw [operator]
    cases read k <;> simp [Instruction.bindsFirst]
  have operand : ¬ ∃ x, read i = .operand x := by simp [operator]
  simp only [Precedes, binds, operand, false_or]

/-- What is true of the operators that wait: each stands behind the next one below it, and binds
    tighter. -/
structure Waiting (read : ι → Instruction) (waiting : List ι) : Prop where
  operators : ∀ w ∈ waiting, ∃ o, read w = .operator o
  stacked : waiting.Pairwise fun above below =>
    below < above ∧ (read below).bindsFirst (read above) = false

/-- What an operator binds no looser than, an operator that is tighter binds no looser than either. -/
theorem bindsFirst_of_tighter {above below last : Instruction} {o : Operator}
    (operator : above = .operator o) (tighter : below.bindsFirst above = false)
    (binds : below.bindsFirst last = true) : above.bindsFirst last = true := by
  subst operator
  match below, last with
  | .operator b, .operator l =>
    simp only [Instruction.bindsFirst, Operator.bindsFirst, decide_eq_true_eq,
      decide_eq_false_iff_not] at tighter binds ⊢
    omega
  | .operand _, _ => cases binds
  | .operator _, .operand _ => cases binds

/-- **An operator that waits on keeps its operands from none that comes up:** otherwise those above it
    did so all the more. -/
theorem Waiting.stays (h : Waiting read waiting) {w : ι} (hw : w ∈ staying read waiting i) :
    (read w).bindsFirst (read i) = false := by
  have upward : waiting.Pairwise fun above below =>
      (read below).bindsFirst (read i) = true → (read above).bindsFirst (read i) = true := by
    refine h.stacked.imp_of_mem fun {above below} hAbove _ stacked binds => ?_
    obtain ⟨o, operator⟩ := h.operators above hAbove
    exact bindsFirst_of_tighter operator stacked.2 binds
  exact eq_false_of_mem_dropWhile (fun w => (read w).bindsFirst (read i)) upward hw

/-- An operator of the formula waits above those that stay. -/
theorem Waiting.push (h : Waiting read waiting) {o : Operator} (element : read i = .operator o)
    (behind : ∀ w ∈ waiting, w < i) : Waiting read (i :: staying read waiting i) where
  operators := by
    refine List.forall_mem_cons.mpr ⟨⟨o, element⟩, fun w hw => ?_⟩
    exact h.operators w ((List.dropWhile_sublist _).subset hw)
  stacked := by
    refine List.pairwise_cons.mpr ⟨fun w hw => ?_, h.stacked.sublist (List.dropWhile_sublist _)⟩
    exact ⟨behind w ((List.dropWhile_sublist _).subset hw), h.stays hw⟩

/-- The order of the program is the one that `Precedes` decides on. -/
def Decided (read : ι → Instruction) (indices : List ι) (i j : ι) : Prop :=
  (i < j ∧ Precedes read indices i j) ∨ (j < i ∧ ¬ Precedes read indices j i)

/-- An element that keeps no earlier one from waiting on decides nothing about elements behind it. -/
theorem Decided.cons {k : ι} {rest : List ι} (h : Decided read rest i j)
    (free : ∀ w, (w = i ∨ w = j) → w < k → (read w).bindsFirst (read k) = false) :
    Decided read (k :: rest) i j := by
  have same {v w : ι} (hv : v = i ∨ v = j) :
      Precedes read (k :: rest) v w ↔ Precedes read rest v w := by
    unfold Precedes
    refine or_congr_right ?_
    rw [List.exists_mem_cons_iff]
    refine or_iff_right fun now => ?_
    obtain ⟨before, -, binds⟩ := now
    rw [free v hv before] at binds
    cases binds
  rcases h with ⟨before, precedes⟩ | ⟨behind, waits⟩
  · exact .inl ⟨before, (same (.inl rfl)).mpr precedes⟩
  · exact .inr ⟨behind, fun precedes => waits ((same (.inr rfl)).mp precedes)⟩

/-- An operator that waits precedes nothing that it keeps its operands from no operator before. -/
theorem Waiting.not_precedes (h : Waiting read waiting) (waits : i ∈ waiting)
    (free : ∀ k ∈ indices, i < k → k ≤ j → (read i).bindsFirst (read k) = false) :
    ¬ Precedes read indices i j := by
  rintro (⟨x, operand⟩ | ⟨k, hk, before, upTo, binds⟩)
  · obtain ⟨o, operator⟩ := h.operators i waits
    rw [operand] at operator
    cases operator
  · rw [free k hk before upTo] at binds
    cases binds

/-- An operator that waits comes behind the operators above it, whatever is still to come. -/
theorem Waiting.decided (h : Waiting read waiting) (behind : ∀ w ∈ waiting, ∀ k ∈ indices, w < k) :
    waiting.Pairwise (Decided read indices) := by
  refine h.stacked.imp_of_mem fun {above below} hAbove hBelow stacked => ?_
  refine .inr ⟨stacked.1, h.not_precedes hBelow fun k hk _ upTo => ?_⟩
  exact absurd (behind above hAbove k hk) (not_lt.mpr upTo)

/-- An operand comes before all that is not written yet: the operators that wait and the rest of the
    formula. -/
theorem Waiting.decided_operand (h : Waiting read waiting) {x : Operand} {rest : List ι}
    (element : read i = .operand x) (before : ∀ w ∈ waiting, w < i) (first : ∀ k ∈ rest, i < k)
    (hj : j ∈ order read waiting rest) : Decided read (i :: rest) i j := by
  rcases mem_order.mp hj with waits | comes
  · refine .inr ⟨before j waits, h.not_precedes waits fun k hk _ upTo => ?_⟩
    rcases List.mem_cons.mp hk with rfl | hk
    · rw [element, Instruction.bindsFirst_operand]
    · exact absurd (first k hk) (not_lt.mpr upTo)
  · exact .inl ⟨first j comes, .inl ⟨x, element⟩⟩

/-- An operator that is written when another one comes up comes before that one, and so before all
    that is behind it. -/
theorem Waiting.decided_leaving (h : Waiting read waiting) {rest : List ι} {w : ι}
    (behind : ∀ w ∈ waiting, ∀ k ∈ i :: rest, w < k) (first : ∀ k ∈ rest, i < k)
    (hw : w ∈ leaving read waiting i) (hj : j ∈ order read (i :: staying read waiting i) rest) :
    Decided read (i :: rest) w j := by
  have binds := binds_of_leaving hw
  have early : w < i := behind w ((List.takeWhile_sublist _).subset hw) i List.mem_cons_self
  have comes_up {k : ι} (upTo : i ≤ k) : Decided read (i :: rest) w k :=
    .inl ⟨early.trans_le upTo, .inr ⟨i, List.mem_cons_self, early, upTo, binds⟩⟩
  rcases mem_order.mp hj with stays | comes
  · rcases List.mem_cons.mp stays with rfl | waits
    · exact comes_up le_rfl
    · have both := h.decided behind
      rw [← leaving_append_staying read waiting i, List.pairwise_append] at both
      exact both.2.2 w hw j waits
  · exact comes_up (first j comes).le

/-- **In the program any two elements stand as `Precedes` decides,** by induction on the formula. -/
theorem pairwise_order (h : Waiting read waiting) (ascending : indices.Pairwise (· < ·))
    (behind : ∀ w ∈ waiting, ∀ k ∈ indices, w < k) :
    (order read waiting indices).Pairwise (Decided read indices) := by
  induction indices generalizing waiting with
  | nil => exact h.decided behind
  | cons i rest ih =>
    obtain ⟨first, ascending⟩ := List.pairwise_cons.mp ascending
    have before : ∀ w ∈ waiting, w < i := fun w hw => behind w hw i List.mem_cons_self
    cases element : read i with
    | operand x =>
      have later := ih h ascending fun w hw k hk => behind w hw k (List.mem_cons_of_mem _ hk)
      rw [order_operand element]
      refine List.pairwise_cons.mpr ⟨fun j => h.decided_operand element before first, ?_⟩
      refine later.imp fun decided => decided.cons fun w _ _ => ?_
      rw [element, Instruction.bindsFirst_operand]
    | operator o =>
      have out : (leaving read waiting i).Pairwise (Decided read (i :: rest)) :=
        (h.decided behind).sublist (List.takeWhile_sublist _)
      have kept : ∀ w ∈ i :: staying read waiting i, ∀ k ∈ rest, w < k := by
        refine List.forall_mem_cons.mpr ⟨first, fun w hw k hk => ?_⟩
        exact behind w ((List.dropWhile_sublist _).subset hw) k (List.mem_cons_of_mem _ hk)
      have later := ih (h.push element before) ascending kept
      -- the operator that comes up releases none of those that wait on
      have free : ∀ w ∈ order read (i :: staying read waiting i) rest, w < i →
          (read w).bindsFirst (read i) = false := by
        intro w hw earlier
        rcases mem_order.mp hw with stays | comes
        · rcases List.mem_cons.mp stays with rfl | waits
          · exact absurd earlier (lt_irrefl w)
          · exact h.stays waits
        · exact absurd (first w comes) (lt_asymm earlier)
      rw [order_operator element]
      refine List.pairwise_append.mpr ⟨out, ?_, fun w hw j hj => ?_⟩
      · refine later.imp_of_mem fun hv hw decided => decided.cons fun u same => ?_
        rcases same with rfl | rfl
        · exact free u hv
        · exact free u hw
      · exact h.decided_leaving behind first hw hj

end Order

/-! ## 4. Nothing lost, nothing added -/

/-- **Arranging only moves things:** the operators that wait and the rest of the formula, each as
    often as before. -/
theorem perm_arrange (waiting : List Operator) (formula : List Instruction) :
    (arrange waiting formula).Perm (waiting.map Instruction.operator ++ formula) := by
  have same : (waiting.map Instruction.operator).map id = waiting.map Instruction.operator :=
    List.map_id _
  have mapped := map_order same formula
  rw [List.map_id, List.map_id] at mapped
  rw [← mapped]
  exact perm_order id _ formula

/-- **The operands of a program are those of the formula,** in the same order. -/
theorem operands_arrange (waiting : List Operator) (formula : List Instruction) :
    (arrange waiting formula).filterMap Instruction.operand? =
      formula.filterMap Instruction.operand? := by
  have none (operators : List Operator) :
      (operators.map Instruction.operator).filterMap Instruction.operand? = [] := by
    rw [List.filterMap_map]
    exact List.filterMap_eq_nil_iff.mpr fun o _ => rfl
  induction formula generalizing waiting with
  | nil => exact none waiting
  | cons i rest ih =>
    rw [arrange_cons, List.filterMap_append, ih]
    cases i with
    | operand x => rfl
    | operator o =>
      rw [released, none]
      rfl

theorem operand_mem_of_arrange {x : Operand} {waiting : List Operator} {formula : List Instruction}
    (h : Instruction.operand x ∈ arrange waiting formula) : Instruction.operand x ∈ formula := by
  rcases List.mem_append.mp ((perm_arrange waiting formula).subset h) with waits | member
  · obtain ⟨o, -, same⟩ := List.mem_map.mp waits
    cases same
  · exact member

/-- So are its cells. -/
theorem cells_arrange (waiting : List Operator) (formula : List Instruction) :
    (arrange waiting formula).filterMap Instruction.cell? =
      formula.filterMap Instruction.cell? := by
  have through (is : List Instruction) : is.filterMap Instruction.cell? =
      (is.filterMap Instruction.operand?).filterMap Operand.cell? := by
    rw [List.filterMap_filterMap]
    rfl
  rw [through, operands_arrange, ← through]

/-! ## 5. Places -/

/-- Where an index has its turn, in an order of all indices in which those before are related to those
    behind. -/
theorem exists_turn {n : Nat} {turns : List (Fin n)} {R : Fin n → Fin n → Prop}
    (perm : turns.Perm (List.finRange n)) (related : turns.Pairwise R) :
    ∃ turn : Fin n ≃ Fin turns.length,
      (∀ i, turns.get (turn i) = i) ∧ ∀ i j, turn i < turn j → R i j := by
  have nodup : turns.Nodup := perm.nodup_iff.mpr (List.nodup_finRange n)
  have all (i : Fin n) : i ∈ turns := perm.mem_iff.mpr (List.mem_finRange i)
  let at_turn := nodup.getEquivOfForallMemList turns all
  have get (i : Fin n) : turns.get (at_turn.symm i) = i := at_turn.apply_symm_apply i
  refine ⟨at_turn.symm, get, fun i j earlier => ?_⟩
  have ordered := List.pairwise_iff_get.mp related _ _ earlier
  rwa [get, get] at ordered

/-- **Every element of a formula has its place in the program,** and of two the later one comes first
    unless the earlier one precedes it. -/
theorem exists_place (formula : List Instruction) :
    ∃ place : Fin formula.length ≃ Fin (arrange [] formula).length,
      (∀ i, (arrange [] formula)[place i] = formula[i]) ∧
      ∀ i j, i < j →
        (place i < place j ↔ Precedes formula.get (List.finRange formula.length) i j) := by
  have nothing : Waiting formula.get [] := by
    refine ⟨fun _ member => ?_, List.Pairwise.nil⟩
    exact absurd member List.not_mem_nil
  have decided := pairwise_order nothing (List.pairwise_lt_finRange formula.length)
    fun _ member => absurd member List.not_mem_nil
  have perm : (order formula.get [] (List.finRange formula.length)).Perm
      (List.finRange formula.length) := perm_order formula.get [] _
  obtain ⟨turn, get, first⟩ := exists_turn perm decided
  have same : (order formula.get [] (List.finRange formula.length)).map formula.get =
      arrange [] formula := by
    have none : ([] : List (Fin formula.length)).map formula.get =
        ([] : List Operator).map Instruction.operator := rfl
    have mapped := map_order none (List.finRange formula.length)
    rwa [List.map_get_finRange] at mapped
  have size := congrArg List.length same
  rw [List.length_map] at size
  refine ⟨turn.trans (finCongr size), fun i => ?_, fun i j before => ?_⟩
  · have there : ((order formula.get [] (List.finRange formula.length)).map formula.get)[turn i] =
        formula.get i := (List.getElem_map formula.get).trans (congrArg formula.get (get i))
    simp only [same] at there
    exact there
  · show turn i < turn j ↔ _
    constructor
    · intro earlier
      rcases first i j earlier with ⟨-, precedes⟩ | ⟨behind, -⟩
      · exact precedes
      · exact absurd behind (lt_asymm before)
    · intro precedes
      rcases lt_trichotomy (turn i) (turn j) with earlier | same | later
      · exact earlier
      · exact absurd (turn.injective same) before.ne
      · rcases first j i later with ⟨behind, -⟩ | ⟨-, waits⟩
        · exact absurd behind (lt_asymm before)
        · exact absurd precedes waits

/-- Whether an operator of sums stands between two elements of the formula. -/
def SumBetween (formula : List Instruction) (i j : Fin formula.length) : Prop :=
  ∃ k, i < k ∧ k < j ∧ (formula[k] = .operator .add ∨ formula[k] = .operator .sub)

/-- An operator that does not keep its operands from one of products is one of sums, and only another
    one of sums makes it come. -/
theorem sum_of_binds {a b c : Operator} (waits : ¬ a.precedence ≤ b.precedence)
    (binds : a.bindsFirst c = true) : c = .add ∨ c = .sub := by
  cases a <;> cases b <;> cases c <;> simp_all [Operator.precedence, Operator.bindsFirst]

theorem bindsFirst_of_sum {a c : Operator} (sum : c = .add ∨ c = .sub) : a.bindsFirst c = true := by
  rcases sum with rfl | rfl <;> cases a <;> rfl

/-- **Of two operators the earlier one comes first** exactly when it binds at least as tightly as the
    later one or an operator of sums stands between them. -/
theorem precedes_operators {formula : List Instruction} {i j : Fin formula.length} {a b : Operator}
    (before : i < j) (first : formula[i] = .operator a) (second : formula[j] = .operator b) :
    Precedes formula.get (List.finRange formula.length) i j ↔
      a.precedence ≤ b.precedence ∨ SumBetween formula i j := by
  rw [precedes_iff_of_operator first]
  constructor
  · rintro ⟨k, -, behind, upTo, c, element, binds⟩
    by_cases tight : a.precedence ≤ b.precedence
    · exact .inl tight
    · have sum := sum_of_binds tight binds
      refine .inr ⟨k, behind, lt_of_le_of_ne upTo ?_, ?_⟩
      · rintro rfl
        cases element.symm.trans second
        exact tight (of_decide_eq_true binds)
      · rcases sum with rfl | rfl
        · exact .inl element
        · exact .inr element
  · rintro (tight | ⟨k, behind, upTo, sum⟩)
    · exact ⟨j, List.mem_finRange j, before, le_rfl, b, second, decide_eq_true tight⟩
    · rcases sum with sum | sum
      · exact ⟨k, List.mem_finRange k, behind, upTo.le, .add, sum, bindsFirst_of_sum (.inl rfl)⟩
      · exact ⟨k, List.mem_finRange k, behind, upTo.le, .sub, sum, bindsFirst_of_sum (.inr rfl)⟩

end Program

/-! ## 6. References -/

/-- The list has the positions of another one, each once, by first appearance. -/
structure FirstAppearances (all distinct : List Position) : Prop where
  mem_iff : ∀ p, p ∈ distinct ↔ p ∈ all
  ordered : distinct.Pairwise fun p q => all.idxOf p < all.idxOf q

/-- None of them comes twice. -/
theorem FirstAppearances.nodup {all distinct : List Position} (h : FirstAppearances all distinct) :
    distinct.Nodup := by
  refine h.ordered.imp fun {p q} earlier same => ?_
  rw [same] at earlier
  exact lt_irrefl _ earlier

/-- **Leaving out what came before leaves the first appearances,** by induction from the end. -/
theorem firstAppearances_eraseDups (all : List Position) : FirstAppearances all all.eraseDups where
  mem_iff p := List.mem_eraseDups
  ordered := by
    induction all using List.reverseRecOn with
    | nil => exact List.Pairwise.nil
    | append_singleton all p ih =>
      have kept : all.eraseDups.Pairwise fun q r =>
          (all ++ [p]).idxOf q < (all ++ [p]).idxOf r := by
        refine ih.imp_of_mem fun {q r} hq hr earlier => ?_
        rwa [List.idxOf_append_of_mem (List.mem_eraseDups.mp hq),
          List.idxOf_append_of_mem (List.mem_eraseDups.mp hr)]
      rw [List.eraseDups_append]
      by_cases again : p ∈ all
      · have nothing : [p].removeAll all = [] := by simp [List.removeAll, again]
        rw [nothing, List.eraseDups_nil, List.append_nil]
        exact kept
      · have new : [p].removeAll all = [p] := by simp [List.removeAll, again]
        have lone : [p].eraseDups = [p] := by simp [List.eraseDups_cons]
        rw [new, lone]
        refine List.pairwise_append.mpr ⟨kept, List.pairwise_singleton _ _, fun q hq r hr => ?_⟩
        rw [List.mem_singleton.mp hr, List.idxOf_append_of_mem (List.mem_eraseDups.mp hq),
          List.idxOf_append_of_notMem again, List.idxOf_cons_self]
        exact List.idxOf_lt_length_of_mem (List.mem_eraseDups.mp hq)

/-! ## 7. Programs of tokens -/

namespace Program

/-- How the elements of a formula are placed in its program: operands in their order, and of two
    operators the earlier one first when it binds at least as tightly or an operator of sums stands
    between them. -/
structure Arranged (formula : List Instruction) (program : Program)
    (place : Fin formula.length ≃ Fin program.length) : Prop where
  same : ∀ i, program[place i] = formula[i]
  operands : ∀ i j x y, i < j → formula[i] = .operand x → formula[j] = .operand y →
    place i < place j
  operators : ∀ i j a b, i < j → formula[i] = .operator a → formula[j] = .operator b →
    (place i < place j ↔ a.precedence ≤ b.precedence ∨ SumBetween formula i j)

theorem exists_arranged (formula : List Instruction) :
    ∃ place, Arranged formula (arrange [] formula) place := by
  obtain ⟨place, same, decided⟩ := exists_place formula
  refine ⟨place, same, ?_, ?_⟩
  · intro i j x y before first _
    exact (decided i j before).mpr (.inl ⟨x, first⟩)
  · intro i j a b before first second
    rw [decided i j before, precedes_operators before first second]

/-- **Compiling loses, invents and misorders nothing.** A list of tokens, whatever its shape, has no
    program exactly when one of them is invalid. Otherwise the tokens are those of a formula, and the
    program has its operands in their order and its operators, each at a place of its own: the earlier
    one of two comes first exactly when it binds at least as tightly as the later one or an operator of
    sums stands between them. The references of the program are the cells of the formula, each once, by
    first appearance. -/
theorem toPostfix_exact (tokens : List Token) :
    (toPostfix tokens = none ↔ Token.invalid ∈ tokens) ∧
    ∀ program, toPostfix tokens = some program →
      ∃ formula : List Instruction, tokens = formula.map Instruction.token ∧
        program.filterMap Instruction.operand? = formula.filterMap Instruction.operand? ∧
        (program.filterMap Instruction.operator?).Perm
          (formula.filterMap Instruction.operator?) ∧
        (∃ place, Arranged formula program place) ∧
        FirstAppearances (formula.filterMap Instruction.cell?) (references program) := by
  refine ⟨toPostfix_eq_none_iff, fun program compiled => ?_⟩
  obtain ⟨formula, spelled, rfl⟩ := toPostfix_eq_some_iff.mp compiled
  have operators : ((arrange [] formula).filterMap Instruction.operator?).Perm
      (formula.filterMap Instruction.operator?) :=
    (perm_arrange [] formula).filterMap Instruction.operator?
  have cells := firstAppearances_eraseDups ((arrange [] formula).filterMap Instruction.cell?)
  rw [cells_arrange] at cells
  rw [references, cells_arrange]
  exact ⟨formula, spelled, operands_arrange [] formula, operators, exists_arranged formula, cells⟩

/-- A formula with operators in front, side by side and at the end: `+ B1 * A1 B1 / - 2 *`. -/
def uneven : List Instruction :=
  [.operator .add, .operand (.cell ⟨1, 0⟩), .operator .mul, .operand (.cell ⟨0, 0⟩),
    .operand (.cell ⟨1, 0⟩), .operator .div, .operator .sub, .operand (.number 2), .operator .mul]

/-- Its program: `B1 A1 B1 * / + 2 * -`. -/
def unevenArranged : Program :=
  [.operand (.cell ⟨1, 0⟩), .operand (.cell ⟨0, 0⟩), .operand (.cell ⟨1, 0⟩), .operator .mul,
    .operator .div, .operator .add, .operand (.number 2), .operator .mul, .operator .sub]

/-- The general statement at this formula: the sum comes behind the products that follow it, and the
    difference behind the last one. -/
theorem toPostfix_exact_uneven :
    toPostfix (uneven.map Instruction.token) = some unevenArranged ∧
    ∃ formula : List Instruction, uneven.map Instruction.token = formula.map Instruction.token ∧
      (∃ place, Arranged formula unevenArranged place) ∧
      FirstAppearances (formula.filterMap Instruction.cell?) [⟨1, 0⟩, ⟨0, 0⟩] := by
  have compiled : toPostfix (uneven.map Instruction.token) = some unevenArranged := by decide
  obtain ⟨-, programs⟩ := toPostfix_exact (uneven.map Instruction.token)
  obtain ⟨formula, spelled, -, -, placed, cells⟩ := programs _ compiled
  exact ⟨compiled, formula, spelled, placed, cells⟩

end Program

end Spreadsheet
