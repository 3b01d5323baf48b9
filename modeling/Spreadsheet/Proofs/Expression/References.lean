import Spreadsheet.Expression.Cache
import Spreadsheet.Proofs.Program.Postfix
import Spreadsheet.Proofs.Program.Reads

/-!
# What expressions refer to

The references of an expression are the cells of its program by first appearance
(`references_firstAppearances`). Its result depends on them only (`execute_congr`), and the cells that
its run asks for are among them (`mem_references_of_mem_reads`).

A reference in a text names one of the lettered columns and one of the first nine rows
(`bounds_of_compile`). A hand-built program may name any position; `nonNegative` tells the
expressions that name no negative one, and compiling gives no other (`nonNegative_of_compile`). The
literals of a text have no sign and fit 64 bits (`literal_of_compile`).
-/

namespace Spreadsheet

variable {p : Position}

/-! ## 1. Lexemes and instructions -/

theorem columnOf?_bounds {c : Char} {column : Int} (h : Position.columnOf? c = some column) :
    0 ≤ column ∧ column < Position.letterCount := by
  unfold Position.columnOf? at h
  split at h
  · rename_i upper
    have between : 'A'.val ≤ c.val ∧ c.val ≤ 'Z'.val := of_decide_eq_true upper
    have above : 65 ≤ c.toNat := UInt32.le_iff_toNat_le.mp between.1
    have below : c.toNat ≤ 90 := UInt32.le_iff_toNat_le.mp between.2
    cases h
    unfold Position.letterCount
    omega
  · cases h

theorem rowOf?_bounds {c : Char} {row : Int} (h : rowOf? c = some row) : 0 ≤ row ∧ row < 9 := by
  unfold rowOf? at h
  split at h
  · rename_i leading
    simp only [Position.isLeadingDigit, Bool.and_eq_true, bne_iff_ne, ne_eq] at leading
    obtain ⟨digit, nonzero⟩ := leading
    have bounds : 48 ≤ c.toNat ∧ c.toNat ≤ 57 := by
      simpa [Char.isDigit, UInt32.le_iff_toNat_le] using digit
    have other : c.toNat ≠ 48 := fun e => nonzero (Char.toNat_inj.mp e)
    cases h
    omega
  · cases h

/-- A position that the text of a formula can refer to: its column has a letter, and its row one
    digit. -/
def Referable (p : Position) : Prop :=
  (0 ≤ p.column ∧ p.column < Position.letterCount) ∧ (0 ≤ p.row ∧ p.row < 9)

theorem referable_of_ofColumn {column : Int} {next : Option CodePoint}
    (hc : 0 ≤ column ∧ column < Position.letterCount)
    (h : Lexeme.ofColumn column next = .reference p) : Referable p := by
  unfold Lexeme.ofColumn at h
  split at h
  · rename_i row found
    cases h
    obtain ⟨c, -, digit⟩ := Option.bind_eq_some_iff.mp found
    exact ⟨hc, rowOf?_bounds digit⟩
  · cases h

theorem leadingDigits_isInfix (t : Text) : Text.ofChars (Text.leadingDigits t) <:+: t := by
  have whole := Text.map_leadingDigits_append t
  exact ⟨[], t.dropWhile (·.has Char.isDigit), whole⟩

/-- **The lexemes that a text can have:** the digits of one stand in the text in one piece, and the
    letter of one has a column. -/
theorem forall_mem_scan {P : Lexeme → Prop} {t : Text}
    (digits : ∀ run : List Char, (∀ c ∈ run, c.isDigit = true) → Text.ofChars run <:+: t →
      P (.digits run))
    (operator : ∀ o, P (.operator o))
    (letter : ∀ c column next, Position.columnOf? c = some column → P (.ofColumn column next))
    (other : P .other) : ∀ lexeme ∈ scan t, P lexeme := by
  fun_induction scan t with
  | case1 => exact fun _ member => absurd member List.not_mem_nil
  | case2 point rest blank ih =>
    exact ih fun run all part => digits run all (List.infix_cons part)
  | case3 point rest _ digit ih =>
    refine List.forall_mem_cons.mpr ⟨?_, ih fun run all part => ?_⟩
    · exact digits _ (fun c hc => Text.isDigit_of_mem_leadingDigits hc) (leadingDigits_isInfix _)
    · exact digits run all (List.infix_cons (part.trans (List.dropWhile_suffix _).isInfix))
  | case4 point rest _ _ o found ih =>
    refine List.forall_mem_cons.mpr ⟨operator o, ih fun run all part => ?_⟩
    exact digits run all (List.infix_cons part)
  | case5 point rest _ _ _ column found ih =>
    obtain ⟨c, -, known⟩ := Option.bind_eq_some_iff.mp found
    refine List.forall_mem_cons.mpr ⟨letter c column _ known, ih fun run all part => ?_⟩
    exact digits run all (List.infix_cons (part.trans (List.tail_suffix _).isInfix))
  | case6 point rest _ _ _ _ ih =>
    refine List.forall_mem_cons.mpr ⟨other, ih fun run all part => ?_⟩
    exact digits run all (List.infix_cons part)

/-- **The references of a text are referable.** -/
theorem referable_of_mem_scan {t : Text} (h : Lexeme.reference p ∈ scan t) : Referable p := by
  have each : ∀ lexeme ∈ scan t, lexeme = .reference p → Referable p := by
    refine forall_mem_scan ?_ ?_ ?_ ?_
    · exact fun _ _ _ same => nomatch same
    · exact fun _ same => nomatch same
    · exact fun _ _ _ known same => referable_of_ofColumn (columnOf?_bounds known) same
    · exact fun same => nomatch same
  exact each _ h rfl

/-- An operand is spelled by a reference or by the digits of a number, which has no sign. -/
theorem Lexeme.operand_of_token {lexeme : Lexeme} {x : Operand}
    (h : lexeme.token = .ok (.operand x)) :
    (∃ q, lexeme = .reference q ∧ x = .cell q) ∨
      ∃ n : Nat, (n : Int) ≤ int64Max ∧ x = .number n := by
  cases lexeme with
  | digits run =>
    cases read : Text.readDigits run with
    | error fault =>
      simp only [token, read] at h
      cases h
    | ok n =>
      simp only [token, read, bind, Except.bind, pure, Except.pure, Except.map,
        Except.ok.injEq] at h
      split at h
      · rename_i small
        cases h
        exact .inr ⟨n, small, rfl⟩
      · cases h
  | operator o => cases h
  | reference q =>
    cases h
    exact .inl ⟨q, rfl, rfl⟩
  | other => cases h

/-- An instruction of a formula is the token of a lexeme. -/
theorem Expression.exists_lexeme {lexemes : List Lexeme} {is : List Instruction} {i : Instruction}
    (h : instructions lexemes = .ok (some is)) (hi : i ∈ is) :
    ∃ lexeme ∈ lexemes, lexeme.token = .ok i.token := by
  induction lexemes generalizing is with
  | nil =>
    cases h
    cases hi
  | cons lexeme rest ih =>
    unfold instructions at h
    cases read : lexeme.token with
    | error fault =>
      rw [read] at h
      cases h
    | ok token =>
      simp only [read] at h
      cases meant : token.instruction? with
      | none =>
        rw [meant] at h
        cases h
      | some j =>
        simp only [meant] at h
        match later : instructions rest, h with
        | .ok (some is'), h =>
          cases h
          rcases List.mem_cons.mp hi with rfl | hi
          · have same := Token.instruction?_eq_some_iff.mp meant
            exact ⟨lexeme, List.mem_cons_self, same ▸ read⟩
          · obtain ⟨found, member, spells⟩ := ih later hi
            exact ⟨found, List.mem_cons_of_mem _ member, spells⟩

/-! ## 2. References of an expression -/

namespace Expression

variable {e : Expression}

theorem mem_references {program : Program} (h : e.program = some program) :
    p ∈ e.references ↔ Instruction.operand (.cell p) ∈ program := by
  rw [references, h, Program.mem_references]

/-- The cells of the program, in order and each as often as it comes. -/
def cells (e : Expression) : List Position := (e.program.getD []).filterMap Instruction.cell?

/-- **The references are the cells of the program,** each once, by first appearance. -/
theorem references_firstAppearances (e : Expression) : FirstAppearances e.cells e.references := by
  obtain ⟨text, program⟩ := e
  cases program with
  | none => exact firstAppearances_eraseDups []
  | some program => exact firstAppearances_eraseDups (program.filterMap Instruction.cell?)

theorem references_nodup (e : Expression) : e.references.Nodup := e.references_firstAppearances.nodup

/-- **Sources that agree on the references give the same run.** -/
theorem execute_congr {values values' : Source}
    (same : ∀ p ∈ e.references, values p = values' p) :
    e.execute (some values) = e.execute (some values') := by
  unfold execute Program.execute
  cases h : e.program with
  | none => rfl
  | some program =>
    refine Program.run_congr (fun p hp => ?_) []
    exact congrArg some (same p ((mem_references h).mpr hp))

/-- **A run asks for references only.** -/
theorem mem_references_of_mem_reads {source : Option Source}
    (hp : p ∈ (e.execute source).reads) : p ∈ e.references := by
  unfold execute Program.execute at hp
  cases h : e.program with
  | none =>
    rw [h] at hp
    cases hp
  | some program =>
    rw [h] at hp
    exact (mem_references h).mpr (Program.mem_of_mem_reads hp)

/-- A text that did not compile gives that error, wherever it is run. -/
theorem execute_of_uncompiled (h : e.program = none) (source : Option Source) :
    (e.execute source).result = .error .compile := by
  rw [execute, h]
  rfl

/-- **With a source a program fails in one of four ways only.** -/
theorem runtime_of_execute {values : Source} {err : ErrorValue} (compiled : e.program ≠ none)
    (h : (e.execute (some values)).result = .error err) : Program.Runtime err := by
  obtain ⟨program, is⟩ := Option.ne_none_iff_exists'.mp compiled
  rw [execute, is] at h
  exact Program.runtime_of_run h

/-- Running an expression never finds it cyclic: that is for the sheet to tell. -/
theorem execute_ne_cyclic (e : Expression) (values : Source) :
    (e.execute (some values)).result ≠ .error .cyclic := by
  by_cases compiled : e.program = none
  · rw [execute_of_uncompiled compiled]
    exact nofun
  · intro cyclic
    rcases runtime_of_execute compiled cyclic with h | h | h | h <;> cases h

/-! ## 3. What a text can refer to -/

/-- Whether no negative position is among the references. -/
def nonNegative (e : Expression) : Bool := e.references.all fun p => !p.isNegative

theorem nonNegative_iff : e.nonNegative = true ↔ ∀ p ∈ e.references, p.isNegative = false := by
  simp [nonNegative]

/-- **An operand of a compiled program is spelled by a lexeme of the text.** -/
theorem exists_lexeme_of_compile {text : Text} {program : Program} {x : Operand}
    (h : compile text = .ok e) (compiled : e.program = some program)
    (hx : Instruction.operand x ∈ program) :
    ∃ lexeme ∈ scan (text.drop 1), lexeme.token = .ok (.operand x) := by
  unfold compile compileBody at h
  split at h
  · match read : instructions (scan (text.drop 1)), h with
    | .ok none, h =>
      cases h
      cases compiled
    | .ok (some is), h =>
      cases h
      cases compiled
      exact exists_lexeme read (Program.operand_mem_of_arrange hx)
  · cases h

/-- **The references of a compiled text are referable.** -/
theorem bounds_of_compile {text : Text} (h : compile text = .ok e) :
    ∀ p ∈ e.references, Referable p := by
  intro p hp
  cases compiled : e.program with
  | none =>
    rw [references, compiled] at hp
    cases hp
  | some program =>
    obtain ⟨lexeme, member, spells⟩ :=
      exists_lexeme_of_compile h compiled ((mem_references compiled).mp hp)
    rcases Lexeme.operand_of_token spells with ⟨q, rfl, same⟩ | ⟨n, -, same⟩
    · cases same
      exact referable_of_mem_scan member
    · cases same

/-- **The literals of a compiled text are numbers without sign of 64 bits.** -/
theorem literal_of_compile {text : Text} {program : Program} {n : Int}
    (h : compile text = .ok e) (compiled : e.program = some program)
    (literal : Instruction.operand (.number n) ∈ program) : 0 ≤ n ∧ n ≤ int64Max := by
  obtain ⟨lexeme, -, spells⟩ := exists_lexeme_of_compile h compiled literal
  rcases Lexeme.operand_of_token spells with ⟨q, -, same⟩ | ⟨m, small, same⟩
  · cases same
  · cases same
    exact ⟨Int.natCast_nonneg m, small⟩

theorem nonNegative_of_compile {text : Text} (h : compile text = .ok e) : e.nonNegative = true := by
  refine nonNegative_iff.mpr fun p hp => Position.isNegative_eq_false_iff.mpr ?_
  obtain ⟨⟨column, -⟩, row, -⟩ := bounds_of_compile h p hp
  exact ⟨column, row⟩

end Expression

end Spreadsheet
