import CharacterSheet.Proofs.Arithmetic.Operands
import CharacterSheet.Proofs.Arithmetic.Postfix

/-!
# Orderly expressions

An expression may be accepted although its operators do not find their operands: what may come next
is watched only in part, and a sign binds no more tightly than a product, so that it makes a product
or another sign in front of it be taken too early. An expression is orderly when it has no names, no
operand beside another, no empty brackets, and no sign behind an asterisk or another sign. Main
statement: when the form of an orderly expression is accepted, its program is an expression with its
operators behind their operands, and with the numbers that are read in their order.
-/

namespace CharacterSheet.Arithmetic

/-! ### The lexemes of a text -/

namespace Lexeme

/-- The number that a lexeme is, if it is one. -/
def number? : Lexeme → Option Number
  | .number n => some n
  | _ => none

/-- A text is read as lexemes, one after the other. -/
inductive ReadAll : List Char → List Lexeme → Prop where
  | nil : ReadAll [] []
  | cons {c : Char} {cs rest : List Char} {l : Lexeme} {ls : List Lexeme}
    (h : read (c :: cs) = .ok (l, rest)) (hr : ReadAll rest ls) : ReadAll (c :: cs) (l :: ls)

/-- A text is read in one way. -/
theorem ReadAll.unique {cs : List Char} {ls ms : List Lexeme} (h : ReadAll cs ls)
    (h' : ReadAll cs ms) : ls = ms := by
  induction h generalizing ms with
  | nil =>
    cases h'
    rfl
  | cons h _ ih =>
    cases h' with
    | cons k hk =>
      obtain ⟨rfl, rfl⟩ := Prod.mk.inj (Except.ok.inj (h.symm.trans k))
      rw [ih hk]

end Lexeme

namespace Assembly

/-- What is taken in of a text are its lexemes. -/
theorem exists_readAll_of_run {a b : Assembly} {cs : List Char} (h : a.run cs = .ok b) :
    ∃ ls, Lexeme.ReadAll cs ls ∧ a.feedAll ls = .ok b := by
  fun_induction Assembly.run a cs with
  | case1 a =>
    cases h
    exact ⟨[], .nil, rfl⟩
  | case2 => cases h
  | case3 a c rest l behind hl _ next hf ih =>
    obtain ⟨ls, hls, hb⟩ := ih h
    refine ⟨l :: ls, .cons hl hls, ?_⟩
    rw [feedAll, List.foldlM_cons, hf]
    exact hb
  | case4 => cases h

end Assembly

/-! ### Order -/

/-- Where a lexeme stands, blanks aside. -/
inductive Position where
  /-- Behind an operand or a closing bracket. -/
  | operand
  /-- Behind an opening bracket. -/
  | opened
  /-- At the start, or behind a sum or a difference. -/
  | free
  /-- Behind a product or a sign, which a sign would make be taken too early. -/
  | bound
  deriving Repr, DecidableEq

namespace Position

/-- Where the next lexeme stands, if this one may stand here. A plus sign in front of an operand is
passed over. Products without a first operand and brackets that do not match are not looked for:
the assembly refuses these. -/
def next : Position → Lexeme → Option Position
  | p, .blank => some p
  | .operand, .number _ => none
  | _, .number _ => some .operand
  | .bound, .operator .add => some .bound
  | _, .operator .add => some .free
  | .operand, .operator .subtract => some .free
  | .bound, .operator .subtract => none
  | _, .operator .subtract => some .bound
  | _, .operator .multiply => some .bound
  | .operand, .opening => none
  | _, .opening => some .opened
  | .opened, .closing => none
  | _, .closing => some .operand
  | _, _ => none

/-- How many operands have to come. -/
def missing : Position → Nat
  | .operand => 0
  | .opened | .free | .bound => 1

@[simp]
theorem missing_operand : operand.missing = 0 := rfl

@[simp]
theorem missing_bound : bound.missing = 1 := rfl

/-- Where a lexeme stands behind an operation. -/
def behind : Operation → Position
  | .sum | .difference => .free
  | .product => .bound

@[simp]
theorem missing_behind (op : Operation) : (behind op).missing = 1 := by cases op <;> rfl

end Position

/-- Every lexeme stands where it may. -/
def IsOrderly (ls : List Lexeme) : Prop := (ls.foldlM Position.next .free).isSome = true

instance : DecidablePred IsOrderly := fun _ ↦ inferInstanceAs (Decidable (_ = true))

/-! ### Expressions in an assembly -/

/-- The numbers in an expression from left to right. -/
def Expression.numbers : Expression → List Number
  | number n => [n]
  | negative e => e.numbers
  | operation _ a b => a.numbers ++ b.numbers

/-- Where all numbers are integers, so is the value. -/
theorem Expression.exists_value_eq_int {e : Expression} (h : ∀ x, .float x ∉ e.numbers) :
    ∃ i : Int, e.value = .ok (.int i) := by
  induction e with
  | number n =>
    cases n with
    | int i => exact ⟨i, rfl⟩
    | float x => exact absurd List.mem_cons_self (h x)
  | negative e ih =>
    obtain ⟨i, hi⟩ := ih h
    exact ⟨-i, by simp [value, hi, Except.map, Number.opposite]⟩
  | operation op a b iha ihb =>
    obtain ⟨i, hi⟩ := iha fun x hx ↦ h x (List.mem_append_left _ hx)
    obtain ⟨j, hj⟩ := ihb fun x hx ↦ h x (List.mem_append_right _ hx)
    simp only [value, hi, hj, bind, Except.bind]
    cases op <;> exact ⟨_, rfl⟩

/-- A step that waits in an orderly expression: a sign or an operation. -/
inductive Instruction.IsOperator : Instruction → Prop where
  | negate : IsOperator (.unary .negate)
  | operation (op : Operation) : IsOperator (.binary op.operator)

/-- Whether a step takes two operands. -/
def Instruction.isBinary : Instruction → Bool
  | .binary _ => true
  | _ => false

/-- How many operators that wait take two operands. -/
def binaries (ws : List Waiting) : Nat := ws.countP (·.instruction.isBinary)

@[simp]
theorem binaries_negate (k : Int) (ws : List Waiting) :
    binaries (⟨.unary .negate, k⟩ :: ws) = binaries ws := by
  simp [binaries, Instruction.isBinary]

@[simp]
theorem binaries_binary (op : Binary) (k : Int) (ws : List Waiting) :
    binaries (⟨.binary op, k⟩ :: ws) = binaries ws + 1 := by
  simp [binaries, Instruction.isBinary]

/-- The program of expressions, the last of which comes first. -/
def stacked (es : List Expression) : Program := es.reverse.flatMap Expression.postfixed

/-- The numbers in expressions, the last of which comes first. -/
def stackedNumbers (es : List Expression) : List Number := es.reverse.flatMap Expression.numbers

@[simp]
theorem stacked_cons (e : Expression) (es : List Expression) :
    stacked (e :: es) = stacked es ++ e.postfixed := by
  simp [stacked]

@[simp]
theorem stackedNumbers_cons (e : Expression) (es : List Expression) :
    stackedNumbers (e :: es) = stackedNumbers es ++ e.numbers := by
  simp [stackedNumbers]

/-- Operators that become ready take the expressions that stand last together. -/
theorem exists_stacked_of_ready {ready below : List Waiting} {es : List Expression}
    (hr : ∀ w ∈ ready, w.instruction.IsOperator)
    (hn : es.length = binaries (ready ++ below) + 1) :
    ∃ fs, fs.length = binaries below + 1 ∧ stacked fs = stacked es ++ ready.map (·.instruction) ∧
      stackedNumbers fs = stackedNumbers es := by
  induction ready generalizing es with
  | nil => exact ⟨es, hn, by simp, rfl⟩
  | cons w ready ih =>
    obtain ⟨hw, hready⟩ := List.forall_mem_cons.mp hr
    obtain ⟨i, k⟩ := w
    cases hw with
    | negate =>
      obtain ⟨e, es, rfl⟩ := List.exists_cons_of_length_eq_add_one hn
      have hn' : (Expression.negative e :: es).length = binaries (ready ++ below) + 1 := hn
      obtain ⟨fs, hlength, hsteps, hnumbers⟩ := ih hready hn'
      refine ⟨fs, hlength, ?_, ?_⟩
      · simpa [Expression.postfixed] using hsteps
      · simpa [Expression.numbers] using hnumbers
    | operation op =>
      rw [List.cons_append, binaries_binary] at hn
      obtain ⟨b, es, rfl⟩ := List.exists_cons_of_length_eq_add_one hn
      obtain ⟨a, es, rfl⟩ := List.exists_cons_of_length_eq_add_one (Nat.succ.inj hn)
      have hn' : (Expression.operation op a b :: es).length = binaries (ready ++ below) + 1 :=
        Nat.succ.inj hn
      obtain ⟨fs, hlength, hsteps, hnumbers⟩ := ih hready hn'
      refine ⟨fs, hlength, ?_, ?_⟩
      · simpa [Expression.postfixed] using hsteps
      · simpa [Expression.numbers] using hnumbers

namespace Assembly

/-- An operator comes to wait: those that are ready are taken, and the others wait below it. -/
theorem exists_push_eq (a : Assembly) (i : Instruction) (k : Int) (demand : Nat)
    (e : Expectation) :
    ∃ ready below, a.waiting = ready ++ below ∧ a.push i k demand e =
      { a with
        expected := e
        waiting := ⟨i, k + bracketPriority * a.depth⟩ :: below
        output := (ready.map (·.instruction)).reverse ++ a.output
        demand := a.demand + demand } := by
  obtain ⟨below, hb⟩ := List.takeWhile_prefix (l := a.waiting)
    fun w ↦ decide (k + bracketPriority * a.depth ≤ w.priority)
  refine ⟨_, below, hb.symm, ?_⟩
  have hdrop := congrArg (List.drop (a.waiting.takeWhile
    fun w ↦ decide (k + bracketPriority * a.depth ≤ w.priority)).length) hb
  rw [List.drop_left] at hdrop
  rw [push, ← hdrop]

/-- An operator that has come to wait binds less tightly than one that binds more tightly. -/
theorem below_push (a : Assembly) (i : Instruction) {j k : Int} (hjk : j < k) (demand : Nat)
    (e : Expectation) : (a.push i j demand e).Below k := by
  intro w hw
  obtain rfl := Option.some.inj hw
  exact Int.add_lt_add_right hjk _

/-- How an assembly stands that has come to a position: what it expects, and where an operand has to
come, how loosely the operator in front of it binds. -/
inductive Stands (a : Assembly) : Position → Prop where
  | operand (he : a.expected.allowsClosing = true) : Stands a .operand
  | opened (he : a.expected = .opened) (hw : a.Below signPriority) : Stands a .opened
  | free (he : a.expected = .start) (hw : a.Below signPriority) : Stands a .free
  | bound (he : a.expected = .start) (hw : a.Below (signPriority + 1)) : Stands a .bound

/-- An assembly holds expressions: one for the first operand of every operator that waits for its
second one, and one more behind an operand. -/
structure Holds (a : Assembly) (p : Position) (ns : List Number) (es : List Expression) : Prop where
  steps : a.output.reverse = stacked es
  numbers : stackedNumbers es = ns
  operators : ∀ w ∈ a.waiting, w.instruction.IsOperator
  count : es.length + p.missing = binaries a.waiting + 1

/-- How many steps there are, with the operators that wait and an operand that has to come. -/
def reckoned (a : Assembly) (p : Position) : Nat :=
  a.output.length + a.waiting.length + p.missing

/-- An assembly that has taken in orderly lexemes with some numbers. It has no more steps than
its operators ask for, and if it has as many, no operator went without a first operand. -/
structure Orderly (a : Assembly) (p : Position) (ns : List Number) : Prop where
  stands : a.Stands p
  reckoned_le : a.reckoned p ≤ a.demand + 1
  holds : a.reckoned p = a.demand + 1 → ∃ es, a.Holds p ns es

/-! ### One lexeme -/

section
variable {a b : Assembly} {p q : Position} {ns : List Number}

/-- An operand may come where one has to come, and nowhere else. -/
theorem Stands.allowsOperand (h : a.Stands p) : a.expected.allowsOperand = (p.missing == 1) := by
  cases h with
  | operand he =>
    cases hx : a.expected <;> simp_all [Expectation.allowsClosing, Expectation.allowsOperand]
  | opened he | free he | bound he => rw [he]; rfl

/-- A number is the operand that has to come. -/
theorem Orderly.number (h : a.Orderly p ns) (hp : p.missing = 1) (n : Number) :
    (a.emit (.constant (.number n)) .operand).Orderly .operand (ns ++ [n]) := by
  have hr : (a.emit (.constant (.number n)) .operand).reckoned .operand = a.reckoned p := by
    simp only [reckoned, emit, List.length_cons, Position.missing_operand, hp]
    omega
  refine ⟨.operand rfl, hr ▸ h.reckoned_le, fun he ↦ ?_⟩
  obtain ⟨es, hes⟩ := h.holds (hr ▸ he)
  refine ⟨.number n :: es, ?_, ?_, hes.operators, ?_⟩
  · rw [emit, List.reverse_cons, hes.steps, stacked_cons]
    rfl
  · rw [stackedNumbers_cons, hes.numbers]
    rfl
  · exact (hp ▸ hes.count : es.length + 1 = binaries a.waiting + 1)

/-- An operation behind an operand takes expressions together and waits for another operand. -/
theorem Orderly.operation (h : a.Orderly .operand ns) (op : Operation) :
    (a.operator op.operator).Orderly (.behind op) ns := by
  have hstands : (a.operator op.operator).Stands (.behind op) := by
    cases op with
    | sum => exact .free rfl (below_push a _ (by decide) _ _)
    | difference => exact .free rfl (below_push a _ (by decide) _ _)
    | product => exact .bound rfl (below_push a _ (by decide) _ _)
  obtain ⟨ready, below, hw, hpush⟩ :=
    a.exists_push_eq (.binary op.operator) op.operator.priority 2 .start
  have hr : (a.operator op.operator).reckoned (.behind op) = a.reckoned .operand + 2 := by
    simp only [operator, hpush, reckoned, hw, Position.missing_behind, Position.missing_operand,
      List.length_append, List.length_cons, List.length_reverse, List.length_map]
    omega
  have hdemand : (a.operator op.operator).demand = a.demand + 2 := rfl
  refine ⟨hstands, by have := h.reckoned_le; omega, fun he ↦ ?_⟩
  obtain ⟨es, hes⟩ := h.holds (by omega)
  have hoperators := hes.operators
  rw [hw] at hoperators
  have hcount : es.length = binaries (ready ++ below) + 1 := hw ▸ hes.count
  obtain ⟨fs, hlength, hsteps, hnumbers⟩ := exists_stacked_of_ready
    (fun w hm ↦ hoperators w (List.mem_append_left _ hm)) hcount
  rw [operator, hpush]
  refine ⟨fs, ?_, hnumbers.trans hes.numbers, ?_, ?_⟩
  · rw [List.reverse_append, List.reverse_reverse, hes.steps, hsteps]
  · exact List.forall_mem_cons.mpr
      ⟨.operation op, fun w hm ↦ hoperators w (List.mem_append_right _ hm)⟩
  · simp [hlength]

/-- A sign waits where no operator has to be taken before it. -/
theorem Orderly.sign (h : a.Orderly p ns) (hp : p.missing = 1) (hw : a.Below signPriority) :
    (a.push (.unary .negate) signPriority 1 .start).Orderly .bound ns := by
  have hpush := push_eq (.unary .negate) 1 .start (List.nil_append a.waiting).symm (by simp) hw
  have hr : (a.push (.unary .negate) signPriority 1 .start).reckoned .bound =
      a.reckoned p + 1 := by
    simp only [hpush, reckoned, hp, Position.missing_bound, List.length_cons, List.map_nil,
      List.reverse_nil, List.nil_append]
    omega
  have hdemand : (a.push (.unary .negate) signPriority 1 .start).demand = a.demand + 1 := rfl
  refine ⟨.bound rfl (below_push a _ (by decide) _ _), by have := h.reckoned_le; omega,
    fun he ↦ ?_⟩
  obtain ⟨es, hes⟩ := h.holds (by omega)
  have hcount := hes.count
  rw [hpush]
  refine ⟨es, hes.steps, hes.numbers, List.forall_mem_cons.mpr ⟨.negate, hes.operators⟩, ?_⟩
  simpa [hp] using hcount

/-- A product without a first operand asks for a step that there is not. -/
theorem Orderly.product (h : a.Orderly p ns) (hp : p.missing = 1) :
    (a.operator .multiply).Orderly .bound ns := by
  obtain ⟨ready, below, hw, hpush⟩ :=
    a.exists_push_eq (.binary .multiply) Binary.multiply.priority 2 .start
  have hr : (a.operator .multiply).reckoned .bound = a.reckoned p + 1 := by
    simp only [operator, hpush, reckoned, hw, hp, Position.missing_bound, List.length_append,
      List.length_cons, List.length_reverse, List.length_map]
    omega
  have hdemand : (a.operator .multiply).demand = a.demand + 2 := rfl
  have hle := h.reckoned_le
  exact ⟨.bound rfl (below_push a _ (by decide) _ _), by omega, fun he ↦ by omega⟩

/-- Where an operand has to come, the operator in front binds no more tightly than a sign. -/
theorem Stands.below (h : a.Stands p) (hp : p.missing = 1) : a.Below (signPriority + 1) := by
  cases h with
  | operand => cases hp
  | opened he hw | free he hw => exact hw.mono (by decide)
  | bound he hw => exact hw

/-- What an assembly holds does not depend on what it expects and how many brackets are open. -/
theorem Orderly.withExpected (h : a.Orderly p ns) (hq : q.missing = p.missing) {e : Expectation}
    {depth : Int} (hs : Stands { a with expected := e, depth } q) :
    Orderly { a with expected := e, depth } q ns := by
  have hr : reckoned { a with expected := e, depth } q = a.reckoned p := by
    simp only [reckoned, hq]
  refine ⟨hs, hr ▸ h.reckoned_le, fun he ↦ ?_⟩
  obtain ⟨es, hes⟩ := h.holds (hr ▸ he)
  exact ⟨es, hes.steps, hes.numbers, hes.operators, hq ▸ hes.count⟩

/-- An operator behind an operand is an operation. -/
theorem exists_operation_of_next {op : Binary}
    (h : Position.operand.next (.operator op) = some q) :
    ∃ o : Operation, o.operator = op ∧ .behind o = q := by
  cases op <;> cases h
  · exact ⟨.product, rfl, rfl⟩
  · exact ⟨.sum, rfl, rfl⟩
  · exact ⟨.difference, rfl, rfl⟩

/-- An operator in front of an operand is a sign or a product that has no first operand. -/
theorem Orderly.prefixed {op : Binary} (h : a.Orderly p ns) (hp : p.missing = 1)
    (hq : p.next (.operator op) = some q) (hf : a.feed (.operator op) = .ok b) :
    b.Orderly q ns := by
  have hoperand : a.expected.allowsOperand = true := h.stands.allowsOperand.trans (by simp [hp])
  simp only [feed, hoperand, if_true] at hf
  cases h.stands with
  | operand => cases hp
  | opened he hw | free he hw =>
    cases op <;> cases hq <;> cases hf
    · exact h.product rfl
    · exact h.withExpected (q := .free) rfl (.free rfl hw)
    · exact h.sign rfl hw
  | bound he hw =>
    cases op <;> cases hq <;> cases hf
    · exact h.product rfl
    · exact h.withExpected rfl (.bound rfl hw)

/-- A bracket that opens in front of an operand raises what the sign behind it is compared with. -/
theorem Orderly.opening (h : a.Orderly p ns) (hq : p.next .opening = some q)
    (hf : a.feed .opening = .ok b) : b.Orderly q ns := by
  have hraised (hw : a.Below (signPriority + 1)) :
      Below { a with expected := .opened, depth := a.depth + 1 } signPriority := by
    intro w hm
    have := hw w hm
    simp only [bracketPriority] at this ⊢
    omega
  have hbelow := h.stands.below
  cases h.stands with
  | operand => cases hq
  | opened he | free he | bound he =>
    cases hq
    simp only [feed, he] at hf
    cases hf
    exact h.withExpected (q := .opened) rfl (.opened rfl (hraised (hbelow rfl)))

/-- A bracket is closed behind an operand. -/
theorem Orderly.closing (h : a.Orderly p ns) (hq : p.next .closing = some q)
    (hf : a.feed .closing = .ok b) : b.Orderly q ns := by
  cases h.stands with
  | operand he =>
    cases hq
    have hne : a.expected ≠ .opened := by
      intro hx
      rw [hx] at he
      cases he
    simp only [feed, if_neg hne, he, if_true] at hf
    cases hf
    exact h.withExpected rfl (.operand rfl)
  | opened => cases hq
  | free he | bound he =>
    simp only [feed, he] at hf
    cases hf

/-- A lexeme that stands where it may keeps an assembly orderly. -/
theorem Orderly.feed {l : Lexeme} (h : a.Orderly p ns) (hq : p.next l = some q)
    (hf : a.feed l = .ok b) : b.Orderly q (ns ++ l.number?.toList) := by
  have same {m : Lexeme} (hm : m.number? = none) : ns ++ m.number?.toList = ns := by simp [hm]
  cases l with
  | blank =>
    cases hq
    cases hf
    rw [same rfl]
    exact h
  | number n =>
    cases hf
    cases p with
    | operand => cases hq
    | opened | free | bound =>
      cases hq
      exact h.number rfl n
  | operator op =>
    rw [same rfl]
    cases p with
    | operand =>
      obtain ⟨o, rfl, rfl⟩ := exists_operation_of_next hq
      have hoperand : a.expected.allowsOperand = false := h.stands.allowsOperand
      simp only [Assembly.feed, hoperand] at hf
      cases hf
      exact h.operation o
    | opened | free | bound => exact h.prefixed rfl hq hf
  | opening =>
    rw [same rfl]
    exact h.opening hq hf
  | closing =>
    rw [same rfl]
    exact h.closing hq hf
  | _ => cases p <;> cases hq

/-! ### A whole text -/

/-- Orderly lexemes keep an assembly orderly. -/
theorem Orderly.feedAll {ls : List Lexeme} (h : a.Orderly p ns)
    (hq : ls.foldlM Position.next p = some q) (hf : a.feedAll ls = .ok b) :
    b.Orderly q (ns ++ ls.filterMap Lexeme.number?) := by
  induction ls generalizing a p ns with
  | nil =>
    cases hq
    cases hf
    simpa using h
  | cons l ls ih =>
    rw [List.foldlM_cons] at hq
    obtain ⟨next, hnext, hq⟩ := Option.bind_eq_some_iff.mp hq
    rw [Assembly.feedAll, List.foldlM_cons] at hf
    obtain ⟨fed, hfed, hf⟩ := Template.bind_eq_ok hf
    have := ih (h.feed hnext hfed) hq hf
    cases hl : l.number? <;> simpa [hl] using this

/-- The program of an orderly assembly is an expression. -/
theorem Orderly.finish {program : Program} (h : a.Orderly p ns) (hf : a.finish = .ok program) :
    ∃ e : Expression, e.postfixed = program ∧ e.numbers = ns := by
  have hlength : a.reckoned p = a.demand + 1 + p.missing ∧
      a.output.reverse ++ a.waiting.map (·.instruction) = program := by
    unfold Assembly.finish at hf
    dsimp only at hf
    split at hf
    · cases hf
    · split at hf
      · cases hf
      · next hparity =>
        cases hf
        have : a.demand + 1 = a.output.length + a.waiting.length := by simpa using hparity
        exact ⟨by rw [reckoned, this], rfl⟩
  -- no operand is missing, so every operator that waits has its operands
  have hle := h.reckoned_le
  obtain ⟨es, hes⟩ := h.holds (by omega)
  have hcount : es.length = binaries (a.waiting ++ []) + 1 := by
    have := hes.count
    rw [List.append_nil]
    omega
  obtain ⟨fs, hfs, hsteps, hnumbers⟩ := exists_stacked_of_ready hes.operators hcount
  obtain ⟨e, rfl⟩ := List.length_eq_one_iff.mp hfs
  refine ⟨e, ?_, ?_⟩
  · rw [← hlength.2, hes.steps, ← hsteps]
    simp [stacked]
  · rw [← hes.numbers, ← hnumbers]
    simp [stackedNumbers]

end

/-- At the start there are no steps. -/
theorem orderly_start : Orderly {} .free [] :=
  ⟨.free rfl nofun, Nat.le_refl _, fun _ ↦ ⟨[], rfl, rfl, nofun, rfl⟩⟩

end Assembly

/-- A text that has a program is read as lexemes. -/
theorem Program.exists_readAll_of_compile {text : String} {p : Program}
    (h : compile text = .ok p) : ∃ ls, Lexeme.ReadAll text.toList ls := by
  unfold compile at h
  dsimp only at h
  split at h
  · cases h
  · next a ha =>
    obtain ⟨ls, hls, -⟩ := Assembly.exists_readAll_of_run ha
    exact ⟨ls, hls⟩

/-- A text that is read as orderly lexemes has an expression for its program, if it has a program,
with the numbers that are read. -/
theorem Program.exists_postfixed_eq_of_isOrderly {text : String} {ls : List Lexeme} {p : Program}
    (hr : Lexeme.ReadAll text.toList ls) (ho : IsOrderly ls) (hc : compile text = .ok p) :
    ∃ e : Expression, e.postfixed = p ∧ e.numbers = ls.filterMap Lexeme.number? := by
  unfold compile at hc
  dsimp only at hc
  split at hc
  · cases hc
  · next a ha =>
    obtain ⟨ms, hms, ha⟩ := Assembly.exists_readAll_of_run ha
    obtain rfl := hr.unique hms
    obtain ⟨q, hq⟩ := Option.isSome_iff_exists.mp ho
    have horderly := Assembly.orderly_start.feedAll hq ha
    cases hf : a.finish with
    | error e =>
      rw [hf] at hc
      cases hc
    | ok program =>
      rw [hf] at hc
      cases hc
      exact horderly.finish hf

end CharacterSheet.Arithmetic
