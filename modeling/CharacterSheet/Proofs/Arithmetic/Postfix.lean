import CharacterSheet.Arithmetic.Program

/-!
# Programs that are expressions

A program takes its operands from a stack, so it has a value only where every operator comes
behind its operands. Main statement: a program of numbers, signs, sums, differences and products,
with empty brackets, calls and unknown names in between as the assembly lets them pass, comes to a
number exactly when it is an expression with its operators behind their operands, in which no
integer that is too large for a double is calculated with a double.
-/

namespace CharacterSheet
open Arithmetic.Template (bind_eq_ok)

/-- The number with the other sign. -/
def Number.opposite : Number → Number
  | .int n => .int (-n)
  | .float x => .float (-x)

namespace Arithmetic

/-- What two numbers are taken together for. -/
inductive Operation where
  | sum
  | difference
  | product
  deriving Repr, DecidableEq

namespace Operation

/-- The operator of an operation. -/
def operator : Operation → Binary
  | sum => .add
  | difference => .subtract
  | product => .multiply

/-- What an operation comes to. -/
def result : Operation → Number → Number → Except Error Number
  | sum => Calculation.sum
  | difference => Calculation.difference
  | product => Calculation.product

end Operation

/-- An expression with numbers, signs and operations. -/
inductive Expression where
  | number (n : Number)
  | negative (e : Expression)
  | operation (op : Operation) (a b : Expression)

namespace Expression

/-- An expression as a program, with every operator behind its operands. -/
def postfixed : Expression → Program
  | number n => [.constant (.number n)]
  | negative e => e.postfixed ++ [.unary .negate]
  | operation op a b => a.postfixed ++ b.postfixed ++ [.binary op.operator]

/-- The number that an expression denotes. -/
def value : Expression → Except Error Number
  | number n => .ok n
  | negative e => e.value.map Number.opposite
  | operation op a b => do
    let m ← a.value
    op.result m (← b.value)

end Expression

/-- Of two numbers, if one is a double and the other an integer, that is not too large for a
double. -/
def FitTogether : Number → Number → Prop
  | .int n, .float _ | .float _, .int n => (Binary64.ofInt? n).isSome
  | .int _, .int _ | .float _, .float _ => True

/-- No integer that is too large for a double is calculated with a double. -/
def Expression.Fits : Expression → Prop
  | number _ => True
  | negative e => e.Fits
  | operation _ a b => a.Fits ∧ b.Fits ∧
    ∀ m n, a.value = .ok m → b.value = .ok n → FitTogether m n

/-- A step that the assembly lets pass among numbers, signs and operations: besides these, empty
brackets, a call, and a name that is not known. -/
inductive Instruction.IsPlain : Instruction → Prop where
  | number (n : Number) : IsPlain (.constant (.number n))
  | negate : IsPlain (.unary .negate)
  | operation (op : Operation) : IsPlain (.binary op.operator)
  | emptyList : IsPlain .emptyList
  | call : IsPlain .call
  | unknown {name : String} (h : Function.named.lookup name = none) : IsPlain (.variable name)

/-! ### Operations -/

namespace Operation

/-- An operation is given for integers and for doubles, and comes to something for both. -/
theorem exists_result_eq (op : Operation) : ∃ (f : Int → Int → Number) (g : Float → Float → Number),
    op.result = calculate (fun a b ↦ .ok (f a b)) fun x y ↦ .ok (g x y) := by
  cases op <;> exact ⟨_, _, rfl⟩

/-- Two numbers can be taken together exactly when they fit. -/
theorem exists_result_iff (op : Operation) {m n : Number} :
    (∃ r, op.result m n = .ok r) ↔ FitTogether m n := by
  obtain ⟨f, g, hop⟩ := op.exists_result_eq
  rw [hop]
  cases m with
  | int a =>
    cases n with
    | int b => simp [calculate, FitTogether]
    | float y =>
      cases h : Binary64.ofInt? a <;>
        simp [calculate, onFloats, toFloat, FitTogether, h, bind, Except.bind]
  | float x =>
    cases n with
    | int b =>
      cases h : Binary64.ofInt? b <;>
        simp [calculate, onFloats, toFloat, FitTogether, h, bind, Except.bind]
    | float y => simp [calculate, onFloats, toFloat, FitTogether, bind, Except.bind]

/-- An operator on two numbers does what the operation does. -/
theorem apply_number (op : Operation) (m n : Number) :
    op.operator.apply (.number m) (.number n) = liftM ((op.result m n).map Value.number) := by
  cases op <;> rfl

/-- A new list is a list. -/
theorem eq_list_of_newList {x : Evaluating (List Value)} {u : Value} {lists next : Lists}
    (h : (x >>= newList).run lists = .ok (u, next)) : ∃ p, u = .list p := by
  rw [StateT.run_bind] at h
  obtain ⟨r, -, h⟩ := bind_eq_ok h
  cases h
  exact ⟨_, rfl⟩

/-- An operator on two values of which one is a list and the other a list or a number comes to a
list, if it comes to anything. -/
theorem apply_list (op : Operation) {v w u : Value} {lists next : Lists}
    (h : (op.operator.apply v w).run lists = .ok (u, next))
    (hvw : (∃ p, v = .list p) ∧ ((∃ n, w = .number n) ∨ ∃ q, w = .list q) ∨
      (∃ m, v = .number m) ∧ ∃ q, w = .list q) : ∃ p, u = .list p := by
  obtain ⟨⟨p, rfl⟩, ⟨n, rfl⟩ | ⟨q, rfl⟩⟩ | ⟨⟨m, rfl⟩, ⟨q, rfl⟩⟩ := hvw <;> cases op
  case inl.inr.sum =>
    exact eq_list_of_newList (x := do return (← itemsOf p) ++ (← itemsOf q)) h
  case inl.inl.product =>
    exact eq_list_of_newList (x := do repeatedBy (← itemsOf p) (.number n) .noRoom) h
  case inl.inr.product =>
    exact eq_list_of_newList (x := do repeatedBy (← itemsOf p) (.list q) .noRoom) h
  case inr.product =>
    exact eq_list_of_newList (x := do repeatedBy (← itemsOf q) (.number m) .noRoom) h
  all_goals cases h

end Operation

/-! ### Expressions as programs -/

namespace Expression

/-- An expression has a value exactly when its numbers fit together. -/
theorem exists_value_iff (e : Expression) : (∃ n, e.value = .ok n) ↔ e.Fits := by
  induction e with
  | number n => simp [value, Fits]
  | negative e ih =>
    simp only [Fits, ← ih]
    cases h : e.value <;> simp [value, h, Except.map]
  | operation op a b iha ihb =>
    simp only [Fits, ← iha, ← ihb, value]
    cases ha : a.value with
    | error => simp [bind, Except.bind]
    | ok m =>
      cases hb : b.value with
      | error => simp [bind, Except.bind]
      | ok n => simpa [bind, Except.bind] using op.exists_result_iff

/-- The program of an expression puts its value on the stack. -/
theorem run_postfixed {e : Expression} {n : Number} (h : e.value = .ok n)
    (known : List (String × Value)) (stack : List Value) :
    Program.run known stack e.postfixed = pure (.number n :: stack) := by
  induction e generalizing n stack with
  | number m =>
    cases h
    rfl
  | negative e ih =>
    obtain ⟨m, hm, rfl⟩ : ∃ m, e.value = .ok m ∧ m.opposite = n := by
      cases he : e.value <;> simp_all [value, Except.map]
    rw [postfixed, Program.run_append, ih hm, pure_bind]
    cases m <;> rfl
  | operation op a b iha ihb =>
    obtain ⟨l, m, hl, hm, hr⟩ : ∃ l m, a.value = .ok l ∧ b.value = .ok m ∧
        op.result l m = .ok n := by
      cases ha : a.value <;> cases hb : b.value <;> simp_all [value, bind, Except.bind]
    rw [postfixed, Program.run_append, Program.run_append, iha hl, pure_bind, ihb hm, pure_bind]
    have : op.operator.apply (.number l) (.number m) = pure (.number n) := by
      rw [op.apply_number, hr]
      rfl
    simp [Program.run, Program.step, this]

end Expression

/-! ### Programs as expressions -/

/-- What a part of a program leaves on the stack: the value of the expression that it is, or a
list. -/
inductive Leaves : Program → Value → Prop where
  | expression {e : Expression} {n : Number} (h : e.value = .ok n) :
    Leaves e.postfixed (.number n)
  | list (p : Program) (place : Nat) : Leaves p (.list place)

/-- A program of parts that leave the values of a stack, the last one on top. -/
inductive LeavesAll : Program → List Value → Prop where
  | nil : LeavesAll [] []
  | cons {p q : Program} {stack : List Value} {v : Value} (hp : LeavesAll p stack)
    (hq : Leaves q v) : LeavesAll (p ++ q) (v :: stack)

/-- A sign takes a number and leaves a number. -/
theorem Leaves.negate {p : Program} {v u : Value} {lists : Lists} (hp : Leaves p v)
    (h : Unary.negate.apply lists v = .ok u) : Leaves (p ++ [.unary .negate]) u := by
  cases hp with
  | @expression e n he =>
    obtain rfl : u = .number n.opposite := by
      cases n <;> cases h <;> rfl
    exact .expression (e := .negative e) (by simp [Expression.value, he, Except.map])
  | list => cases h

/-- An operation takes two numbers and leaves a number, or it leaves a list. -/
theorem Leaves.operation {p q : Program} {v w u : Value} {lists next : Lists} (hp : Leaves p v)
    (hq : Leaves q w) (op : Operation) (h : (op.operator.apply v w).run lists = .ok (u, next)) :
    Leaves (p ++ q ++ [.binary op.operator]) u := by
  cases hp with
  | @expression a m ha =>
    cases hq with
    | @expression b n hb =>
      rw [op.apply_number] at h
      cases hr : op.result m n with
      | error => rw [hr] at h; cases h
      | ok r =>
        rw [hr] at h
        cases h
        exact .expression (e := .operation op a b)
          (by simp [Expression.value, ha, hb, hr, bind, Except.bind])
    | list _ place =>
      obtain ⟨_, rfl⟩ := op.apply_list h (.inr ⟨⟨m, rfl⟩, place, rfl⟩)
      exact .list _ _
  | list _ place =>
    cases hq with
    | @expression _ n _ =>
      obtain ⟨_, rfl⟩ := op.apply_list h (.inl ⟨⟨place, rfl⟩, .inl ⟨n, rfl⟩⟩)
      exact .list _ _
    | list _ other =>
      obtain ⟨_, rfl⟩ := op.apply_list h (.inl ⟨⟨place, rfl⟩, .inr ⟨other, rfl⟩⟩)
      exact .list _ _

/-- Neither a number nor a list can be called. -/
theorem Leaves.call_ne_ok {p : Program} {f argument u : Value} {lists next : Lists}
    (hp : Leaves p f) : (Program.call f argument).run lists ≠ .ok (u, next) := by
  cases hp <;> nofun

/-- A value that a step puts on the stack was computed first. -/
theorem exists_of_put {x : Evaluating Value} {below next : List Value} {lists after : Lists}
    (h : (x >>= fun u ↦ pure (u :: below)).run lists = .ok (next, after)) :
    ∃ u, x.run lists = .ok (u, after) ∧ next = u :: below := by
  rw [StateT.run_bind] at h
  obtain ⟨r, hr, h⟩ := bind_eq_ok h
  cases h
  exact ⟨_, hr, rfl⟩

/-- A plain step takes the parts together whose values it takes. -/
theorem LeavesAll.step {p : Program} {stack next : List Value} {i : Instruction}
    {lists after : Lists} (hp : LeavesAll p stack) (hi : i.IsPlain)
    (h : (Program.step [] stack i).run lists = .ok (next, after)) :
    LeavesAll (p ++ [i]) next := by
  cases hi with
  | number n =>
    cases h
    exact hp.cons (.expression (e := .number n) rfl)
  | emptyList =>
    cases h
    exact hp.cons (.list _ _)
  | @unknown name hn =>
    have hu : Program.valueOf [] name = .error (.undefinedVariable name) := by
      simp [Program.valueOf, hn]
    obtain ⟨_, hr, -⟩ := exists_of_put (x := Program.valueOf [] name) h
    rw [hu] at hr
    cases hr
  | negate =>
    cases hp with
    | nil => cases h
    | @cons q r below v hq hr =>
      obtain ⟨u, hu, rfl⟩ :=
        exists_of_put (x := do Unary.negate.apply (← get) v) h
      have hv : Unary.negate.apply lists v = .ok u := by
        change (Unary.negate.apply lists v >>= fun u ↦ pure (u, lists)) = _ at hu
        cases hv : Unary.negate.apply lists v <;> rw [hv] at hu <;> cases hu
        rfl
      rw [List.append_assoc]
      exact hq.cons (hr.negate hv)
  | operation op =>
    cases hp with
    | nil => cases h
    | @cons _ r below w hq hr =>
      cases hq with
      | nil => cases h
      | @cons p q below v hp hq =>
        obtain ⟨u, hu, rfl⟩ := exists_of_put (x := op.operator.apply v w) h
        simpa using hp.cons (hq.operation hr op hu)
  | call =>
    cases hp with
    | nil => cases h
    | @cons _ r below argument hq hr =>
      cases hq with
      | nil => cases h
      | @cons p q below f hp hq =>
        obtain ⟨u, hu, -⟩ := exists_of_put (x := Program.call f argument) h
        exact (hq.call_ne_ok hu).elim

/-- What a plain program leaves on the stack, the parts of the program leave one by one. -/
theorem LeavesAll.run {p q : Program} {stack next : List Value} {lists after : Lists}
    (hq : LeavesAll q stack) (hp : ∀ i ∈ p, i.IsPlain)
    (h : (Program.run [] stack p).run lists = .ok (next, after)) : LeavesAll (q ++ p) next := by
  induction p generalizing q stack lists with
  | nil =>
    cases h
    simpa using hq
  | cons i p ih =>
    rw [Program.run, List.foldlM_cons, StateT.run_bind] at h
    obtain ⟨⟨mid, between⟩, hi, h⟩ := bind_eq_ok h
    obtain ⟨hplain, hrest⟩ := List.forall_mem_cons.mp hp
    simpa using ih (hq.step hplain hi) hrest h

namespace Program

/-- A plain program comes to a number exactly when it is an expression with a value. -/
theorem toNumber_value_iff {p : Program} (hp : ∀ i ∈ p, i.IsPlain) (lists : Lists) {n : Number} :
    ((p.value []).run lists >>= fun result ↦ result.1.toNumber) = .ok n ↔
      ∃ (e : Expression) (m : Number), e.postfixed = p ∧ e.value = .ok m ∧ m.fold = n := by
  constructor
  · intro h
    obtain ⟨⟨v, last⟩, hv, h⟩ := bind_eq_ok h
    rw [value, StateT.run_bind] at hv
    obtain ⟨⟨stack, after⟩, hr, hv⟩ := bind_eq_ok hv
    -- the program has a value only where one part of it leaves the one value of the stack
    cases LeavesAll.nil.run hp hr with
    | nil => cases hv
    | cons hq hleft =>
      cases hq with
      | cons => cases hv
      | nil =>
        cases hv
        cases hleft with
        | @expression e m he =>
          cases h
          exact ⟨e, m, rfl, he, rfl⟩
        | list => cases h
  · rintro ⟨e, m, rfl, he, rfl⟩
    rw [value, e.run_postfixed he]
    rfl

/-- A plain program comes to a number exactly when it is an expression in which no integer that is
too large for a double is calculated with a double. -/
theorem exists_toNumber_value_iff {p : Program} (hp : ∀ i ∈ p, i.IsPlain) (lists : Lists) :
    (∃ n, ((p.value []).run lists >>= fun result ↦ result.1.toNumber) = .ok n) ↔
      ∃ e : Expression, e.postfixed = p ∧ e.Fits := by
  simp only [toNumber_value_iff hp, ← Expression.exists_value_iff]
  constructor
  · rintro ⟨_, e, m, hep, he, -⟩
    exact ⟨e, hep, m, he⟩
  · rintro ⟨e, hep, m, he⟩
    exact ⟨_, e, m, hep, he, rfl⟩

end Program
end Arithmetic
end CharacterSheet
