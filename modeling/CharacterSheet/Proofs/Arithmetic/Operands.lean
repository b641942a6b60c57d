import CharacterSheet.Proofs.Arithmetic.Parts

/-!
# Operands in an assembly

Lexemes that form an operand leave two things behind: steps that are taken already, and operators
of their own that still wait. Both together are a program for the value of the operand. An
operand binds as tightly as the loosest of its own operators; it must not come behind a waiting
operator that binds as tightly, because that operator would be taken before its second operand.
Main statements: how operands are made of literals, signs, operators and brackets.
-/

namespace CharacterSheet.Arithmetic

/-! ### What programs compute -/

/-- A program puts an integer on the stack, whatever is there. -/
def Program.Computes (p : Program) (v : Int) : Prop :=
  ∀ known stack, Program.run known stack p = pure (.int v :: stack)

namespace Program.Computes
variable {p q : Program} {v w : Int}

theorem constant (v : Int) : Computes [.constant (.int v)] v := fun _ _ ↦ rfl

theorem run_append (hp : Computes p v) (known : List (String × Value)) (stack : List Value)
    (q : Program) : Program.run known stack (p ++ q) = Program.run known (.int v :: stack) q := by
  rw [Program.run_append, hp, pure_bind]

/-- The negative of a computed integer. -/
theorem negate (hp : Computes p v) : Computes (p ++ [.unary .negate]) (-v) := by
  intro known stack
  rw [hp.run_append]
  rfl

/-- An operator on two computed integers. -/
theorem binary {op : Binary} {u : Int} (hp : Computes p v) (hq : Computes q w)
    (h : op.apply (.int v) (.int w) = pure (.int u)) : Computes (p ++ (q ++ [.binary op])) u := by
  intro known stack
  rw [hp.run_append, hq.run_append]
  simp only [Program.run, List.foldlM_cons, List.foldlM_nil, Program.step, h, pure_bind]

end Program.Computes

/-- A power of an integer with a natural as its exponent. -/
theorem power_apply (v : Int) (n : Nat) :
    Binary.apply .power (.int v) (.int n) = pure (.int (v ^ n)) := by
  have h : integerPower v n = .ok (.int (v ^ n)) := by
    rw [integerPower, if_pos (Int.natCast_nonneg n), Int.toNat_natCast, exactPower_eq]
  change (integerPower v n : Evaluating Value) = _
  rw [h]
  rfl

namespace Assembly

/-! ### Waiting operators -/

/-- The operator that waits last binds less tightly than one of the given priority that comes
now. -/
def Below (a : Assembly) (k : Int) : Prop :=
  ∀ w ∈ a.waiting.head?, w.priority < k + bracketPriority * a.depth

theorem Below.mono {a : Assembly} {j k : Int} (h : a.Below j) (hjk : j ≤ k) : a.Below k := by
  intro w hw
  have := h w hw
  omega

/-- An operator comes to wait when all that wait above a place are ready and the one below it is
not. -/
theorem push_eq {a : Assembly} {pending below : List Waiting} {k : Int} (i : Instruction)
    (demand : Nat) (e : Expectation) (hw : a.waiting = pending ++ below)
    (hp : ∀ w ∈ pending, k + bracketPriority * a.depth ≤ w.priority)
    (hb : ∀ w ∈ below.head?, w.priority < k + bracketPriority * a.depth) :
    a.push i k demand e =
      { a with
        expected := e
        waiting := ⟨i, k + bracketPriority * a.depth⟩ :: below
        output := (pending.map (·.instruction)).reverse ++ a.output
        demand := a.demand + demand } := by
  have hstop : below.takeWhile (fun w ↦ decide (k + bracketPriority * a.depth ≤ w.priority)) =
      [] := by
    cases below with
    | nil => rfl
    | cons w below =>
      have := hb w rfl
      exact List.takeWhile_cons_of_neg (by simpa using this)
  have hready : a.waiting.takeWhile
      (fun w ↦ decide (k + bracketPriority * a.depth ≤ w.priority)) = pending := by
    rw [hw, List.takeWhile_append_of_pos (by simpa using hp), hstop, List.append_nil]
  have hdrop : a.waiting.drop pending.length = below := by
    rw [hw, List.drop_left']
    rfl
  simp only [push, hready, hdrop]

/-- `b` is `a` after an operand: steps and waiting operators that are a program for it, and
operators that bind at least as tightly as `k`. -/
structure Took (a b : Assembly) (k : Int) (p : Program) : Prop where
  depth : b.depth = a.depth
  noOperand : b.expected.allowsOperand = false
  closing : b.expected.allowsClosing = true
  demand : b.demand + 1 = a.demand + p.length
  pending : ∃ pending, b.waiting = pending ++ a.waiting ∧
    (∀ w ∈ pending, k + bracketPriority * a.depth ≤ w.priority) ∧
    b.output.reverse ++ pending.map (·.instruction) = a.output.reverse ++ p

/-- `c` is `a` after the program of what stands before an operator, and the operator, which waits
alone. -/
structure Awaits (a c : Assembly) (i : Instruction) (k : Int) (p : Program) : Prop where
  depth : c.depth = a.depth
  operand : c.expected.allowsOperand = true
  waiting : c.waiting = ⟨i, k + bracketPriority * a.depth⟩ :: a.waiting
  output : c.output.reverse = a.output.reverse ++ p
  demand : c.demand = a.demand + p.length + 1

variable {a b c d : Assembly} {i : Instruction} {j k : Int} {p q : Program}

/-- An operand may be taken for one that binds more loosely. -/
theorem Took.mono (h : Took a b k p) (hjk : j ≤ k) : Took a b j p := by
  obtain ⟨pending, hw, hp, ho⟩ := h.pending
  refine ⟨h.depth, h.noOperand, h.closing, h.demand, pending, hw, ?_, ho⟩
  intro w hm
  have := hp w hm
  omega

/-- Behind an operand an operator that binds no more tightly makes all operators of the operand
ready, and no other. -/
theorem Took.operator (h : Took a b k p) (op : Binary) (hop : op.priority ≤ k)
    (hw : a.Below op.priority) :
    ∃ c, b.feed (.operator op) = .ok c ∧ Awaits a c (.binary op) op.priority p := by
  obtain ⟨pending, hwait, hp, ho⟩ := h.pending
  have hdemand := h.demand
  have hfeed : b.feed (.operator op) = .ok (b.operator op) := by
    simp only [feed, h.noOperand, Bool.false_eq_true, if_false]
  have hpush := push_eq (k := op.priority) (.binary op) 2 .start hwait (by
    intro w hm
    have := hp w hm
    rw [h.depth]
    omega) (by
    intro w hm
    rw [h.depth]
    exact hw w hm)
  refine ⟨b.operator op, hfeed, ?_⟩
  rw [Assembly.operator, hpush]
  refine ⟨h.depth, rfl, by rw [h.depth], ?_, ?_⟩
  · rw [List.reverse_append, List.reverse_reverse, ho]
  · change b.demand + 2 = _
    omega

/-- Where an operand may stand a sign waits for it. -/
theorem awaits_sign (ha : a.expected.allowsOperand = true) (hw : a.Below signPriority) :
    ∃ c, a.feed (.operator .subtract) = .ok c ∧
      Awaits a c (.unary .negate) signPriority [] := by
  have hpending : a.waiting = [] ++ a.waiting := rfl
  have hpush := push_eq (.unary .negate) 1 .start hpending (by simp) hw
  refine ⟨a.push (.unary .negate) signPriority 1 .start, by simp only [feed, ha, if_true], ?_⟩
  rw [hpush]
  exact ⟨rfl, rfl, rfl, (List.append_nil _).symm, rfl⟩

/-- An operand that binds more tightly may come behind an operator. -/
theorem Awaits.below (h : Awaits a c i j p) (hjk : j < k) : c.Below k := by
  intro w hm
  rw [h.waiting] at hm
  obtain rfl := Option.some.inj hm
  rw [h.depth]
  exact Int.add_lt_add_right hjk _

/-- The operator is taken behind what comes after it. -/
theorem Awaits.took (h : Awaits a c i j p) (ht : Took c d k q) (hjk : j ≤ k) :
    Took a d j (p ++ (q ++ [i])) := by
  obtain ⟨pending, hw, hp, ho⟩ := ht.pending
  have hdemand := h.demand
  have hdemand' := ht.demand
  refine ⟨ht.depth.trans h.depth, ht.noOperand, ht.closing, ?_,
    pending ++ [⟨i, j + bracketPriority * a.depth⟩], ?_, ?_, ?_⟩
  · simp only [List.length_append, List.length_singleton]
    omega
  · rw [hw, h.waiting, List.append_assoc]
    rfl
  · intro w hm
    rcases List.mem_append.mp hm with hm | hm
    · have := hp w hm
      rw [h.depth] at this
      omega
    · obtain rfl := List.mem_singleton.mp hm
      exact Int.le_refl _
  · rw [List.map_append, ← List.append_assoc, ho, h.output, List.append_assoc, List.append_assoc]
    rfl

end Assembly

/-! ### Operands -/

/-- Lexemes that are an operand: where an operand may stand and no waiting operator binds as
tightly, they leave a program for an integer behind. -/
def IsOperand (ls : List Lexeme) (k v : Int) : Prop :=
  ∀ a : Assembly, a.expected.allowsOperand = true → a.Below k →
    ∃ b p, a.feedAll ls = .ok b ∧ a.Took b k p ∧ p.Computes v

namespace IsOperand
variable {xs ys : List Lexeme} {j k v w : Int}

/-- An operand may be taken for one that binds more loosely. -/
theorem mono (h : IsOperand xs k v) (hjk : j ≤ k) : IsOperand xs j v := by
  intro a ha hw
  obtain ⟨b, p, hb, ht, hp⟩ := h a ha (hw.mono hjk)
  exact ⟨b, p, hb, ht.mono hjk, hp⟩

/-- A literal has no operators, so it binds as tightly as one likes. -/
theorem literal (n k : Int) : IsOperand [.number (.int n)] k n := by
  intro a ha hw
  refine ⟨a.emit (.constant (.int n)) .operand, [.constant (.int n)], rfl, ?_, .constant n⟩
  refine ⟨rfl, rfl, rfl, rfl, [], rfl, by simp, ?_⟩
  rw [List.map_nil, List.append_nil, Assembly.emit, List.reverse_cons]

/-- A sign is applied to the operand behind it. -/
theorem negate (hy : IsOperand ys k w) (hk : signPriority < k) :
    IsOperand (.operator .subtract :: ys) signPriority (-w) := by
  intro a ha hw
  obtain ⟨c, hc, hcw⟩ := Assembly.awaits_sign ha hw
  obtain ⟨d, q, hd, ht, hq⟩ := hy c hcw.operand (hcw.below hk)
  refine ⟨d, q ++ [.unary .negate], ?_, hcw.took ht (Int.le_of_lt hk), hq.negate⟩
  rw [Assembly.feedAll, List.foldlM_cons, hc]
  exact hd

/-- An operator is applied to the operands at its sides. The operators of the first one may bind
as tightly as itself, those of the second one may not. -/
theorem binary {op : Binary} {u : Int} (hx : IsOperand xs j v) (hy : IsOperand ys k w)
    (hj : op.priority ≤ j) (hk : op.priority < k)
    (h : op.apply (.int v) (.int w) = pure (.int u)) :
    IsOperand (xs ++ .operator op :: ys) op.priority u := by
  intro a ha hw
  obtain ⟨b, p, hb, hbt, hp⟩ := hx a ha (hw.mono hj)
  obtain ⟨c, hc, hcw⟩ := hbt.operator op hj hw
  obtain ⟨d, q, hd, hdt, hq⟩ := hy c hcw.operand (hcw.below hk)
  refine ⟨d, p ++ (q ++ [.binary op]), ?_, hcw.took hdt (Int.le_of_lt hk), hp.binary hq h⟩
  rw [Assembly.feedAll_append, hb]
  change b.feedAll (.operator op :: ys) = .ok d
  rw [Assembly.feedAll, List.foldlM_cons, hc]
  exact hd

/-- Brackets around an operand make it bind more tightly than any operator outside. -/
theorem group (hx : IsOperand xs k v) (hk : 0 ≤ k) :
    IsOperand (.opening :: (xs ++ [.closing])) functionPriority v := by
  intro a ha hw
  have hopen : a.feed .opening = .ok { a with depth := a.depth + 1, expected := .opened } := by
    have hexp : a.expected = .start ∨ a.expected = .opened := by
      simpa [Expectation.allowsOperand] using ha
    rcases hexp with he | he <;> simp [Assembly.feed, he, Expectation.allowsOpening]
  obtain ⟨b, p, hb, ht, hp⟩ := hx { a with depth := a.depth + 1, expected := .opened } rfl (by
    intro w hm
    have := hw w hm
    simp only [functionPriority, bracketPriority] at this ⊢
    omega)
  have hclose : b.feed .closing = .ok { b with depth := b.depth - 1, expected := .callable } := by
    have hne : b.expected ≠ .opened := by
      intro he
      have := ht.closing
      rw [he] at this
      contradiction
    simp only [Assembly.feed, if_neg hne, ht.closing, if_true]
  obtain ⟨pending, hwait, hpend, hout⟩ := ht.pending
  refine ⟨{ b with depth := b.depth - 1, expected := .callable }, p, ?_, ?_, hp⟩
  · rw [Assembly.feedAll, List.foldlM_cons, hopen]
    change Assembly.feedAll _ (xs ++ [.closing]) = _
    rw [Assembly.feedAll_append, hb]
    change b.feedAll [.closing] = _
    rw [Assembly.feedAll, List.foldlM_cons, hclose]
    rfl
  · refine ⟨?_, rfl, rfl, ht.demand, pending, hwait, ?_, hout⟩
    · change b.depth - 1 = a.depth
      rw [ht.depth]
      exact Int.add_sub_cancel _ _
    · intro w hm
      have := hpend w hm
      simp only [functionPriority, bracketPriority] at this ⊢
      omega

/-- A text of parts that are an operand is an expression with its value. -/
theorem evaluate_eq {ps : List Part} {text : String} (hx : IsOperand (ps.map Part.lexeme) k v)
    (hs : Text.Spaced Part.source ps text.toList) (ht : Part.TakeTurns true ps false)
    (vars : Variables) : evaluate text vars = .ok (.int v) := by
  obtain ⟨b, p, hb, htook, hp⟩ := hx {} rfl (by simp [Assembly.Below])
  have hfinish : b.finish = .ok p := by
    obtain ⟨pending, hw, -, ho⟩ := htook.pending
    have hdepth : b.depth = 0 := htook.depth
    have hdemand : b.demand + 1 = p.length := htook.demand.trans (Nat.zero_add _)
    have hprogram : b.output.reverse ++ b.waiting.map (·.instruction) = p := by
      rw [hw, List.append_nil, ho]
      rfl
    simp [Assembly.finish, hprogram, hdepth, hdemand]
  have hvalue : p.value vars.known = pure (.int v) := by
    rw [Program.value, hp, pure_bind]
  rw [evaluate_of_spaced hs ht hb hfinish, hvalue]
  rfl

end IsOperand
end CharacterSheet.Arithmetic
