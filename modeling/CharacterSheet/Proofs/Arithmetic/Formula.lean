import CharacterSheet.Proofs.Arithmetic.Operands
import CharacterSheet.Token.Mention
import Mathlib.Algebra.Ring.Int.Parity

/-!
# Integer formulas

A formula is made of literals, references to the values of stats, the operators for sums,
differences, products and powers with literal exponents, and brackets. It has a value once every
reference has one. Before it is evaluated, the values are put in the places of the references as
texts, and a negative one brings a sign with it, which is not part of an operand: it is applied
after a power, and in the second factor of a product it comes too late. Main statement: where
these places are avoided, the expression has the value of the formula.
-/

namespace CharacterSheet

/-- An integer that is written with no more digits than are written. -/
abbrev WritableInt := { n : Int // Numeral.isWritable n = true }

/-- A reference to the value of a stat, whose id is not too long to be read. -/
structure ValueReference where
  digits : List Char
  ne_nil : digits ≠ []
  decimal : ∀ c ∈ digits, Text.isDecimalDigit c = true
  short : digits.length ≤ maxDigits

namespace ValueReference

/-- The reference as it is written. -/
def mention (r : ValueReference) : Mention := ⟨.stat, r.digits, .value⟩

/-- The id of the stat. -/
def id (r : ValueReference) : Nat := Text.digitsValue r.digits

end ValueReference

namespace Arithmetic
open Text

/-- How formulas are made up: operands are literals, references and what stands in brackets; a
factor may be a power, a term a product, and a sum a sum or a difference. -/
inductive Level where
  | operand
  | factor
  | term
  | sum

/-- A formula of a level. Operators of one level associate to the left. -/
inductive Formula : Level → Type where
  | literal (n : Literal) : Formula .operand
  | value (r : ValueReference) : Formula .operand
  | group (e : Formula .sum) : Formula .operand
  | power (base : Formula .operand) (exponent : Literal) : Formula .factor
  | product (a : Formula .term) (b : Formula .factor) : Formula .term
  | sum (a : Formula .sum) (b : Formula .term) : Formula .sum
  | difference (a : Formula .sum) (b : Formula .term) : Formula .sum
  | ofOperand (a : Formula .operand) : Formula .factor
  | ofFactor (a : Formula .factor) : Formula .term
  | ofTerm (a : Formula .term) : Formula .sum

/-- What a formula is written with: a part of an expression, or a reference. -/
inductive Mark where
  | part (p : Part)
  | value (r : ValueReference)

namespace Mark

/-- The characters of a mark. -/
def source : Mark → List Char
  | part p => p.source
  | value r => r.mention.source

/-- A sign as a mark. -/
def sign (s : Sign) : Mark := part (.sign s)

/-- A literal as a mark. -/
def literal (n : Literal) : Mark := part (.literal n)

end Mark

namespace Formula

/-- The marks of a formula from left to right. -/
def marks : {l : Level} → Formula l → List Mark
  | _, literal n => [.literal n]
  | _, value r => [.value r]
  | _, group e => .sign .opening :: (e.marks ++ [.sign .closing])
  | _, power base n => base.marks ++ .sign .power :: [.literal n]
  | _, product a b => a.marks ++ .sign .times :: b.marks
  | _, sum a b => a.marks ++ .sign .plus :: b.marks
  | _, difference a b => a.marks ++ .sign .minus :: b.marks
  | _, ofOperand a | _, ofFactor a | _, ofTerm a => a.marks

/-- The ids of the stats that a formula refers to. -/
def ids {l : Level} (e : Formula l) : List Nat :=
  e.marks.filterMap fun
    | .value r => some r.id
    | .part _ => none

/-- The integer that a formula denotes when every reference stands for one. -/
def eval (least : Nat → Int) : {l : Level} → Formula l → Int
  | _, literal n => n.value
  | _, value r => least r.id
  | _, group e => e.eval least
  | _, power base n => base.eval least ^ n.value
  | _, product a b => a.eval least * b.eval least
  | _, sum a b => a.eval least + b.eval least
  | _, difference a b => a.eval least - b.eval least
  | _, ofOperand a | _, ofFactor a | _, ofTerm a => a.eval least

/-- Whether a formula starts with a reference that stands for a negative integer. -/
def startsNegative (least : Nat → Int) : {l : Level} → Formula l → Bool
  | _, literal _ | _, group _ => false
  | _, value r => least r.id < 0
  | _, power base _ => base.startsNegative least
  | _, product a _ => a.startsNegative least
  | _, sum a _ | _, difference a _ => a.startsNegative least
  | _, ofOperand a | _, ofFactor a | _, ofTerm a => a.startsNegative least

/-- References that stand for negative integers are neither the base of a power with an even
exponent nor at the start of the second factor of a product. -/
def SignSafe (least : Nat → Int) : {l : Level} → Formula l → Prop
  | _, literal _ | _, value _ => True
  | _, group e => e.SignSafe least
  | _, power base n => base.SignSafe least ∧ (base.startsNegative least = true → Odd n.value)
  | _, product a b => a.SignSafe least ∧ b.SignSafe least ∧ b.startsNegative least = false
  | _, sum a b | _, difference a b => a.SignSafe least ∧ b.SignSafe least
  | _, ofOperand a | _, ofFactor a | _, ofTerm a => a.SignSafe least

/-- Whether signs are in the way can be found out. -/
instance decidableSignSafe (least : Nat → Int) :
    {l : Level} → (e : Formula l) → Decidable (e.SignSafe least)
  | _, literal _ | _, value _ => .isTrue trivial
  | _, group e => decidableSignSafe least e
  | _, power base n =>
    have := decidableSignSafe least base
    inferInstanceAs (Decidable (base.SignSafe least ∧
      (base.startsNegative least = true → Odd n.value)))
  | _, product a b =>
    have := decidableSignSafe least a
    have := decidableSignSafe least b
    inferInstanceAs (Decidable (a.SignSafe least ∧ b.SignSafe least ∧
      b.startsNegative least = false))
  | _, sum a b | _, difference a b =>
    have := decidableSignSafe least a
    have := decidableSignSafe least b
    inferInstanceAs (Decidable (a.SignSafe least ∧ b.SignSafe least))
  | _, ofOperand a | _, ofFactor a | _, ofTerm a => decidableSignSafe least a

end Formula

/-! ### Integers as they are put in -/

/-- The digits of an integer. -/
def Literal.ofMagnitude (n : WritableInt) : Literal where
  digits := Nat.toDigits 10 n.1.natAbs
  ne_nil := Nat.toDigits_ne_nil
  decimal := fun _ hc ↦ Nat.isDigit_of_mem_toDigits (by decide) (by decide) hc
  short := by
    apply (Nat.length_toDigits_le_iff (by decide) (by decide)).mpr
    simpa [Numeral.isWritable] using n.2

/-- An integer as it is put in the place of a reference: a sign, if it is negative, and its
digits. -/
def signed (n : WritableInt) : List Part :=
  if n.1 < 0 then [.sign .minus, .literal (.ofMagnitude n)] else [.literal (.ofMagnitude n)]

/-- The parts that take the place of a mark. -/
def Mark.parts (least : Nat → WritableInt) : Mark → List Part
  | part p => [p]
  | value r => signed (least r.id)

/-- The parts of a formula when integers are put in the places of its references. -/
def Formula.parts {l : Level} (least : Nat → WritableInt) (e : Formula l) : List Part :=
  e.marks.flatMap (Mark.parts least)

/-- The digits of an integer denote its magnitude. -/
theorem Literal.value_ofMagnitude (n : WritableInt) : (ofMagnitude n).value = n.1.natAbs :=
  digitsValue_toDigits n.1.natAbs

/-- What is put in is the text of the integer. -/
theorem flatMap_source_signed (n : WritableInt) :
    (signed n).flatMap Part.source = (toString n.1).toList := by
  rw [toList_toString]
  unfold signed
  split <;> simp [Part.source, Sign.char, Literal.ofMagnitude]

/-- An integer that is put in is an operand. -/
theorem takeTurns_signed (n : WritableInt) : Part.TakeTurns true (signed n) false := by
  unfold signed
  split <;> rfl

/-- Operands and operators take turns in a formula. -/
theorem Formula.takeTurns {l : Level} (least : Nat → WritableInt) (e : Formula l) :
    Part.TakeTurns true (e.parts least) false := by
  induction e with
  | literal n => rfl
  | value r =>
    rw [parts, marks, List.flatMap_singleton]
    exact takeTurns_signed _
  | group e ih =>
    rw [parts, marks, List.flatMap_cons, List.flatMap_append, List.flatMap_singleton]
    exact ih.group
  | power base n ih =>
    rw [parts, marks, List.flatMap_append, List.flatMap_cons]
    exact ih.join rfl rfl
  | product a b iha ihb =>
    rw [parts, marks, List.flatMap_append, List.flatMap_cons]
    exact iha.join rfl ihb
  | sum a b iha ihb =>
    rw [parts, marks, List.flatMap_append, List.flatMap_cons]
    exact iha.join rfl ihb
  | difference a b iha ihb =>
    rw [parts, marks, List.flatMap_append, List.flatMap_cons]
    exact iha.join rfl ihb
  | ofOperand a ih => exact ih
  | ofFactor a ih => exact ih
  | ofTerm a ih => exact ih

/-- A formula is written with something. -/
theorem Formula.marks_ne_nil {l : Level} (e : Formula l) : e.marks ≠ [] := by
  induction e with
  | literal | value | group => exact List.cons_ne_nil _ _
  | power | product | sum | difference => simp [marks]
  | ofOperand _ ih | ofFactor _ ih | ofTerm _ ih => exact ih

/-! ### Formulas as operands -/

/-- How tightly a formula binds, given whether it starts with a sign. -/
def Level.binding : Level → Bool → Int
  | operand, negative => if negative then signPriority else functionPriority
  | factor, negative => if negative then signPriority else Binary.power.priority
  | term, _ => Binary.multiply.priority
  | sum, _ => Binary.add.priority

/-- A formula may be taken for one of the next level. -/
theorem Level.binding_le (negative : Bool) :
    binding factor negative ≤ binding operand negative ∧
      binding term negative ≤ binding factor negative ∧
        binding sum negative ≤ binding term negative := by
  cases negative <;> decide

/-- An integer that is put in is an operand, which may have a sign. -/
theorem isOperand_signed (n : WritableInt) :
    IsOperand ((signed n).map Part.lexeme) (Level.operand.binding (n.1 < 0)) n.1 := by
  have hv := Literal.value_ofMagnitude n
  by_cases hn : n.1 < 0
  · have hneg : n.1 = -((Literal.ofMagnitude n).value : Int) := by omega
    have hs : Level.operand.binding (decide (n.1 < 0)) = signPriority := by
      rw [decide_eq_true hn]
      rfl
    rw [hs, signed, if_pos hn, hneg]
    exact (IsOperand.literal _ functionPriority).negate (by decide)
  · have hpos : n.1 = ((Literal.ofMagnitude n).value : Int) := by omega
    rw [signed, if_neg hn]
    conv => rhs; rw [hpos]
    exact .literal _ _

/-- A power of an integer that is put in with a sign: the sign is applied to the power. -/
theorem isOperand_signed_power (n : WritableInt) (hn : n.1 < 0) (m : Literal) :
    IsOperand ((signed n).map Part.lexeme ++ .operator .power :: [.number (.int m.value)])
      signPriority (-((n.1.natAbs : Int) ^ m.value)) := by
  have hpower : IsOperand [.number (.int (Literal.ofMagnitude n).value), .operator .power,
      .number (.int m.value)] Binary.power.priority ((Literal.ofMagnitude n).value ^ m.value) :=
    (IsOperand.literal _ functionPriority).binary (IsOperand.literal _ functionPriority)
      (by decide) (by decide) (power_apply _ _)
  rw [Literal.value_ofMagnitude] at hpower
  rw [signed, if_pos hn, ← Literal.value_ofMagnitude] at *
  exact hpower.negate (by decide)

/-- An odd power lets the sign through. -/
theorem odd_power_of_neg {n : Int} (hn : n < 0) {m : Nat} (hm : Odd m) :
    n ^ m = -((n.natAbs : Int) ^ m) := by
  have hneg : n = -(n.natAbs : Int) := by omega
  conv => lhs; rw [hneg]
  exact hm.neg_pow _

/-- What stands at the sides of a sign is read apart from it. -/
theorem map_lexeme_flatMap (least : Nat → WritableInt) (xs ys : List Mark) (s : Sign) :
    ((xs ++ .sign s :: ys).flatMap (Mark.parts least)).map Part.lexeme =
      (xs.flatMap (Mark.parts least)).map Part.lexeme ++
        s.lexeme :: (ys.flatMap (Mark.parts least)).map Part.lexeme := by
  rw [List.flatMap_append, List.flatMap_cons, List.map_append, List.map_append]
  rfl

namespace Formula
variable {l : Level} {least : Nat → WritableInt}

/-- The parts of a formula are an operand with the value of the formula. -/
theorem isOperand (e : Formula l) (hs : e.SignSafe fun id ↦ (least id).1) :
    IsOperand ((e.parts least).map Part.lexeme)
      (l.binding (e.startsNegative fun id ↦ (least id).1)) (e.eval fun id ↦ (least id).1) := by
  induction e with
  | literal n => exact .literal _ _
  | value r =>
    rw [parts, marks, List.flatMap_singleton]
    exact isOperand_signed (least r.id)
  | group e ih =>
    rw [parts, marks, List.flatMap_cons, List.flatMap_append, List.map_append, List.map_append]
    exact (ih hs).group (by change (0 : Int) ≤ 4; decide)
  | power base n ih =>
    obtain ⟨hb, hodd⟩ := hs
    rw [parts, marks, map_lexeme_flatMap, startsNegative]
    cases hneg : base.startsNegative fun id ↦ (least id).1 with
    | true =>
      -- the sign is not part of the base, but an odd power lets it through
      cases base with
      | literal | group => contradiction
      | value r =>
        have hn : (least r.id).1 < 0 := by simpa [startsNegative] using hneg
        rw [marks, List.flatMap_singleton]
        have := isOperand_signed_power (least r.id) hn n
        rwa [← odd_power_of_neg hn (hodd hneg)] at this
    | false =>
      rw [hneg] at ih
      exact (ih hb).binary (IsOperand.literal n.value functionPriority) (by decide) (by decide)
        (power_apply _ _)
  | product a b iha ihb =>
    obtain ⟨ha, hb, hneg⟩ := hs
    rw [hneg] at ihb
    rw [parts, marks, map_lexeme_flatMap]
    exact (iha ha).binary (ihb hb) (Int.le_refl _) (by decide) rfl
  | sum a b iha ihb =>
    rw [parts, marks, map_lexeme_flatMap]
    exact (iha hs.1).binary (ihb hs.2) (Int.le_refl Binary.add.priority)
      (by change (4 : Int) < 5; decide) rfl
  | difference a b iha ihb =>
    rw [parts, marks, map_lexeme_flatMap]
    exact (iha hs.1).binary (ihb hs.2) (Int.le_refl Binary.subtract.priority)
      (by change (4 : Int) < 5; decide) rfl
  | ofOperand a ih => exact (ih hs).mono (Level.binding_le _).1
  | ofFactor a ih => exact (ih hs).mono (Level.binding_le _).2.1
  | ofTerm a ih => exact (ih hs).mono (Level.binding_le _).2.2

/-- A text of the parts of a formula has the value of the formula. -/
theorem evaluate_eq (e : Formula .sum) (hs : e.SignSafe fun id ↦ (least id).1) {text : String}
    (ht : Spaced Part.source (e.parts least) text.toList) :
    evaluate text = .ok (.int (e.eval fun id ↦ (least id).1)) :=
  (e.isOperand hs).evaluate_eq ht (e.takeTurns least) {}

end Formula
end Arithmetic
end CharacterSheet
