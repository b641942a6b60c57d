import CharacterSheet.Evaluation
import CharacterSheet.Proofs.Arithmetic.Formula

/-!
# Integer expressions

An integer expression is a tree of literals, powers with literal exponents, products, sums and
differences. It may be written in many ways: with brackets wherever one likes, but at least where
an operator binds more loosely than its place asks for, and with blanks between the parts. Main
statement: whichever way it is written, what is found for it is its value as an integer.
-/

namespace CharacterSheet.Arithmetic
open Text (Spaced)

/-- An integer expression, apart from how it is written. -/
inductive IntegerExpression where
  | literal (n : Literal)
  | power (base : IntegerExpression) (exponent : Literal)
  | product (a b : IntegerExpression)
  | sum (a b : IntegerExpression)
  | difference (a b : IntegerExpression)

/-- How loosely an operator may bind that stands at a place of a level without brackets. -/
def Level.rank : Level → Nat
  | operand => 0
  | factor => 1
  | term => 2
  | sum => 3

/-- Parts, in brackets if these are needed. -/
def bracketed (needed : Bool) (ps : List Part) : List Part :=
  if needed then .sign .opening :: (ps ++ [.sign .closing]) else ps

namespace IntegerExpression

/-- The integer that an expression denotes. -/
def value : IntegerExpression → Int
  | literal n => n.value
  | power base n => base.value ^ n.value
  | product a b => a.value * b.value
  | sum a b => a.value + b.value
  | difference a b => a.value - b.value

/-- The ways in which an expression is written at a place of a level. Operators of one level
associate to the left, so only the first of two operands may have an operator of the same level
without brackets; the base of a power is a literal or stands in brackets. -/
inductive Written : Level → IntegerExpression → List Part → Prop where
  | literal (n : Literal) : Written .operand (.literal n) [.literal n]
  | group {e : IntegerExpression} {ps : List Part} (h : Written .sum e ps) :
    Written .operand e (.sign .opening :: (ps ++ [.sign .closing]))
  | power {base : IntegerExpression} {ps : List Part} (h : Written .operand base ps)
    (n : Literal) : Written .factor (.power base n) (ps ++ [.sign .power, .literal n])
  | product {a b : IntegerExpression} {ps qs : List Part} (ha : Written .term a ps)
    (hb : Written .factor b qs) : Written .term (.product a b) (ps ++ .sign .times :: qs)
  | sum {a b : IntegerExpression} {ps qs : List Part} (ha : Written .sum a ps)
    (hb : Written .term b qs) : Written .sum (.sum a b) (ps ++ .sign .plus :: qs)
  | difference {a b : IntegerExpression} {ps qs : List Part} (ha : Written .sum a ps)
    (hb : Written .term b qs) : Written .sum (.difference a b) (ps ++ .sign .minus :: qs)
  | ofOperand {e : IntegerExpression} {ps : List Part} (h : Written .operand e ps) :
    Written .factor e ps
  | ofFactor {e : IntegerExpression} {ps : List Part} (h : Written .factor e ps) :
    Written .term e ps
  | ofTerm {e : IntegerExpression} {ps : List Part} (h : Written .term e ps) : Written .sum e ps

/-- An expression as it is written at a place of a level with no brackets but those that are
needed. -/
def spell : IntegerExpression → Level → List Part
  | literal n, _ => [.literal n]
  | power base n, l =>
    bracketed (l.rank < Level.factor.rank) (base.spell .operand ++ [.sign .power, .literal n])
  | product a b, l =>
    bracketed (l.rank < Level.term.rank) (a.spell .term ++ .sign .times :: b.spell .factor)
  | sum a b, l =>
    bracketed (l.rank < Level.sum.rank) (a.spell .sum ++ .sign .plus :: b.spell .term)
  | difference a b, l =>
    bracketed (l.rank < Level.sum.rank) (a.spell .sum ++ .sign .minus :: b.spell .term)

/-! ### Writing -/

section
variable {e : IntegerExpression} {ps : List Part} {k l : Level}

/-- What is written at a place may be written at a place that asks for less. -/
theorem Written.mono (h : Written k e ps) (hkl : k.rank ≤ l.rank) : Written l e ps := by
  cases k with
  | operand =>
    cases l with
    | operand => exact h
    | factor => exact h.ofOperand
    | term => exact h.ofOperand.ofFactor
    | sum => exact h.ofOperand.ofFactor.ofTerm
  | factor =>
    cases l with
    | operand => exact absurd hkl (by decide)
    | factor => exact h
    | term => exact h.ofFactor
    | sum => exact h.ofFactor.ofTerm
  | term =>
    cases l with
    | operand | factor => exact absurd hkl (by decide)
    | term => exact h
    | sum => exact h.ofTerm
  | sum =>
    cases l with
    | operand | factor | term => exact absurd hkl (by decide)
    | sum => exact h

/-- With brackets where they are needed an expression may be written everywhere. -/
theorem Written.bracketed (h : Written k e ps) (l : Level) :
    Written l e (bracketed (l.rank < k.rank) ps) := by
  unfold Arithmetic.bracketed
  split
  · have hsum : Written .sum e ps := h.mono (by cases k <;> decide)
    exact hsum.group.mono (Nat.zero_le l.rank)
  · next hn => exact h.mono (by simpa using hn)

/-- Every expression can be written at every place. -/
theorem written_spell (e : IntegerExpression) (l : Level) : Written l e (e.spell l) := by
  induction e generalizing l with
  | literal n => exact (Written.literal n).mono (Nat.zero_le l.rank)
  | power base n ih => exact ((ih .operand).power n).bracketed l
  | product a b iha ihb => exact ((iha .term).product (ihb .factor)).bracketed l
  | sum a b iha ihb => exact ((iha .sum).sum (ihb .term)).bracketed l
  | difference a b iha ihb => exact ((iha .sum).difference (ihb .term)).bracketed l

/-! ### Reading -/

/-- Operands and operators take turns in what is written. -/
theorem Written.takeTurns (h : Written l e ps) : Part.TakeTurns true ps false := by
  induction h with
  | literal n => rfl
  | group h ih => exact ih.group
  | power h n ih => exact ih.join rfl rfl
  | product ha hb iha ihb => exact iha.join rfl ihb
  | sum ha hb iha ihb => exact iha.join rfl ihb
  | difference ha hb iha ihb => exact iha.join rfl ihb
  | ofOperand h ih => exact ih
  | ofFactor h ih => exact ih
  | ofTerm h ih => exact ih

/-- What is written is an operand with the value of the expression, which binds as tightly as the
operators of its level. -/
theorem Written.isOperand (h : Written l e ps) :
    IsOperand (ps.map Part.lexeme) (l.binding false) e.value := by
  induction h with
  | literal n => exact .literal n.value _
  | group h ih =>
    rw [List.map_cons, List.map_append]
    exact ih.group (by decide)
  | power h n ih =>
    rw [List.map_append]
    exact ih.binary (.literal n.value functionPriority) (by decide) (by decide) (power_apply _ _)
  | product ha hb iha ihb =>
    rw [List.map_append]
    exact iha.binary ihb (by decide) (by decide) rfl
  | sum ha hb iha ihb =>
    rw [List.map_append]
    exact iha.binary ihb (by decide) (by decide) rfl
  | difference ha hb iha ihb =>
    rw [List.map_append]
    exact iha.binary ihb (by decide) (by decide) rfl
  | ofOperand h ih => exact ih.mono (Level.binding_le false).1
  | ofFactor h ih => exact ih.mono (Level.binding_le false).2.1
  | ofTerm h ih => exact ih.mono (Level.binding_le false).2.2

end

/-! ### Main statement -/

/-- What is found for an expression, in whichever way it is written, is the integer that it
denotes. -/
theorem find_of_written {e : IntegerExpression} {ps : List Part} (h : e.Written .sum ps)
    {text : String} (hs : Spaced Part.source ps text.toList) (vars : Variables) :
    find text vars = .ok (.int e.value) := by
  rw [find, h.isOperand.evaluate_eq hs h.takeTurns vars]
  rfl

/-- A power with more digits than a double has bits, in brackets that it does not need, and
differences that associate to the left. -/
theorem find_of_written_large :
    let two : Literal := ⟨['2'], by decide, List.forall_mem_singleton.mpr (by decide), by decide⟩
    let three : Literal := ⟨['3'], by decide, List.forall_mem_singleton.mpr (by decide), by decide⟩
    let forty : Literal := ⟨['4', '0'], by decide,
      List.forall_mem_cons.mpr ⟨by decide, List.forall_mem_singleton.mpr (by decide)⟩, by decide⟩
    let power : IntegerExpression := .power (.sum (.literal two) (.literal three)) forty
    let e : IntegerExpression :=
      .difference (.difference (.literal two) (.literal three)) (.product power (.literal two))
    let ps : List Part := (difference (.literal two) (.literal three)).spell .sum ++
      .sign .minus :: (.sign .opening :: (power.spell .sum ++ [.sign .closing]) ++
        .sign .times :: [.literal two])
    e.Written .sum ps ∧ Spaced Part.source ps "2-3 - ((2+3)^40) *2 ".toList ∧
      find "2-3 - ((2+3)^40) *2 " = .ok (.int (-18189894035458564758300781251)) := by
  intro two three forty power e ps
  have hpower : power.Written .term (.sign .opening :: (power.spell .sum ++ [.sign .closing])) :=
    (written_spell power .sum).group.ofOperand.ofFactor
  have h : e.Written .sum ps :=
    (written_spell _ .sum).difference (hpower.product (.ofOperand (.literal two)))
  have hblank : Text.isBlank ' ' = true := by decide
  have hs : Spaced Part.source ps "2-3 - ((2+3)^40) *2 ".toList := by
    have hcompact (parts : List Part) : Spaced Part.source parts (parts.flatMap Part.source) :=
      Spaced.flatMap parts
    have hfront := hcompact ((difference (.literal two) (.literal three)).spell .sum)
    have hminus : Spaced Part.source [.sign .minus] " - ".toList :=
      .blank hblank (.mark _ (.blank hblank .nil))
    have hmiddle := hcompact (.sign .opening :: (power.spell .sum ++ [.sign .closing]))
    have hback : Spaced Part.source [.sign .times, .literal two] " *2 ".toList :=
      .blank hblank (.mark _ (.mark _ (.blank hblank .nil)))
    exact hfront.append (hminus.append (hmiddle.append hback))
  have hvalue : e.value = -18189894035458564758300781251 := by decide
  exact ⟨h, hs, hvalue ▸ find_of_written h hs {}⟩

end IntegerExpression
end CharacterSheet.Arithmetic
