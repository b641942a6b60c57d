import CharacterSheet.Roll.Lexeme

/-!
# Reading dice expressions

Comparisons bind least, then sums, then products; operators of one priority associate to the
left. A sign binds more tightly than every operator between two operands.
-/

namespace CharacterSheet.Roll

/-- Why a text is no dice expression. -/
inductive Unreadable where
  | malformed
  | numeral (error : NumeralError)
  deriving Repr, DecidableEq

/-- What is left of lexemes when some were read. -/
abbrev Left (ls : List Lexeme) := { rest : List Lexeme // rest.length < ls.length }

/-- Whether lexemes may follow an operand. -/
def mayFollowOperand : List Lexeme → Bool
  | [] | .operator _ :: _ | .closing :: _ => true
  | _ => false

/-- An integer that is taken in when it is seen that its operand has ended. -/
def taken (n : Except NumeralError Nat) : Except Unreadable Nat := n.mapError .numeral

/-- The dice or the number that a lexeme stands for, if it stands for one. -/
def simple? : Lexeme → Option (Except Unreadable Roll)
  | .dice count sides => some do
    let count ← taken count
    return .dice count (← taken sides)
  | .integer n => some ((taken n).map .integer)
  | .decimal x => some (.ok (.decimal x))
  | _ => none

mutual

/-- The operand at the front: a number, dice or a bracket, perhaps under signs. A fault in what
follows comes before a number that has no value. -/
def readOperand (ls : List Lexeme) : Except Unreadable (Roll × Left ls) :=
  match ls with
  | [] => .error .malformed
  | l :: rest =>
    match simple? l with
    | some operand =>
      if mayFollowOperand rest then operand.map (·, ⟨rest, by simp⟩) else .error .malformed
    | none =>
      if l matches .operator .add || l matches .operator .subtract then
        match readOperand rest with
        | .ok (r, ⟨rest, h⟩) =>
          .ok (.signed (l matches .operator .subtract) r,
            ⟨rest, by simp only [List.length_cons]; omega⟩)
        | .error e => .error e
      else if l matches .opening then
        match readChain 0 rest with
        | .ok (r, ⟨.closing :: rest, h⟩) =>
          .ok (.group r, ⟨rest, by simp only [List.length_cons] at *; omega⟩)
        | .ok _ => .error .malformed
        | .error e => .error e
      else .error .malformed
termination_by (ls.length, 0)

/-- Operands joined by operators of at least a priority. -/
def readChain (priority : Nat) (ls : List Lexeme) : Except Unreadable (Roll × Left ls) :=
  match readOperand ls with
  | .ok (first, ⟨rest, h⟩) =>
    match extend priority first rest with
    | .ok (r, ⟨rest, h⟩) => .ok (r, ⟨rest, by omega⟩)
    | .error e => .error e
  | .error e => .error e
termination_by (ls.length, 1)

/-- A left operand with all operators of at least a priority that follow it. -/
def extend (priority : Nat) (left : Roll) (ls : List Lexeme) :
    Except Unreadable (Roll × { rest : List Lexeme // rest.length ≤ ls.length }) :=
  match ls with
  | .operator op :: more =>
    if priority ≤ op.priority then
      match readChain (op.priority + 1) more with
      | .ok (right, ⟨rest, h⟩) =>
        match extend priority (.binary op left right) rest with
        | .ok (r, ⟨rest, h⟩) => .ok (r, ⟨rest, by simp only [List.length_cons]; omega⟩)
        | .error e => .error e
      | .error e => .error e
    else .ok (left, ⟨.operator op :: more, Nat.le_refl _⟩)
  | ls => .ok (left, ⟨ls, Nat.le_refl _⟩)
termination_by (ls.length, 0)

end

/-- The dice expression that a text is. -/
def read (text : String) : Except Unreadable Roll :=
  match readChain 0 (lexemes text.toList) with
  | .ok (r, ⟨[], _⟩) => .ok r
  | .ok _ => .error .malformed
  | .error e => .error e

end CharacterSheet.Roll
