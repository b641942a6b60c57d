import CharacterSheet.Evaluation
import CharacterSheet.Schema
import CharacterSheet.Token.Substitution

/-!
# The choice among dice

Of the dice of a stat the first apply that have no condition or whose condition holds. A
condition whose operands the evaluator refuses does not hold.
-/

namespace CharacterSheet

variable {m : Type → Type} [Monad m]

/-- The finding for an operand of a condition, with the values of stats put in. -/
def Condition.operand (evaluate : Evaluator m) (value : Nat → Except NumeralError String)
    (text : String) : ExceptT EvaluationFailure m Finding :=
  match substituteStatValues value text with
  | .ok expression => evaluate expression
  | .error e => throw (.numeral e)

/-- Whether a condition holds. -/
def Condition.holds (evaluate : Evaluator m) (value : Nat → Except NumeralError String)
    (c : Condition) : ExceptT EvaluationFailure m Bool := do
  let left ← operand evaluate value c.left
  let right ← operand evaluate value c.right
  return Number.compare c.comparison left.value right.value

/-- Whether dice apply. -/
def Dice.applies (evaluate : Evaluator m) (value : Nat → Except NumeralError String) (d : Dice) :
    ExceptT EvaluationFailure m Bool :=
  match d.condition with
  | none => pure true
  | some c =>
    tryCatch (c.holds evaluate value) fun e ↦ if e.isRefusal then pure false else throw e

/-- The first dice that apply, with the number of those before them. -/
def chooseDice (evaluate : Evaluator m) (value : Nat → Except NumeralError String) :
    List Dice → ExceptT EvaluationFailure m (Option (Nat × Dice))
  | [] => pure none
  | d :: rest => do
    if ← d.applies evaluate value then return some (0, d)
    else return (← chooseDice evaluate value rest).map fun (n, d) ↦ (n + 1, d)

end CharacterSheet
