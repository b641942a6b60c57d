import CharacterSheet.Arithmetic.Program
import CharacterSheet.Roll.Outcome

/-!
# Evaluators and rollers

Previews leave arithmetic to an evaluator and dice to a roller, which may have effects of their
own. An evaluator may refuse an expression, which is expected, or break down, which is not.
-/

namespace CharacterSheet

/-- What an evaluator finds: a number or a truth value, which counts as one or nought. -/
inductive Finding where
  | number (n : Number)
  | truth (b : Bool)
  deriving Repr

namespace Finding

/-- The number that a finding counts as. -/
def value : Finding → Number
  | .number n => n
  | .truth b => .int (if b then 1 else 0)

/-- The text of a finding. -/
def text : Finding → Except NumeralError String
  | .number n => n.plainText
  | .truth b => .ok (if b then "True" else "False")

end Finding

/-- Why an evaluator finds nothing. -/
inductive EvaluationFailure where
  /-- The expression has no value. -/
  | valueless (expression : String) (error : Arithmetic.Error)
  /-- The expression was refused in the evaluator's own words. -/
  | refused (expression message : String)
  /-- The evaluator broke down. -/
  | broken (message : String)
  /-- A numeral was refused before or after the evaluation. -/
  | numeral (error : NumeralError)
  deriving Repr, DecidableEq

namespace EvaluationFailure

/-- The wording of a failure. -/
def message : EvaluationFailure → String
  | .valueless _ error => error.message
  | .refused _ message | .broken message => message
  | .numeral error => error.message

/-- Whether an expression was refused, rather than that something broke down. -/
def isRefusal : EvaluationFailure → Bool
  | .valueless .. | .refused .. => true
  | .broken _ | .numeral _ => false

end EvaluationFailure

/-- An evaluator: it turns the text of an expression into a finding. -/
abbrev Evaluator (m : Type → Type) := String → ExceptT EvaluationFailure m Finding

/-- A roller: it turns a dice expression into the text of an outcome, or into the words in
which it failed. -/
abbrev Roller (m : Type → Type) := String → ExceptT String m String

namespace Arithmetic

/-- The text that an error of evaluation names: the expression without blanks around it, or
the blanks when there is nothing else. -/
def namedText (expression : String) : String :=
  let trimmed := Text.trimmed expression
  if trimmed.isEmpty then expression else trimmed

/-- The number that an expression denotes, or why there is none. -/
def find (expression : String) (vars : Variables := {}) : Except EvaluationFailure Number :=
  (evaluate expression vars).mapError (.valueless (namedText expression))

/-- The evaluator that computes. -/
def evaluator {m : Type → Type} [Monad m] : Evaluator m := fun expression ↦
  ExceptT.mk (pure ((find expression).map .number))

end Arithmetic

/-- The roller whose dice show what a sequence of numbers makes them show. -/
def diceRoller {m : Type → Type} [Monad m] (source : Nat → Nat) : Roller m := fun expression ↦
  match rollDice source expression with
  | .ok outcome => pure outcome.text
  | .error failure => throw failure.message

end CharacterSheet
