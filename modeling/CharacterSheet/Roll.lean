import CharacterSheet.Arithmetic.Calculation

/-!
# Dice expressions

A dice expression is arithmetic over dice such as `2d6`, the sum of two throws of a die with
six sides. It is kept as it is written, with its brackets and signs, because the outcome of a
roll repeats it.
-/

namespace CharacterSheet

/-- Operators between two dice expressions. -/
inductive RollOperator where
  | compare (c : Comparison)
  | add
  | subtract
  | multiply
  | divide
  /-- The quotient without its fraction, rounded down. -/
  | wholeDivide
  | remainder
  deriving Repr, DecidableEq

namespace RollOperator

/-- The written form of an operator. -/
def symbol : RollOperator → String
  | .compare c => c.symbol
  | .add => "+"
  | .subtract => "-"
  | .multiply => "*"
  | .divide => "/"
  | .wholeDivide => "//"
  | .remainder => "%"

/-- How tightly an operator binds. -/
def priority : RollOperator → Nat
  | .compare _ => 0
  | .add | .subtract => 1
  | .multiply | .divide | .wholeDivide | .remainder => 2

end RollOperator

/-- A dice expression. -/
inductive Roll where
  | dice (count sides : Nat)
  | integer (n : Nat)
  | decimal (x : Float)
  | group (inner : Roll)
  | signed (negative : Bool) (operand : Roll)
  | binary (op : RollOperator) (left right : Roll)
  deriving Repr, Inhabited

end CharacterSheet
