import CharacterSheet.Roll.Reader
import CharacterSheet.Text.Blank

/-!
# Outcomes of rolls

The dice of an expression fall one after the other, from left to right, and what the dice show
is taken from a sequence of numbers. A roll stops when too many dice fall. Its outcome repeats
the expression, with what every die shows, and gives the total without its fraction.
-/

namespace CharacterSheet

/-- The greatest number of dice that fall in one roll. -/
def maxDice : Nat := 1000

/-- Why a dice expression is refused. -/
inductive RollRefusal where
  | empty
  | malformed
  | tooManyDice
  | noSides
  deriving Repr, DecidableEq

/-- The wording of a refusal. -/
def RollRefusal.message : RollRefusal → String
  | .empty => "empty dice expression"
  | .malformed => "malformed dice expression"
  | .tooManyDice => "Too many dice rolled."
  | .noSides => "Cannot roll a 0-sided die."

/-- Why a roll has no outcome. -/
inductive RollFailure where
  | refused (expression : String) (reason : RollRefusal)
  | divisionByZero
  | arithmetic (error : Arithmetic.Error)
  deriving Repr, DecidableEq

/-- The wording of a failure. -/
def RollFailure.message : RollFailure → String
  | .refused _ reason => reason.message
  | .divisionByZero => "Cannot divide by zero."
  | .arithmetic error => error.message

/-- A failure of arithmetic as a failure of a roll. -/
def RollFailure.ofArithmetic : Arithmetic.Error → RollFailure
  | .divisionByZero | .floatDivisionByZero | .moduloByZero | .floatModuloByZero => .divisionByZero
  | error => .arithmetic error

/-- What a roll comes to. -/
structure Outcome where
  text : String
  total : Int
  deriving Repr, DecidableEq

namespace Roll
open Arithmetic

/-- The dice of an expression with their sides, in the order in which they fall. -/
def diceTerms : Roll → List (Nat × Nat)
  | .dice count sides => [(count, sides)]
  | .integer _ | .decimal _ => []
  | .group inner => inner.diceTerms
  | .signed _ operand => operand.diceTerms
  | .binary _ left right => left.diceTerms ++ right.diceTerms

/-- How many dice an expression has. -/
def diceCount : Roll → Nat
  | .dice count _ => count
  | .integer _ | .decimal _ => 0
  | .group inner => inner.diceCount
  | .signed _ operand => operand.diceCount
  | .binary _ left right => left.diceCount + right.diceCount

/-- The first thing that goes wrong when dice fall after `thrown` others. -/
def refusal? (thrown : Nat) : List (Nat × Nat) → Option RollRefusal
  | [] => none
  | (count, sides) :: rest =>
    if count = 0 then refusal? thrown rest
    else if sides = 0 then some .noSides
    else if thrown + count > maxDice then some .tooManyDice
    else refusal? (thrown + count) rest

/-- What dice show that fall after `thrown` others. -/
def faces (source : Nat → Nat) (thrown count sides : Nat) : List Nat :=
  (List.range count).map fun i ↦ source (thrown + i) % sides + 1

/-- The value of an operator between two numbers. A comparison that holds counts as one. -/
def applyOperator (op : RollOperator) : Number → Number → Except Arithmetic.Error Number :=
  match op with
  | .compare c => fun a b ↦ .ok (.int (if Number.compare c a b then 1 else 0))
  | .add => Calculation.sum
  | .subtract => Calculation.difference
  | .multiply => Calculation.product
  | .divide => Calculation.quotient
  | .wholeDivide => Calculation.wholeQuotient
  | .remainder => Calculation.remainder

/-- The total of an expression whose dice fall after `thrown` others. -/
def total (source : Nat → Nat) (thrown : Nat) : Roll → Except Arithmetic.Error Number
  | .dice count sides => .ok (.int (faces source thrown count sides).sum)
  | .integer n => .ok (.int n)
  | .decimal x => .ok (.float x)
  | .group inner => total source thrown inner
  | .signed negative operand =>
    (total source thrown operand).map fun
      | .int n => .int (if negative then -n else n)
      | .float x => .float (if negative then -x else x)
  | .binary op left right => do
    let a ← total source thrown left
    applyOperator op a (← total source (thrown + left.diceCount) right)

/-- What a die of some sides shows, with its least and greatest face set off. -/
def faceText (sides face : Nat) : String :=
  if face = 1 || face = sides then "**" ++ toString face ++ "**" else toString face

/-- The text of an expression whose dice fall after `thrown` others. -/
def text (source : Nat → Nat) (thrown : Nat) : Roll → String
  | .dice count sides =>
    toString count ++ "d" ++ toString sides ++ " (" ++
      ", ".intercalate ((faces source thrown count sides).map (faceText sides)) ++ ")"
  | .integer n => toString n
  | .decimal x => Decimal.text x
  | .group inner => "(" ++ text source thrown inner ++ ")"
  | .signed negative operand => (if negative then "-" else "+") ++ text source thrown operand
  | .binary op left right =>
    text source thrown left ++ " " ++ op.symbol ++ " " ++
      text source (thrown + left.diceCount) right

/-- A number without its fraction. -/
def wholePart : Number → Except Arithmetic.Error Int
  | .int n => .ok n
  | .float x =>
    match Binary64.truncate? x with
    | some n => .ok n
    | none => .error (if x.isNaN then .notANumberAsInteger else .infinityAsInteger)

/-- The outcome of an expression whose dice may fall. -/
def outcome (source : Nat → Nat) (r : Roll) : Except Arithmetic.Error Outcome := do
  let whole ← wholePart (← r.total source 0)
  let digits ← (Numeral.writeInteger whole).mapError .numeral
  return ⟨r.text source 0 ++ " = `" ++ digits ++ "`", whole⟩

end Roll

/-- Roll a dice expression, blanks around it aside. The dice show what a sequence of numbers
makes them show. -/
def rollDice (source : Nat → Nat) (expression : String) : Except RollFailure Outcome :=
  let trimmed := Text.trimmed expression
  if trimmed.isEmpty then .error (.refused expression .empty)
  else
    match Roll.read trimmed with
    | .error .malformed => .error (.refused trimmed .malformed)
    | .error (.numeral e) => .error (.arithmetic (.numeral e))
    | .ok r =>
      match Roll.refusal? 0 r.diceTerms with
      | some reason => .error (.refused trimmed reason)
      | none => (r.outcome source).mapError RollFailure.ofArithmetic

end CharacterSheet
