import CharacterSheet.Arithmetic.Error

/-!
# Calculation with numbers

Integers are exact at any size; a quotient is always a double, and so is every result with a
double among its operands. A remainder takes the sign of the divisor.
-/

namespace CharacterSheet.Arithmetic

/-- The double nearest to a number. -/
def toFloat : Number → Except Error Float
  | .float x => .ok x
  | .int n =>
    match Binary64.ofInt? n with
    | some x => .ok x
    | none => .error .integerTooLarge

/-- An operation on two numbers that are taken as doubles. -/
def onFloats {α : Type} (f : Float → Float → Except Error α) (m n : Number) : Except Error α := do
  let x ← toFloat m
  f x (← toFloat n)

/-- An operation on two numbers, given for integers and for doubles. -/
def calculate (ints : Int → Int → Except Error Number)
    (floats : Float → Float → Except Error Number) (m n : Number) : Except Error Number :=
  match m, n with
  | .int a, .int b => ints a b
  | m, n => onFloats floats m n

namespace Calculation

/-- The sum of two numbers. -/
def sum : Number → Number → Except Error Number :=
  calculate (fun a b ↦ .ok (.int (a + b))) (fun x y ↦ .ok (.float (x + y)))

/-- The difference of two numbers. -/
def difference : Number → Number → Except Error Number :=
  calculate (fun a b ↦ .ok (.int (a - b))) (fun x y ↦ .ok (.float (x - y)))

/-- The product of two numbers. -/
def product : Number → Number → Except Error Number :=
  calculate (fun a b ↦ .ok (.int (a * b))) (fun x y ↦ .ok (.float (x * y)))

/-- The quotient of two integers, rounded once. -/
def ratio (a b : Int) : Except Error Number :=
  if b = 0 then .error .divisionByZero
  else
    let x := Binary64.ofRatio ((a < 0) != (b < 0)) a.natAbs b.natAbs
    if x.isInf then .error .quotientTooLarge else .ok (.float x)

/-- The quotient of two numbers. -/
def quotient : Number → Number → Except Error Number :=
  calculate ratio fun x y ↦
    if y == 0 then .error .floatDivisionByZero else .ok (.float (x / y))

/-- The remainder of two numbers. -/
def remainder : Number → Number → Except Error Number :=
  calculate (fun a b ↦ if b = 0 then .error .moduloByZero else .ok (.int (a.fmod b)))
    fun x y ↦
      if y == 0 then .error .floatModuloByZero else .ok (.float (Binary64.floorMod x y))

/-- The quotient of doubles rounded down. What is left is taken off before the division, so the
quotient is rounded only where it is close to an integer. -/
def floorQuotient (x y : Float) : Float :=
  let rest := Binary64.remainder x y
  let exact := (x - rest) / y
  let quotient :=
    if rest != 0 && Binary64.isNegative y != Binary64.isNegative rest then exact - 1 else exact
  if quotient == 0 then Binary64.withSign (Binary64.isNegative (x / y)) 0
  else
    let down := quotient.floor
    if quotient - down > 0.5 then down + 1 else down

/-- The quotient of two numbers rounded down. -/
def wholeQuotient : Number → Number → Except Error Number :=
  calculate (fun a b ↦ if b = 0 then .error .divisionByZero else .ok (.int (a.fdiv b)))
    fun x y ↦
      if y == 0 then .error .floatDivisionByZero else .ok (.float (floorQuotient x y))

/-- Integers are added exactly. -/
theorem sum_int (a b : Int) : sum (.int a) (.int b) = .ok (.int (a + b)) := rfl

/-- Integers are multiplied exactly. -/
theorem product_int (a b : Int) : product (.int a) (.int b) = .ok (.int (a * b)) := rfl

/-- The quotient rounded down and the remainder of integers make up the dividend. -/
theorem wholeQuotient_remainder_int (a : Int) {b : Int} (h : b ≠ 0) :
    ∃ q r, wholeQuotient (.int a) (.int b) = .ok (.int q) ∧
      remainder (.int a) (.int b) = .ok (.int r) ∧ b * q + r = a :=
  ⟨a.fdiv b, a.fmod b, by simp [wholeQuotient, calculate, h], by simp [remainder, calculate, h],
    Int.mul_fdiv_add_fmod a b⟩

end Calculation
end CharacterSheet.Arithmetic
