import CharacterSheet.Arithmetic.Calculation
import CharacterSheet.Arithmetic.ComplexFloat

/-!
# Values of arithmetic expressions

Besides numbers an expression may hold truth values, texts, lists of arguments and functions,
and whatever its variables hold. Truth values count as one and nought wherever a number is asked
for. A list is known by the place where its items are kept, because it can be extended.
-/

namespace CharacterSheet.Arithmetic

/-- The functions that are called by name with a list of arguments. -/
inductive Function where
  | minimum
  | maximum
  | floor
  | ceiling
  | factorial
  | logarithm
  | hypotenuse
  | power
  | arcTangent
  | concatenate
  | choose
  deriving Repr, DecidableEq

namespace Function

/-- The functions with the names that they are called by. -/
def named : List (String × Function) := [
  ("fac", .factorial), ("log", .logarithm), ("min", .minimum), ("max", .maximum),
  ("pyt", .hypotenuse), ("pow", .power), ("atan2", .arcTangent), ("concat", .concatenate),
  ("if", .choose), ("floor", .floor), ("ceil", .ceiling)]

/-- The name of a function. -/
def name (f : Function) : String :=
  match named.find? (·.2 == f) with
  | some (name, _) => name
  | none => ""

/-- A function is found again by its name. -/
theorem lookup_name (f : Function) : named.lookup f.name = some f := by
  cases f <;> decide

end Function

/-- The value of an expression or of a part of one. -/
inductive Value where
  | null
  | number (n : Number)
  /-- The double of variables that is no number. It is one and the same in all of them, other than
  what calculations come to. -/
  | unordered
  | truth (b : Bool)
  | text (s : String)
  /-- The list that is kept in a place. -/
  | list (place : Nat)
  | object (fields : List (String × Value))
  | function (f : Function)
  /-- A power that is no real number. -/
  | complex (z : ComplexFloat)
  deriving Repr, Inhabited

namespace Value

/-- An integer as a value. -/
def int (n : Int) : Value := .number (.int n)

/-- A double as a value. -/
def float (x : Float) : Value := .number (.float x)

/-- The number that a value counts as. -/
def number? : Value → Option Number
  | .number n => some n
  | .unordered => some (.float Binary64.notANumber)
  | .truth b => some (.int (if b then 1 else 0))
  | _ => none

/-- The integer that a value counts as. -/
def int? (v : Value) : Option Int :=
  match v.number? with
  | some (.int n) => some n
  | _ => none

/-- The complex number that a value counts as. -/
def asComplex : Value → Except Error ComplexFloat
  | .complex z => .ok z
  | v =>
    match v.number? with
    | some n => (toFloat n).map fun x ↦ ⟨x, 0⟩
    | none => .error .wrongType

/-- Whether a value is a complex number that is not a double. -/
def isComplex : Value → Bool
  | .complex _ => true
  | _ => false

/-- The double that a value counts as. -/
def asFloat (v : Value) : Except Error Float :=
  match v.number? with
  | some n => toFloat n
  | none => .error .wrongType

/-- The number that an expression with this value stands for: a truth value is one or nought, a
text is read as a double, and a double without a fraction becomes an integer. -/
def toNumber : Value → Except Error Number
  | .number n => .ok n.fold
  | .unordered => .ok (.float Binary64.notANumber)
  | .truth b => .ok (.int (if b then 1 else 0))
  | .text s =>
    match Numeral.readFloat s with
    | .ok x => .ok (Number.float x).fold
    | .error e => .error (.numeral e)
  | .null | .list _ | .object _ | .function _ | .complex _ => .error .wrongType

end Value
end CharacterSheet.Arithmetic
