import CharacterSheet.Arithmetic.Template
import CharacterSheet.Text.Literal

/-!
# Operators and functions

Numbers are calculated with; texts and lists can be joined and repeated, and everything can be
compared for equality, joined as text and taken as a condition.
-/

namespace CharacterSheet.Arithmetic
open Value

/-- Operators between two operands. -/
inductive Binary where
  | power
  | modulo
  | divide
  | multiply
  | add
  | subtract
  | concatenate
  | compare (c : Comparison)
  | member
  | conjunction
  | exclusive
  | disjunction
  /-- The comma between arguments. -/
  | argument
  /-- The word for negation between two operands, which has no meaning. -/
  | negation
  /-- The word for dice, which has no meaning here. -/
  | dice
  deriving Repr, DecidableEq

/-- Functions of one double. -/
inductive RealFunction where
  | sin
  | cos
  | tan
  | asin
  | acos
  | atan
  | sinDegrees
  | cosDegrees
  | tanDegrees
  | asinDegrees
  | acosDegrees
  | atanDegrees
  | sqrt
  | exp
  deriving Repr, DecidableEq

/-- Operators on one operand. -/
inductive Unary where
  | negate
  | negation
  | absolute
  | ceiling
  | floor
  | round
  | real (f : RealFunction)
  deriving Repr, DecidableEq

/-- A power of complex numbers. -/
def complexPower (z w : ComplexFloat) : Except Error Value :=
  match z.pow? w with
  | none => .error .zeroToComplexPower
  | some p => if p.isInfinite then .error .complexPowerTooLarge else .ok (.complex p)

/-- A power of doubles. A negative base with a fraction as its exponent gives a complex number. -/
def floatPower (x y : Float) : Except Error Value :=
  if x == 0 && y < 0 && y.isFinite then .error .zeroToNegativePower
  else if x < 0 && x.isFinite && y.isFinite && y.floor != y then complexPower ⟨x, 0⟩ ⟨y, 0⟩
  else
    let z := Float.pow x y
    if z.isInf && x.isFinite && y.isFinite then .error .powerTooLarge else .ok (.float z)

/-- A power of an integer. Powers of nought and one are had without multiplying. -/
def exactPower (a : Int) (n : Nat) : Int :=
  if a.natAbs ≤ 1 then if n = 0 then 1 else if n % 2 = 0 then a * a else a else a ^ n

/-- A power of an integer is what repeated products give. -/
theorem exactPower_eq (a : Int) (n : Nat) : exactPower a n = a ^ n := by
  unfold exactPower
  split
  · next h =>
    split
    · next hn => rw [hn, Int.pow_zero]
    · next hn =>
      have unit : a = 0 ∨ a * a = 1 := by
        have cases : a = 0 ∨ a = 1 ∨ a = -1 := by omega
        obtain rfl | rfl | rfl := cases <;> simp
      obtain rfl | unit := unit
      · rw [Int.zero_pow hn]
        split <;> rfl
      · have even (k : Nat) : a ^ (2 * k) = 1 := by
          rw [Int.pow_mul, Int.pow_succ, Int.pow_succ, Int.pow_zero, Int.one_mul, unit, Int.one_pow]
        split
        · rw [unit, ← even (n / 2)]
          exact congrArg (a ^ ·) (by omega)
        · calc a = a ^ (2 * (n / 2)) * a := by rw [even, Int.one_mul]
            _ = a ^ (2 * (n / 2) + 1) := (Int.pow_succ ..).symm
            _ = a ^ n := congrArg (a ^ ·) (by omega)
  · rfl

/-- A power of integers, exact for exponents that are not negative. -/
def integerPower (a b : Int) : Except Error Value :=
  if 0 ≤ b then .ok (.int (exactPower a b.toNat))
  else onFloats floatPower (.int a) (.int b)

/-- An operation on values that count as numbers, given for real and for complex numbers. -/
def onNumbers (reals : Number → Number → Except Error Value)
    (complexes : ComplexFloat → ComplexFloat → Except Error Value) (v w : Value) :
    Except Error Value :=
  if v.isComplex || w.isComplex then do
    let a ← v.asComplex
    complexes a (← w.asComplex)
  else
    match v.number?, w.number? with
    | some m, some n => reals m n
    | _, _ => .error .wrongType

/-- A calculation with numbers as an operation on values. -/
def calculated (f : Number → Number → Except Error Number) (m n : Number) : Except Error Value :=
  (f m n).map .number

/-- A power of real numbers. -/
def numberPower : Number → Number → Except Error Value
  | .int a, .int b => integerPower a b
  | m, n => onFloats floatPower m n

/-- A quotient of complex numbers. -/
def complexQuotient (z w : ComplexFloat) : Except Error Value :=
  match z.div? w with
  | none => .error .complexDivisionByZero
  | some q => .ok (.complex q)

/-- An operation that complex numbers do not have. -/
def noComplex (_ _ : ComplexFloat) : Except Error Value := .error .wrongType

/-- The greatest number of copies, and of items in all copies. -/
def maxCount : Nat := 2 ^ 63 - 1

/-- The greatest number of items in all copies that there is room for. -/
def roomForCopies : Nat := 2 ^ 27

/-- Copies of a list in a row; none for a count that is not positive. The error is for more items
than can be counted. -/
def repeated {α : Type} (xs : List α) (count : Int) (tooLong : Error) : Except Error (List α) :=
  let size := xs.length * count.toNat
  if count < -maxCount - 1 ∨ (maxCount : Int) < count then .error .countTooLarge
  else if maxCount < size then .error tooLong
  else if roomForCopies < size then .error .noRoom
  else .ok (List.replicate count.toNat xs).flatten

/-- The copies of a list in a row that a value counts. -/
def repeatedBy {α : Type} (xs : List α) (count : Value) (tooLong : Error) :
    Except Error (List α) :=
  match count.int? with
  | some n => repeated xs n tooLong
  | none => .error .wrongType

/-- The product of two values; a text or a list times an integer is repeated. -/
def product (v w : Value) : Evaluating Value :=
  match v, w with
  | .text s, n | n, .text s => do
    return .text (String.ofList (← repeatedBy s.toList n .repeatedTextTooLong))
  | .list place, n | n, .list place => do
    newList (← repeatedBy (← itemsOf place) n .noRoom)
  | v, w =>
    onNumbers (calculated Calculation.product) (fun z u ↦ .ok (.complex (z.mul u))) v w

/-- The sum of two values; texts and lists are joined. -/
def sum (v w : Value) : Evaluating Value :=
  match v, w with
  | .text s, .text t => return .text (s ++ t)
  | .list p, .list q => do newList ((← itemsOf p) ++ (← itemsOf q))
  | v, w =>
    onNumbers (calculated Calculation.sum) (fun z u ↦ .ok (.complex (z.add u))) v w

/-- The remainder of two values; that of a text is the text with its placeholders filled in. -/
def remainder (lists : Lists) (v w : Value) : Except Error Value :=
  match v with
  | .text s => filledTemplate lists s w
  | v => onNumbers (calculated Calculation.remainder) noComplex v w

/-- Exclusive or, bit by bit; negative integers have ones in front without end. -/
def bitwiseExclusive (a b : Int) : Int :=
  let magnitude (n : Int) : Nat := if n < 0 then (-n - 1).toNat else n.toNat
  let bits : Int := (magnitude a ^^^ magnitude b : Nat)
  if (a < 0) != (b < 0) then -bits - 1 else bits

/-- Exclusive or of integers or of truth values. -/
def exclusiveOr (v w : Value) : Except Error Value :=
  match v, w with
  | .truth a, .truth b => .ok (.truth (a != b))
  | v, w =>
    match v.int?, w.int? with
    | some a, some b => .ok (.int (bitwiseExclusive a b))
    | _, _ => .error .wrongType

/-- Whether a value is an item of a list, a text a part of another, or a key of an object. -/
def membership (lists : Lists) (v w : Value) : Except Error Value :=
  match v, w with
  | v, .list place => do
    return .truth (← (lists.items place).anyM fun item ↦
      if item.isSelf v then .ok true else same lists item v)
  | .text s, .text t => .ok (.truth (Text.occursIn s.toList t.toList))
  | .list _, .object _ | .object _, .object _ => .error .wrongType
  | .text s, .object fields => .ok (.truth (fields.lookup s).isSome)
  | _, .object _ => .ok (.truth false)
  | _, _ => .error .wrongType

/-- Two values, or a list of arguments and one more, as a list of arguments. -/
def withArgument (v w : Value) : Evaluating Value :=
  match v with
  | .list place => do
    modify (·.extend place w)
    return v
  | v => newList [v, w]

/-- The texts of values in a row. -/
def joinedText (lists : Lists) (vs : List Value) : Except Error Value := do
  return .text (String.join (← vs.mapM (display lists)))

/-- The value of an operator between two operands. -/
def Binary.apply (op : Binary) (v w : Value) : Evaluating Value := do
  match op with
  | .power => onNumbers numberPower complexPower v w
  | .modulo => remainder (← get) v w
  | .divide => onNumbers (calculated Calculation.quotient) complexQuotient v w
  | .multiply => product v w
  | .add => sum v w
  | .subtract =>
    onNumbers (calculated Calculation.difference) (fun z u ↦ .ok (.complex (z.sub u))) v w
  | .concatenate => joinedText (← get) [v, w]
  | .compare c => return .truth (← compareBy (← get) c v w)
  | .member => membership (← get) v w
  | .conjunction => return if v.isTruthy (← get) then w else v
  | .exclusive => exclusiveOr v w
  | .disjunction => return if v.isTruthy (← get) then v else w
  | .argument => withArgument v w
  | .negation => throw (.noMeaning "not")
  | .dice => throw .wrongType

/-- A result of a function on doubles; what is infinite or no number was not so before. -/
def checkedReal (x y : Float) (overflow : Error) : Except Error Value :=
  if y.isNaN && !x.isNaN then .error .outsideDomain
  else if y.isInf && x.isFinite then .error overflow
  else .ok (.float y)

/-- The ratio of a circle's circumference to its diameter. -/
def pi : Float := Float.ofBits 0x400921fb54442d18

/-- The base of the natural logarithm. -/
def euler : Float := Float.ofBits 0x4005bf0a8b145769

/-- An angle in radians. -/
def radians (x : Float) : Float := x * (pi / 180)

/-- An angle in degrees. -/
def degrees (x : Float) : Float := x * (180 / pi)

/-- The value of a function of one double. -/
def RealFunction.apply (f : RealFunction) (x : Float) : Except Error Value :=
  let plain (x y : Float) := checkedReal x y .outsideDomain
  let inDegrees (y : Float) : Except Error Value :=
    (plain x y).map fun _ ↦ .float (degrees y)
  match f with
  | .sin => plain x x.sin
  | .cos => plain x x.cos
  | .tan => plain x x.tan
  | .asin => plain x x.asin
  | .acos => plain x x.acos
  | .atan => plain x x.atan
  | .sinDegrees => plain (radians x) (radians x).sin
  | .cosDegrees => plain (radians x) (radians x).cos
  | .tanDegrees => plain (radians x) (radians x).tan
  | .asinDegrees => inDegrees x.asin
  | .acosDegrees => inDegrees x.acos
  | .atanDegrees => inDegrees x.atan
  | .sqrt => plain x x.sqrt
  | .exp => checkedReal x x.exp .outsideRange

/-- A number rounded to an integer by a rule for finite doubles. -/
def toInteger (rule : Float → Option Int) : Number → Except Error Value
  | .int n => .ok (.int n)
  | .float x =>
    match rule x with
    | some n => .ok (.int n)
    | none => .error (if x.isNaN then .notANumberAsInteger else .infinityAsInteger)

/-- The length of a complex number. -/
def complexLength (z : ComplexFloat) : Except Error Value :=
  let length := z.length
  if length.isInf && !z.isInfinite then .error .complexLengthTooLarge else .ok (.float length)

/-- The value of an operator on one operand. -/
def Unary.apply (lists : Lists) (op : Unary) (v : Value) : Except Error Value :=
  match op with
  | .negation => .ok (.truth (!v.isTruthy lists))
  | .negate =>
    match v with
    | .complex z => .ok (.complex z.neg)
    | v =>
      match v.number? with
      | some (.int n) => .ok (.int (-n))
      | some (.float x) => .ok (.float (-x))
      | none => .error .wrongType
  | .absolute =>
    match v with
    | .complex z => complexLength z
    | v =>
      match v.number? with
      | some (.int n) => .ok (.int n.natAbs)
      | some (.float x) => .ok (.float x.abs)
      | none => .error .wrongType
  | .real f => do f.apply (← v.asFloat)
  | .ceiling | .floor | .round =>
    let rule := match op with
      | .ceiling => Binary64.ceil?
      | .floor => Binary64.floor?
      | _ => Binary64.round?
    match v.number? with
    | some n => toInteger rule n
    | none => .error .wrongType

/-- The first of several values that no later one comes before. -/
def extreme (lists : Lists) (c : Comparison) (best : Value) : List Value → Except Error Value
  | [] => .ok best
  | v :: vs => do
    if ← compareBy lists c v best then extreme lists c v vs else extreme lists c best vs

/-- What a collection holds: the characters of a text, the items of a list, the keys of an
object. -/
def members (lists : Lists) : Value → Except Error (List Value)
  | .text s => .ok (s.toList.map fun c ↦ .text (String.singleton c))
  | .list place => .ok (lists.items place)
  | .object fields => .ok (fields.map fun (key, _) ↦ .text key)
  | _ => .error .wrongType

/-- The extreme of the arguments, or of what a single argument holds. -/
def extremeOf (lists : Lists) (f : Function) (c : Comparison) (vs : List Value) :
    Except Error Value :=
  match vs with
  | [] => .error .wrongType
  | [v] => do
    match ← members lists v with
    | [] => throw (.nothingToCompare f.name)
    | v :: vs => extreme lists c v vs
  | v :: vs => extreme lists c v vs

/-- The natural logarithm of a number. Integers beyond the doubles are scaled first. -/
def naturalLog : Number → Except Error Float
  | .float x =>
    if x.isNaN then .ok x else if x ≤ 0 then .error .outsideDomain else .ok x.log
  | .int n =>
    if n ≤ 0 then .error .outsideDomain
    else
      match Binary64.ofInt? n with
      | some x => .ok x.log
      | none =>
        let e := n.natAbs.log2 + 1
        let x := Binary64.ofRatio false n.natAbs (2 ^ e)
        let (x, e) := if x == 1 then (x / 2, e + 1) else (x, e)
        .ok (x.log + (2 : Float).log * Float.ofNat e)

/-- The product of the integers from one up to a natural. -/
def factorialOf : Nat → Nat
  | 0 => 1
  | n + 1 => (n + 1) * factorialOf n

/-- The factorial of an integer. -/
def factorialValue (v : Value) : Except Error Value :=
  match v.int? with
  | none => .error .wrongType
  | some n =>
    if n < 0 then .error .negativeFactorial
    else if n > 9223372036854775807 then .error .factorialTooLarge
    else .ok (.int (factorialOf n.toNat))

/-- A power of doubles that is real. -/
def realPower (x y : Float) : Except Error Value :=
  let z := Float.pow x y
  if x.isFinite && y.isFinite && z.isNaN then .error .outsideDomain
  else if x.isFinite && y.isFinite && z.isInf then
    .error (if x == 0 then .outsideDomain else .outsideRange)
  else .ok (.float z)

/-- The logarithm of a number to a base. -/
def logarithmTo (v w : Value) : Except Error Value :=
  match v.number? with
  | none => .error .wrongType
  | some n => do
    let x ← naturalLog n
    match w.number? with
    | none => throw .wrongType
    | some base =>
      let y ← naturalLog base
      if y == 0 then throw .floatDivisionByZero else return .float (x / y)

/-- The value of a function for a list of arguments. -/
def Function.apply (f : Function) (arguments : List Value) : Evaluating Value := do
  match f, arguments with
  | .minimum, vs => extremeOf (← get) f .lt vs
  | .maximum, vs => extremeOf (← get) f .gt vs
  | .floor, [v] => Unary.apply (← get) .floor v
  | .ceiling, [v] => Unary.apply (← get) .ceiling v
  | .factorial, [v] => factorialValue v
  | .logarithm, [v] =>
    match v.number? with
    | some n => return .float (← naturalLog n)
    | none => throw .wrongType
  | .logarithm, [v, w] => logarithmTo v w
  | .hypotenuse, [v, w] =>
    let total ← sum (← product v v) (← product w w)
    Unary.apply (← get) (.real .sqrt) total
  | .power, [v, w] =>
    let x ← v.asFloat
    realPower x (← w.asFloat)
  | .arcTangent, [v, w] =>
    let y ← v.asFloat
    return .float (Float.atan2 y (← w.asFloat))
  | .concatenate, v :: w :: vs => joinedText (← get) (v :: w :: vs)
  | .choose, [v, w, u] => return if v.isTruthy (← get) then w else u
  | _, _ => throw .wrongType

end CharacterSheet.Arithmetic
