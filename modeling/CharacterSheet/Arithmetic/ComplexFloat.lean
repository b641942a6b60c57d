import CharacterSheet.Number.Decimal

/-!
# Complex numbers of doubles

A power of a negative number need not be real. What is computed from it is rounded step by step.
-/

namespace CharacterSheet.Arithmetic

/-- A complex number with doubles as its parts. -/
structure ComplexFloat where
  re : Float
  im : Float := 0
  deriving Repr, Inhabited

namespace ComplexFloat

/-- Whether both parts are nought. -/
def isZero (z : ComplexFloat) : Bool := z.re == 0 && z.im == 0

/-- Whether both parts are the same. -/
def same (z w : ComplexFloat) : Bool := z.re == w.re && z.im == w.im

/-- The sum, part by part. -/
def add (z w : ComplexFloat) : ComplexFloat := ⟨z.re + w.re, z.im + w.im⟩

/-- The difference, part by part. -/
def sub (z w : ComplexFloat) : ComplexFloat := ⟨z.re - w.re, z.im - w.im⟩

/-- The product. -/
def mul (z w : ComplexFloat) : ComplexFloat :=
  ⟨z.re * w.re - z.im * w.im, z.re * w.im + z.im * w.re⟩

/-- The number with both parts negated. -/
def neg (z : ComplexFloat) : ComplexFloat := ⟨-z.re, -z.im⟩

/-- The quotient, scaled by the greater part of the divisor; none when the divisor is nought. -/
def div? (z w : ComplexFloat) : Option ComplexFloat :=
  if w.isZero then none
  else if w.im.abs ≤ w.re.abs then
    let ratio := w.im / w.re
    let scale := w.re + w.im * ratio
    some ⟨(z.re + z.im * ratio) / scale, (z.im - z.re * ratio) / scale⟩
  else
    let ratio := w.re / w.im
    let scale := w.re * ratio + w.im
    some ⟨(z.re * ratio + z.im) / scale, (z.im * ratio - z.re) / scale⟩

/-- The product of a number and so many copies of another, by repeated squaring. -/
def timesPower (r z : ComplexFloat) (n : Nat) : ComplexFloat :=
  if n = 0 then r
  else timesPower (if n % 2 = 1 then r.mul z else r) (z.mul z) (n / 2)
termination_by n
decreasing_by omega

/-- A power of two as a double. -/
def powerOfTwo (e : Int) : Float :=
  let (num, den) := Binary64.scale 1 e
  Binary64.ofRatio false num den

/-- The hypotenuse over two legs, the longer one first, neither of them very long or short. The
rounding errors of the squares are made good in the end. -/
def correctedHypotenuse (x y : Float) : Float :=
  let h := Float.sqrt (x * x + y * y)
  if h ≤ 2 * y then
    let d := h - y
    h - (x * (2 * d - x) + (d - 2 * (x - y)) * d) / (2 * h)
  else
    let d := h - x
    h - (2 * d * (x - 2 * y) + ((4 * d - y) * y + d * d)) / (2 * h)

/-- The hypotenuse over two legs, of which the longer comes first. A leg that is too short to
matter is added on, and very long or short ones are scaled. -/
def hypotenuse (x y : Float) : Float :=
  let negligible := powerOfTwo (-54)
  let scaling := powerOfTwo (-600)
  if powerOfTwo 511 < x then
    if y ≤ x * negligible then x + y
    else correctedHypotenuse (x * scaling) (y * scaling) / scaling
  else if y < powerOfTwo (-459) then
    if x ≥ y / negligible then x + y
    else correctedHypotenuse (x / scaling) (y / scaling) * scaling
  else if y ≤ x * negligible then x + y
  else correctedHypotenuse x y

/-- The length. It is infinite when a part is. -/
def length (z : ComplexFloat) : Float :=
  let x := z.re.abs
  let y := z.im.abs
  if x.isInf || y.isInf then Binary64.infinity false
  else if x.isNaN || y.isNaN then Binary64.notANumber
  else if x < y then hypotenuse y x
  else hypotenuse x y

/-- The length and the angle of the power by lengths and angles, for a base that is not nought. -/
def polarPower (z w : ComplexFloat) : Float × Float :=
  let length := z.length
  let angle := Float.atan2 z.im z.re
  if w.im == 0 then (Float.pow length w.re, angle * w.re)
  else
    (Float.pow length w.re / Float.exp (angle * w.im),
      angle * w.re + w.im * Float.log length)

/-- The integer that a number is, if it is one of at most a hundred. -/
def smallInteger? (w : ComplexFloat) : Option Int :=
  if w.im == 0 && w.re.floor == w.re && w.re.abs ≤ 100 then
    some (if w.re < 0 then -(w.re.abs.toUInt64.toNat : Int) else w.re.toUInt64.toNat)
  else none

/-- The power; none when nought is raised to what is negative or no real number, or the
angle is infinite. Small integers are exponents of repeated products. -/
def pow? (z w : ComplexFloat) : Option ComplexFloat :=
  match w.smallInteger? with
  | some n =>
    let p := timesPower ⟨1, 0⟩ z n.natAbs
    if 0 < n then some p else div? ⟨1, 0⟩ p
  | none =>
    if z.isZero then if w.im != 0 || w.re < 0 then none else some ⟨0, 0⟩
    else
      let (length, angle) := polarPower z w
      if angle.isInf then none else some ⟨length * angle.cos, length * angle.sin⟩

/-- Whether a part is infinite. -/
def isInfinite (z : ComplexFloat) : Bool := z.re.isInf || z.im.isInf

/-- The text of a part, in which a whole number has no fraction. -/
def partText (x : Float) : String :=
  let cs := (Decimal.text x).toList
  String.ofList (if cs.drop (cs.length - 2) = ['.', '0'] then cs.take (cs.length - 2) else cs)

/-- The text of a complex number. -/
def text (z : ComplexFloat) : String :=
  let im := partText z.im
  if z.re == 0 && !(1 / z.re < 0) then im ++ "j"
  else
    "(" ++ partText z.re ++ (if im.toList.head? = some '-' then "" else "+") ++ im ++ "j)"

end ComplexFloat
end CharacterSheet.Arithmetic
