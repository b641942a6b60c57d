/-!
# Doubles and the rationals they denote

A finite double is an integer times a power of two. Decoding it makes comparison, remainder
and rounding to an integer exact; rounding a ratio of naturals to the nearest double, ties to
the even one, is the way back.
-/

-- Powers of integers are the core library's, also where an algebra library is loaded.
attribute [instance (high), default_instance high] instPowNat

namespace CharacterSheet.Binary64

/-- What the bits of a double stand for. A finite one is `± m · 2 ^ q`. -/
inductive Denotation where
  | notANumber
  | infinite (negative : Bool)
  | finite (negative : Bool) (m : Nat) (q : Int)
  deriving Repr, DecidableEq

/-- A double taken apart into sign, integer significand and power of two. -/
def decode (x : Float) : Denotation :=
  let bits := x.toBits.toNat
  let negative := bits / 2 ^ 63 == 1
  let power : Nat := bits / 2 ^ 52 % 2 ^ 11
  let fraction : Nat := bits % 2 ^ 52
  if power == 2047 then
    if fraction == 0 then .infinite negative else .notANumber
  else if power == 0 then .finite negative fraction (-1074)
  else .finite negative (2 ^ 52 + fraction) ((power : Int) - 1075)

/-- The double of a sign and the bits below it. -/
def ofSignAndBits (negative : Bool) (bits : Nat) : Float :=
  Float.ofBits (UInt64.ofNat (if negative then 2 ^ 63 + bits else bits))

/-- Infinity of a sign. -/
def infinity (negative : Bool) : Float := ofSignAndBits negative (2047 * 2 ^ 52)

/-- The double that is no number. -/
def notANumber : Float := Float.ofBits 0x7ff8000000000000

/-- The quotient of two naturals rounded to an integer, a half going to the even neighbour. -/
def roundHalfEven (num den : Nat) : Nat :=
  let quotient := num / den
  let rest := 2 * (num % den)
  if rest > den || (rest == den && quotient % 2 == 1) then quotient + 1 else quotient

/-- A natural scaled by a power of two, as a ratio of naturals. -/
def scale (n : Nat) (q : Int) : Nat × Nat :=
  if 0 ≤ q then (n * 2 ^ q.toNat, 1) else (n, 2 ^ (-q).toNat)

/-- The double nearest to `num / den`, ties to even; infinity beyond the largest double. -/
def ofRatio (negative : Bool) (num den : Nat) : Float :=
  if num == 0 then ofSignAndBits negative 0
  else
    let rough : Int := (num.log2 : Int) - den.log2 - 53
    let significand (q : Int) : Nat × Nat :=
      let (up, down) := scale 1 (-q)
      (num * up, den * down)
    let close := if (significand rough).1 / (significand rough).2 < 2 ^ 53 then rough else rough + 1
    let q := max close (-1074)
    if q > 971 then infinity negative
    else
      let (n, d) := significand q
      let bits := (q + 1074).toNat * 2 ^ 52 + roundHalfEven n d
      ofSignAndBits negative (min bits (2047 * 2 ^ 52))

/-- The double nearest to an integer, when it lies in the finite range. -/
def ofInt? (n : Int) : Option Float :=
  let x := ofRatio (n < 0) n.natAbs 1
  if x.isInf then none else some x

/-- The double nearest to `digits · 10 ^ power`. Powers far out of range are answered without
computing them. -/
def ofDecimal (negative : Bool) (digits : Nat) (power : Int) : Float :=
  let size : Int := (Nat.toDigits 10 digits).length
  if digits == 0 || power + size < -330 then ofSignAndBits negative 0
  else if power + size > 310 then infinity negative
  else if 0 ≤ power then ofRatio negative (digits * 10 ^ power.toNat) 1
  else ofRatio negative digits (10 ^ (-power).toNat)

/-- A finite double as an integer over a positive natural. -/
def toRatio? (x : Float) : Option (Int × Nat) :=
  match decode x with
  | .finite negative m q =>
    let (num, den) := scale m q
    some (if negative then -(num : Int) else num, den)
  | _ => none

/-- The greatest integer that is not above a finite double. -/
def floor? (x : Float) : Option Int := (toRatio? x).map fun (num, den) ↦ num.fdiv den

/-- The least integer that is not below a finite double. -/
def ceil? (x : Float) : Option Int := (toRatio? x).map fun (num, den) ↦ -((-num).fdiv den)

/-- A finite double without its fraction. -/
def truncate? (x : Float) : Option Int := (toRatio? x).map fun (num, den) ↦ num.tdiv den

/-- The integer nearest to a finite double, a half going to the even neighbour. -/
def round? (x : Float) : Option Int :=
  (toRatio? x).map fun (num, den) ↦
    let magnitude := roundHalfEven num.natAbs den
    if num < 0 then -(magnitude : Int) else magnitude

/-- The integer that a double denotes, when it is finite and has no fraction. -/
def toInt? (x : Float) : Option Int :=
  match toRatio? x with
  | some (num, den) => if num % den == 0 then some (num / den) else none
  | none => none

/-- Whether the sign bit is set, which also tells the two zeros apart. -/
def isNegative (x : Float) : Bool := x.toBits.toNat / 2 ^ 63 == 1

/-- A magnitude under a given sign. -/
def withSign (negative : Bool) (x : Float) : Float :=
  ofSignAndBits negative (x.toBits.toNat % 2 ^ 63)

/-- The exact remainder of a truncated division, with the sign of the dividend. -/
def remainder (x y : Float) : Float :=
  match decode x, decode y with
  | .finite negative m q, .finite _ n r =>
    if n == 0 then notANumber
    else
      let least := min q r
      let a := m * 2 ^ (q - least).toNat
      let b := n * 2 ^ (r - least).toNat
      let (num, den) := scale (a % b) least
      ofRatio negative num den
  | .finite .., .infinite _ => x
  | _, _ => notANumber

/-- The remainder that takes the sign of the divisor. -/
def floorMod (x y : Float) : Float :=
  let rest := remainder x y
  if rest == 0 then withSign (isNegative y) 0
  else if rest.isNaN then rest
  else if isNegative rest != isNegative y then rest + y
  else rest

/-- A quotient over a positive divisor is within half a unit of the rounded one. -/
theorem roundHalfEven_near (num den : Nat) (h : 0 < den) :
    2 * (roundHalfEven num den * den) ≤ 2 * num + den ∧
      2 * num ≤ 2 * (roundHalfEven num den * den) + den := by
  have hd := Nat.div_add_mod num den
  have hm := Nat.mod_lt num h
  have hc : num / den * den = den * (num / den) := Nat.mul_comm _ _
  unfold roundHalfEven
  simp only [gt_iff_lt, Bool.or_eq_true, decide_eq_true_eq, Bool.and_eq_true, beq_iff_eq]
  split
  · next hr =>
    have : den ≤ 2 * (num % den) := by omega
    rw [Nat.add_mul, Nat.one_mul]
    omega
  · next hr =>
    have : 2 * (num % den) ≤ den := by omega
    omega

end CharacterSheet.Binary64
