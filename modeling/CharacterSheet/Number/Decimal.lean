import CharacterSheet.Number.Binary64

/-!
# Decimal text of doubles

A double is written with the fewest decimal digits that read back as the same double, and of
those with the digits nearest to it. The layout of the digits is a value of its own.
-/

namespace CharacterSheet.Decimal

/-- How the digits of a number are laid out. -/
structure Layout where
  /-- The least decimal exponent that is written without an exponent part. -/
  leastPositional : Int
  /-- The least decimal exponent beyond which an exponent part is written again. -/
  leastScientific : Int
  /-- The least number of digits of an exponent. -/
  exponentWidth : Nat

/-- Numbers from `1e-4` up to, but not including, `1e16` are written in full; an exponent has
a sign and at least two digits. -/
def documentLayout : Layout := ⟨-4, 16, 2⟩

/-- The decimal digits of a natural. -/
def digits (n : Nat) : List Char := Nat.toDigits 10 n

/-- The interval of numbers that round to a double `m · 2 ^ q`, in units of `2 ^ (q - 2)`: both
ends, and whether they belong to it. -/
def roundingInterval (m : Nat) (q : Int) : Nat × Nat × Bool :=
  let below := if m == 2 ^ 52 && q > -1074 then 1 else 2
  (4 * m - below, 4 * m + 2, m % 2 == 0)

/-- The decimal exponent of the first digit of a positive ratio. -/
def leadingPower (num den : Nat) : Int :=
  let rough : Int := (digits num).length - (digits den).length
  let reached :=
    if 0 ≤ rough then den * 10 ^ rough.toNat ≤ num else den ≤ num * 10 ^ (-rough).toNat
  if reached then rough else rough - 1

/-- A point `d · 10 ^ k` as a ratio over the unit `2 ^ u`. -/
def gridPoint (d : Nat) (k u : Int) : Nat × Nat :=
  let ten := if 0 ≤ k then (10 ^ k.toNat, 1) else (1, 10 ^ (-k).toNat)
  let two := Binary64.scale 1 (-u)
  (d * ten.1 * two.1, ten.2 * two.2)

/-- The digits of `m · 2 ^ q` on the grid of `10 ^ k`, if one of the two neighbours on the grid
reads back: the nearer of those that do, and of two equally near the even one. -/
def onGrid? (m : Nat) (q k : Int) : Option Nat :=
  let u := q - 2
  let (low, high, closed) := roundingInterval m q
  let readsBack (d : Nat) : Bool :=
    let (n, den) := gridPoint d k u
    if closed then low * den ≤ n && n ≤ high * den else low * den < n && n < high * den
  let value := 4 * m
  let (unitNum, unitDen) := gridPoint 1 k u
  let d := value * unitDen / unitNum
  let toLower := 2 * (value * unitDen - d * unitNum)
  match readsBack d, readsBack (d + 1) with
  | true, true =>
    if toLower < unitNum || (toLower == unitNum && d % 2 == 0) then some d else some (d + 1)
  | true, false => some d
  | false, true => some (d + 1)
  | false, false => none

/-- The shortest digits of a positive double and the power of ten of the last one. -/
def shortest (m : Nat) (q : Int) : Nat × Int :=
  let (num, den) := Binary64.scale m q
  let lead := leadingPower num den
  let grids := (List.range 17).map fun n : Nat ↦ lead - n
  match grids.findSome? fun k ↦ (onGrid? m q k).map fun d ↦ (d, k) with
  | some found => found
  | none => (0, 0)

/-- An exponent with its sign and at least `width` digits. -/
def exponentText (width : Nat) (e : Int) : List Char :=
  let ds := digits e.natAbs
  (if e < 0 then '-' else '+') :: (List.replicate (width - ds.length) '0' ++ ds)

/-- The digits `ds`, of which the first has the decimal exponent `e`, laid out. Trailing zeros
of `ds` are dropped, and a number without a fraction ends in `.0`. -/
def layOut (layout : Layout) (ds : List Char) (e : Int) : List Char :=
  let ds := (ds.reverse.dropWhile (· == '0')).reverse
  if layout.leastPositional ≤ e && e < layout.leastScientific then
    if e < 0 then
      '0' :: '.' :: (List.replicate ((-e).toNat - 1) '0' ++ ds)
    else
      let whole := ds.take (e.toNat + 1)
      let fraction := ds.drop (e.toNat + 1)
      whole ++ List.replicate (e.toNat + 1 - whole.length) '0' ++
        '.' :: (if fraction.isEmpty then ['0'] else fraction)
  else
    ds.take 1 ++ (if ds.length > 1 then '.' :: ds.drop 1 else []) ++
      'e' :: exponentText layout.exponentWidth e

/-- The text of a double in a layout. -/
def write (layout : Layout) (x : Float) : List Char :=
  match Binary64.decode x with
  | .notANumber => "nan".toList
  | .infinite negative => (if negative then "-inf" else "inf").toList
  | .finite negative m q =>
    let magnitude :=
      if m == 0 then "0.0".toList
      else
        let (d, k) := shortest m q
        let ds := digits d
        layOut layout ds (k + ds.length - 1)
    if negative then '-' :: magnitude else magnitude

/-- The text of a double in documents and messages. -/
def text (x : Float) : String := String.ofList (write documentLayout x)

end CharacterSheet.Decimal
