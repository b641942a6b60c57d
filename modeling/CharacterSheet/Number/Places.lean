import CharacterSheet.Number.Decimal

/-!
# Doubles with a given number of digits

A double may be written with so many decimal places, with so many digits and an exponent, or in
whichever of the two ways is the shorter. The digits are those of its exact value, rounded once,
a half going to the even neighbour.
-/

namespace CharacterSheet.Decimal

/-- The ways to write a double with a given number of digits. -/
inductive Style where
  /-- With as many digits behind the point, and an exponent. -/
  | scientific
  /-- With as many digits behind the point, and no exponent. -/
  | fixed
  /-- With as many significant digits, and an exponent where one is due. -/
  | general
  deriving Repr, DecidableEq

/-- The digits of a ratio scaled by a power of ten, rounded to an integer. -/
def scaledDigits (num den : Nat) (power : Int) : Nat :=
  if 0 ≤ power then Binary64.roundHalfEven (num * 10 ^ power.toNat) den
  else Binary64.roundHalfEven num (den * 10 ^ (-power).toNat)

/-- No double has more significant digits, nor more places behind the point. -/
def mostDigits : Nat := 1100

/-- So many significant digits of a double, and the decimal exponent of the first of them. -/
def significant (num den count : Nat) : List Char × Int :=
  if num = 0 then (List.replicate count '0', 0)
  else
    let lead := leadingPower num den
    let own := min count mostDigits
    let d := scaledDigits num den (own - 1 - lead)
    let (d, e) := if d < 10 ^ own then (d, lead) else (d / 10, lead + 1)
    (digits d ++ List.replicate (count - own) '0', e)

/-- Digits before and behind a point. The point stands only before a digit, or when it is kept. -/
def pointed (keepPoint : Bool) (whole fraction : List Char) : List Char :=
  if fraction.isEmpty && !keepPoint then whole else whole ++ '.' :: fraction

/-- A double with so many decimal places. -/
def fixedText (keepPoint : Bool) (num den places : Nat) : List Char :=
  let own := min places mostDigits
  let ds := digits (scaledDigits num den own)
  let ds := List.replicate (own + 1 - ds.length) '0' ++ ds
  pointed keepPoint (ds.take (ds.length - own))
    (ds.drop (ds.length - own) ++ List.replicate (places - own) '0')

/-- Digits with their exponent. -/
def scientificText (keepPoint : Bool) (ds : List Char) (e : Int) : List Char :=
  pointed keepPoint (ds.take 1) (ds.drop 1) ++ 'e' :: exponentText 2 e

/-- Digits without the noughts at their end. -/
def withoutTrailing (ds : List Char) : List Char := (ds.reverse.dropWhile (· == '0')).reverse

/-- A double with so many significant digits. An exponent is due below the fourth place and from
the first place that no digit is left for. Noughts at the end are dropped unless the point is
kept. -/
def generalText (keepPoint : Bool) (num den count : Nat) : List Char :=
  let count := max count 1
  let (ds, e) := significant num den count
  let shown (ds : List Char) := if keepPoint then ds else withoutTrailing ds
  if e < -4 || (count : Int) ≤ e then
    scientificText keepPoint (ds.take 1 ++ shown (ds.drop 1)) e
  else
    let ds := List.replicate (-e).toNat '0' ++ ds
    pointed keepPoint (ds.take (e.toNat + 1)) (shown (ds.drop (e.toNat + 1)))

/-- The magnitude of a double in a style. -/
def styled (style : Style) (keepPoint : Bool) (count : Nat) (x : Float) : List Char :=
  match Binary64.decode x with
  | .notANumber => "nan".toList
  | .infinite _ => "inf".toList
  | .finite _ m q =>
    let (num, den) := Binary64.scale m q
    match style with
    | .fixed => fixedText keepPoint num den count
    | .scientific =>
      let (ds, e) := significant num den (count + 1)
      scientificText keepPoint ds e
    | .general => generalText keepPoint num den count

/-- A double in a style, with its sign when it is below nought. -/
def writeStyled (style : Style) (keepPoint : Bool) (count : Nat) (x : Float) : List Char :=
  if Binary64.isNegative x && !x.isNaN then '-' :: styled style keepPoint count x
  else styled style keepPoint count x

/-- So many places show a ratio to within half a unit of the last one. -/
theorem scaledDigits_near (num den places : Nat) (h : 0 < den) :
    2 * (scaledDigits num den places * den) ≤ 2 * (num * 10 ^ places) + den ∧
      2 * (num * 10 ^ places) ≤ 2 * (scaledDigits num den places * den) + den := by
  have hp : (0 : Int) ≤ places := Int.natCast_nonneg places
  simpa [scaledDigits, hp] using Binary64.roundHalfEven_near (num * 10 ^ places) den h

end CharacterSheet.Decimal
