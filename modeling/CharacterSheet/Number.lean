import CharacterSheet.Number.Numeral

/-!
# Numbers of a character sheet

A number is an integer of any size or a double. The two kinds are kept apart, because a
document is written back with the kind it was read with, and they are compared by value.
-/

namespace CharacterSheet

/-- An integer or a double. -/
inductive Number where
  | int (n : Int)
  | float (x : Float)
  deriving Repr

/-- The six comparisons of a condition. -/
inductive Comparison where
  | lt | gt | le | ge | eq | ne
  deriving Repr, DecidableEq

namespace Comparison

/-- The sign of a comparison. -/
def symbol : Comparison → String
  | .lt => "<"
  | .gt => ">"
  | .le => "<="
  | .ge => ">="
  | .eq => "=="
  | .ne => "!="

/-- The comparisons in the order in which they are listed. -/
def all : List Comparison := [.lt, .gt, .le, .ge, .eq, .ne]

/-- The comparison with a sign. -/
def ofSymbol? (s : String) : Option Comparison := all.find? (·.symbol == s)

/-- Whether a comparison accepts an ordering; `none` stands for numbers without an order. -/
def accepts : Comparison → Option Ordering → Bool
  | .lt, o => o == some .lt
  | .gt, o => o == some .gt
  | .le, o => o == some .lt || o == some .eq
  | .ge, o => o == some .gt || o == some .eq
  | .eq, o => o == some .eq
  | .ne, o => o != some .eq

/-- Every comparison is found again by its sign. -/
theorem ofSymbol?_symbol (c : Comparison) : ofSymbol? c.symbol = some c := by
  cases c <;> decide

end Comparison

namespace Number

/-- Where a number lies among the rationals and the two infinities. -/
inductive Position where
  | below
  | at (num : Int) (den : Nat)
  | above
  | nowhere

/-- The position of a number. -/
def position : Number → Position
  | .int n => .at n 1
  | .float x =>
    match Binary64.decode x with
    | .notANumber => .nowhere
    | .infinite negative => if negative then .below else .above
    | .finite negative m q =>
      let (num, den) := Binary64.scale m q
      .at (if negative then -(num : Int) else num) den

/-- The exact order of two numbers; nothing when one of them is not a number. -/
def order? (a b : Number) : Option Ordering :=
  match a.position, b.position with
  | .nowhere, _ | _, .nowhere => none
  | .below, .below | .above, .above => some .eq
  | .below, _ | _, .above => some .lt
  | _, .below | .above, _ => some .gt
  | .at n d, .at m e => some (compare (n * e) (m * d))

/-- Compare two numbers by value. -/
def compare (c : Comparison) (a b : Number) : Bool := c.accepts (order? a b)

/-- The integer that a number is, if it is one. -/
def int? : Number → Option Int
  | .int n => some n
  | .float _ => none

/-- Whether a number is neither infinite nor no number at all. -/
def isFinite : Number → Bool
  | .int _ => true
  | .float x => x.isFinite

/-- Whether a number is a double that is no number. -/
def isNaN : Number → Bool
  | .int _ => false
  | .float x => x.isNaN

/-- Whether a number is zero. -/
def isZero : Number → Bool
  | .int n => n == 0
  | .float x => x == 0

/-- The text of a number: an integer in decimal, a double by its shortest digits. -/
def spelling : Number → String
  | .int n => toString n
  | .float x => Decimal.text x

/-- A double without a fraction becomes an integer. -/
def fold : Number → Number
  | .int n => .int n
  | .float x =>
    match Binary64.toInt? x with
    | some n => .int n
    | none => .float x

/-- The text of a number, in which a double without a fraction is written as an integer; nothing
is written of an integer that has too many digits. -/
def plainText (a : Number) : Except NumeralError String :=
  match a.fold with
  | .int n => Numeral.writeInteger n
  | .float x => .ok (Decimal.text x)

/-- Integers compare as integers. -/
theorem order?_int (a b : Int) : order? (.int a) (.int b) = some (Ord.compare a b) := by
  simp [order?, position]

/-- An integer keeps its digits, up to the greatest number of digits. -/
theorem plainText_int (n : Int) (h : n.natAbs < 10 ^ maxDigits) :
    plainText (.int n) = .ok (toString n) := by
  simp [plainText, fold, Numeral.writeInteger, Numeral.isWritable, h]

end Number
end CharacterSheet
