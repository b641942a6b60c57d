import CharacterSheet.Number.Decimal
import CharacterSheet.Text.Blank
import CharacterSheet.Text.DecimalDigit
import CharacterSheet.Text.Quoted

/-!
# Numerals

The text of an integer may use the decimal digits of any script, single underscores between
digits, a sign and white space around it. Conversions between integers and their decimal text
stop at 4300 digits, in both directions.
-/

namespace CharacterSheet

/-- The greatest number of digits that an integer is read from or written with. -/
def maxDigits : Nat := 4300

/-- Why a numeral was refused. -/
inductive NumeralError where
  /-- The text has more digits than an integer is read from. -/
  | tooManyDigits (count : Nat)
  /-- The integer has more digits than are written. -/
  | tooLargeToWrite
  /-- The text is no integer. -/
  | notAnInteger (text : String)
  /-- The text is no number. -/
  | notANumber (text : String)
  deriving Repr, DecidableEq

/-- The wording of a refused numeral. -/
def NumeralError.message : NumeralError → String
  | .tooManyDigits count =>
    "Exceeds the limit (4300 digits) for integer string conversion: value has " ++
      toString count ++ " digits; use sys.set_int_max_str_digits() to increase the limit"
  | .tooLargeToWrite =>
    "Exceeds the limit (4300 digits) for integer string conversion; " ++
      "use sys.set_int_max_str_digits() to increase the limit"
  | .notAnInteger text =>
    "invalid literal for int() with base 10: " ++
      String.ofList ((Text.quote text).toList.take 200)
  | .notANumber text => "could not convert string to float: " ++ Text.quote text

namespace Numeral
open Text

/-- A text without the underscores that stand between two digits; nothing when an underscore
stands elsewhere. The flag says whether the character before was a digit. -/
def dropSeparators? (afterDigit : Bool) : List Char → Option (List Char)
  | [] => some []
  | '_' :: c :: cs =>
    if afterDigit && isDecimalDigit c then (dropSeparators? true cs).map (c :: ·) else none
  | c :: cs => if c = '_' then none else (dropSeparators? (isDecimalDigit c) cs).map (c :: ·)

/-- A leading sign, and whether it is a minus. -/
def splitSign : List Char → Bool × List Char
  | '-' :: cs => (true, cs)
  | '+' :: cs => (false, cs)
  | cs => (false, cs)

/-- An integer under a sign. -/
def withSign (negative : Bool) (n : Nat) : Int := if negative then -(n : Int) else n

/-- The value of a run of digits, which may not be too long. -/
def readDigits (cs : List Char) : Except NumeralError Nat :=
  if cs.length ≤ maxDigits then .ok (digitsValue cs) else .error (.tooManyDigits cs.length)

/-- Read an integer. -/
def readInteger (s : String) : Except NumeralError Int :=
  let (negative, body) := splitSign (trimWhere isWhiteSpace s.toList)
  match dropSeparators? false body with
  | some ds =>
    if !ds.isEmpty && ds.all isDecimalDigit then (readDigits ds).map (withSign negative)
    else .error (.notAnInteger s)
  | none => .error (.notAnInteger s)

/-- An exponent part: its value, or nothing when the text is no exponent part. -/
def exponent? : List Char → Option Int
  | [] => some 0
  | c :: cs =>
    let (negative, ds) := splitSign cs
    if (c = 'e' || c = 'E') && !ds.isEmpty && ds.all isDecimalDigit then
      some (withSign negative (digitsValue ds))
    else none

/-- A number without sign: digits with a point among them and perhaps an exponent part. -/
def magnitude? (negative : Bool) (cs : List Char) : Option Float :=
  let whole := cs.takeWhile isDecimalDigit
  let rest := cs.dropWhile isDecimalDigit
  let (fraction, tail) :=
    match rest with
    | '.' :: more => (more.takeWhile isDecimalDigit, more.dropWhile isDecimalDigit)
    | _ => ([], rest)
  if whole.isEmpty && fraction.isEmpty then none
  else
    (exponent? tail).map fun e ↦
      Binary64.ofDecimal negative (digitsValue (whole ++ fraction)) (e - fraction.length)

/-- The double that a text without blanks and underscores is: a sign, and then a number or the
word for infinity or for no number. -/
def double? (cs : List Char) : Option Float :=
  let (negative, body) := splitSign cs
  let word := String.ofList (body.map Char.toLower)
  if word = "inf" || word = "infinity" then some (Binary64.infinity negative)
  else if word = "nan" then some Binary64.notANumber
  else magnitude? negative body

/-- Read a double. Underscores may stand between its digits. -/
def readFloat (s : String) : Except NumeralError Float :=
  match (dropSeparators? false (trimWhere isWhiteSpace s.toList)).bind double? with
  | some x => .ok x
  | none => .error (.notANumber s)

/-- Whether an integer has no more digits than are written. -/
def isWritable (n : Int) : Bool := n.natAbs < 10 ^ maxDigits

/-- An integer with few digits is writable. -/
theorem isWritable_of_lt {n : Int} {k : Nat} (hk : k ≤ maxDigits) (h : n.natAbs < 10 ^ k) :
    isWritable n = true := by
  apply decide_eq_true
  exact Nat.lt_of_lt_of_le h (Nat.pow_le_pow_right (by decide) hk)

/-- Write an integer. -/
def writeInteger (n : Int) : Except NumeralError String :=
  if isWritable n then .ok (toString n) else .error .tooLargeToWrite

theorem foldl_digits_lt (cs : List Char) (n : Nat) :
    cs.foldl (fun n c ↦ 10 * n + (digitValue? c).getD 0) n < (n + 1) * 10 ^ cs.length := by
  induction cs generalizing n with
  | nil => simp
  | cons c cs ih =>
    have hd : (digitValue? c).getD 0 < 10 := by
      cases h : digitValue? c with
      | none => simp
      | some d => exact digitValue?_lt h
    calc
      _ < (10 * n + (digitValue? c).getD 0 + 1) * 10 ^ cs.length := ih _
      _ ≤ (10 * (n + 1)) * 10 ^ cs.length := Nat.mul_le_mul_right _ (by omega)
      _ = (n + 1) * 10 ^ (c :: cs).length := by
        rw [List.length_cons, Nat.pow_succ, Nat.mul_comm 10, Nat.mul_assoc, Nat.mul_comm 10]

/-- A run of digits denotes less than the power of ten of its length. -/
theorem digitsValue_lt (cs : List Char) : digitsValue cs < 10 ^ cs.length := by
  simpa [digitsValue] using foldl_digits_lt cs 0

end Numeral
end CharacterSheet
