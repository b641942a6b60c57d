import CharacterSheet.Json
import CharacterSheet.Text.Pieces
import CharacterSheet.Yaml.Quoted

/-!
# What plain scalars mean

A plain scalar is null, a truth value or a number when it is written like one, and a text
otherwise. Integers may be written to base two, eight, ten or sixteen, and numbers in groups to
base sixty; underscores do not count. Two signs are kept for mappings and are no values.
-/

namespace CharacterSheet.Yaml
open Text

/-- The words for null. -/
def nullWords : List String := ["", "~", "null", "Null", "NULL"]

/-- The words for the truth values, no and yes. -/
def truthWords : List String × List String :=
  (["no", "No", "NO", "false", "False", "FALSE", "off", "Off", "OFF"],
    ["yes", "Yes", "YES", "true", "True", "TRUE", "on", "On", "ON"])

/-- The words for infinity behind a sign. -/
def infinityWords : List String := [".inf", ".Inf", ".INF"]

/-- The words for what is no number. -/
def notANumberWords : List String := [".nan", ".NaN", ".NAN"]

/-- The signs that only a mapping has a use for: the one before what is merged into it, and the one
before what it stands for. -/
def mappingSigns : List String := ["<<", "="]

/-- The value of digits to some base. -/
def valueIn (base : Nat) (cs : List Char) : Nat :=
  cs.foldl (fun n c ↦ base * n + hexValue c) 0

/-- Whether a text is a non-empty row of characters of a kind, or of underscores. -/
def isRow (p : Char → Bool) (cs : List Char) : Bool :=
  !cs.isEmpty && cs.all fun c ↦ p c || c = '_'

/-- Whether a text is one of the later groups to base sixty. -/
def isGroup : List Char → Bool
  | [a] => a.isDigit
  | [a, b] => '0' ≤ a && a ≤ '5' && b.isDigit
  | _ => false

/-- Whether groups are a number to base sixty: a row of digits that starts with one of some, and
further groups. -/
def areGroups (starts : Char → Bool) : List (List Char) → Bool
  | first :: more :: rest =>
    (first.head?.any starts) && isRow Char.isDigit first && (more :: rest).all isGroup
  | _ => false

/-- Digits without underscores. -/
def plainDigits (cs : List Char) : List Char := cs.filter (· != '_')

/-- The value of digits to a base other than ten. -/
def digitsIn (base : Nat) (cs : List Char) : Except Error Nat :=
  let ds := plainDigits cs
  if ds.isEmpty then .error (.noDigits base) else .ok (valueIn base ds)

/-- The value of decimal digits. -/
def decimalDigits (cs : List Char) : Except Error Nat :=
  (Numeral.readDigits (plainDigits cs)).mapError .numeral

/-- The value of groups to base sixty. -/
def groupsValue (groups : List (List Char)) : Except Error Nat :=
  groups.foldlM (fun n ds ↦ (decimalDigits ds).map (60 * n + ·)) 0

/-- The magnitude of an integer; nothing when a text is none. -/
def magnitude? (cs : List Char) : Option (Except Error Nat) :=
  match cs with
  | '0' :: 'b' :: ds =>
    if isRow (fun c ↦ c = '0' || c = '1') ds then some (digitsIn 2 ds) else none
  | '0' :: 'x' :: ds => if isRow isHex ds then some (digitsIn 16 ds) else none
  | '0' :: ds =>
    if ds.all fun c ↦ ('0' ≤ c && c ≤ '7') || c = '_' then some (.ok (valueIn 8 (plainDigits ds)))
    else none
  | cs =>
    if isRow Char.isDigit cs && cs.head? != some '_' then some (decimalDigits cs)
    else
      let parts := cutAt ':' cs
      if areGroups (fun c ↦ c.isDigit && c != '0') parts then some (groupsValue parts) else none

/-- An exponent, whose sign is not left out; nothing when a text is none. -/
def exponent? : List Char → Option Int
  | [] => some 0
  | e :: sign :: ds =>
    if (e = 'e' || e = 'E') && (sign = '+' || sign = '-') && !ds.isEmpty && ds.all Char.isDigit then
      some (Numeral.withSign (sign = '-') (valueIn 10 ds))
    else none
  | _ => none

/-- A decimal with a point in it. The flag tells whether a sign stands in front, behind which
the point may not come first. -/
def decimal? (signed negative : Bool) (cs : List Char) : Option Float :=
  let isDigit (c : Char) : Bool := c.isDigit || c = '_'
  let whole := cs.takeWhile isDigit
  match cs.dropWhile isDigit with
  | '.' :: behind =>
    let fraction := behind.takeWhile isDigit
    let startsWell :=
      if whole.isEmpty then !signed && fraction.head?.any Char.isDigit
      else whole.head?.any Char.isDigit
    if startsWell then
      (exponent? (behind.dropWhile isDigit)).map fun e ↦
        let digits := plainDigits fraction
        Binary64.ofDecimal negative (valueIn 10 (plainDigits whole ++ digits)) (e - digits.length)
    else none
  | _ => none

/-- The sum of groups to base sixty, the lowest first, each of which counts a multiple of what the
one before it counts. -/
def sumGroups (sum : Float) (unit : Nat) : List Float → Except Error Float
  | [] => .ok sum
  | x :: xs =>
    match Binary64.ofInt? unit with
    | some u => sumGroups (sum + x * u) (60 * unit) xs
    | none => .error .tooManyGroups

/-- A number to base sixty with a point in its last group. -/
def sexagesimal? (negative : Bool) (cs : List Char) : Option (Except Error Float) :=
  let whole := cs.takeWhile (· != '.')
  let fraction := (cs.dropWhile (· != '.')).drop 1
  let parts := cutAt ':' whole
  if cs.contains '.' && areGroups Char.isDigit parts &&
      fraction.all (fun c ↦ c.isDigit || c = '_') then
    let digits := plainDigits fraction
    let last := Binary64.ofDecimal false
      (valueIn 10 (plainDigits (parts.getLast?.getD []) ++ digits)) (-digits.length)
    let others := parts.dropLast.map fun ds ↦
      Binary64.ofDecimal false (valueIn 10 (plainDigits ds)) 0
    some ((sumGroups 0 1 (last :: others.reverse)).map fun sum ↦ if negative then -sum else sum)
  else none

/-- The double that a text is. -/
def float? (cs : List Char) : Option (Except Error Float) :=
  let (negative, body) := Numeral.splitSign cs
  let signed := body.length != cs.length
  let word := String.ofList body
  if infinityWords.contains word then some (.ok (Binary64.infinity negative))
  else if !signed && notANumberWords.contains word then some (.ok Binary64.notANumber)
  else ((decimal? signed negative body).map .ok).or (sexagesimal? negative body)

/-- What a plain scalar stands for. -/
def plainValue (text : String) : Except Error Key :=
  if nullWords.contains text then .ok .null
  else if truthWords.1.contains text then .ok (.bool false)
  else if truthWords.2.contains text then .ok (.bool true)
  else if mappingSigns.contains text then .error .meaningless
  else
    match float? text.toList with
    | some x => x.map fun x ↦ .number (.float x)
    | none =>
      let (negative, body) := Numeral.splitSign text.toList
      match magnitude? body with
      | some n => n.map fun n ↦ .number (.int (Numeral.withSign negative n))
      | none => .ok (.text text)

end CharacterSheet.Yaml
