import CharacterSheet.Number.Numeral
import CharacterSheet.Schema.Checked
import CharacterSheet.Text.Literal

/-!
# Lenient reading of texts

A text may stand for an integer, a double or a truth value. An integer in plain form is read at
once; other ways to write it are brought into plain form first.
-/

namespace CharacterSheet
open Text

namespace LenientText

/-- Read an integer that is written with a minus or without a sign and with no nought in front.
Too many digits are a fault whatever follows them. -/
def plainInteger (cs : List Char) : Except FaultCause Int :=
  let (negative, body) := match cs with
    | '-' :: body => (true, body)
    | _ => (false, cs)
  let run := body.takeWhile Char.isDigit
  if run.head? = some '0' then
    if body.length = 1 then .ok 0 else .error .unreadableInteger
  else if maxDigits < run.length + cs.length - body.length then .error .oversizedInteger
  else if run.isEmpty || run.length < body.length then .error .unreadableInteger
  else .ok (Numeral.withSign negative (digitsValue run))

/-- A text behind the noughts and underscores that follow a first nought. The nought before a
point is kept, and so is the last character. A text that starts otherwise may start with a digit
or a minus. -/
def withoutLeadingZeros? (cs : List Char) : Option (List Char) :=
  let mayStart (c : Char) : Bool := ('1' ≤ c && c ≤ '9') || c = '-'
  match cs with
  | [] => none
  | '0' :: more =>
    let zeros := more.takeWhile fun c ↦ c = '0' || c = '_'
    match more.drop zeros.length with
    | [] => some (('0' :: zeros).drop zeros.length)
    | c :: rest =>
      if mayStart c then some (c :: rest)
      else if c = '.' then some (('0' :: zeros).drop zeros.length ++ c :: rest)
      else none
  | c :: rest => if mayStart c then some (c :: rest) else none

/-- A text without a point and the noughts behind it; other texts as they are. -/
def dropZeroFraction (cs : List Char) : List Char :=
  match cs.dropWhile (· != '.') with
  | '.' :: zeros =>
    if !zeros.isEmpty && zeros.all (· == '0') then cs.takeWhile (· != '.') else cs
  | _ => cs

/-- Whether underscores stand alone and at neither end. -/
def hasInnerUnderscores (cs : List Char) : Bool :=
  cs.head? != some '_' && cs.getLast? != some '_' && !Text.occursIn ['_', '_'] cs

/-- A text without its underscores, if they stand alone and at neither end. -/
def withoutUnderscores? (cs : List Char) : Option (List Char) :=
  if hasInnerUnderscores cs then some (cs.filter (· != '_')) else none

/-- The plain form of an integer that is written with blanks around it, a plus, noughts in front,
a fraction of noughts, or underscores. -/
def plainForm? (cs : List Char) : Option (List Char) :=
  let trimmed := trimWhere isWhiteSpace cs
  let (sign, body) := match trimmed with
    | '-' :: body => (['-'], body)
    | '+' :: body => ([], body)
    | _ => ([], trimmed)
  if trimmed.head? = some '+' && body.head? = some '-' then none
  else
    (withoutLeadingZeros? body).map fun cs ↦
      let whole := dropZeroFraction cs
      sign ++ (withoutUnderscores? whole).getD whole

/-- Read an integer. Only a plain one can have too many digits. -/
def readInteger (s : String) : Except FaultCause Int :=
  match plainInteger s.toList with
  | .ok n => .ok n
  | .error .oversizedInteger => .error .oversizedInteger
  | .error _ =>
    match plainForm? s.toList with
    | some cs => (plainInteger cs).mapError fun _ ↦ .unreadableInteger
    | none => .error .unreadableInteger

/-- The double that a text of ASCII characters is. -/
def asciiDouble? (cs : List Char) : Option Float :=
  if cs.all fun c ↦ c.toNat < 0x80 then Numeral.double? cs else none

/-- Read a double, with blanks around it or with underscores anywhere inside. -/
def readFloat? (s : String) : Option Float :=
  (asciiDouble? (trimWhere isWhiteSpace s.toList)).or
    ((withoutUnderscores? s.toList).bind asciiDouble?)

/-- The words for the truth values, no and yes. -/
def truthWords : List String × List String :=
  (["0", "off", "f", "false", "n", "no"], ["1", "on", "t", "true", "y", "yes"])

/-- Read a truth value. -/
def readBool? (s : String) : Option Bool :=
  let word := String.ofList (s.toList.map Char.toLower)
  if truthWords.1.contains word then some false
  else if truthWords.2.contains word then some true
  else none

end LenientText

end CharacterSheet
