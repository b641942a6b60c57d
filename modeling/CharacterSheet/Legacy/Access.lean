import CharacterSheet.Schema.Checked
import CharacterSheet.Text.Literal

/-!
# Looking into legacy documents

A legacy document has no fixed form, so every look into it may fail: a key may be missing, or a
value may be of a type that does not allow the look.
-/

namespace CharacterSheet.Legacy

/-- Why a legacy document is not converted. -/
inductive Error where
  | missingKey (key : Json)
  /-- A value of a type that cannot be looked into that way. -/
  | wrongType
  /-- A value that is no object where one is asked for a key. -/
  | noObject
  | noBlock
  | noSuchItem
  | infiniteId
  | idNotANumber
  | numeral (error : NumeralError)
  /-- The converted document is no schema. -/
  | invalid (faults : List Fault)
  deriving Repr

/-- The wording of an error. -/
def Error.message : Error → String
  | .missingKey key => key.spelling
  | .wrongType => "a value is of a type that cannot be looked into"
  | .noObject => "a value is no object"
  | .noBlock => ""
  | .noSuchItem => "list index out of range"
  | .infiniteId => "cannot convert float infinity to integer"
  | .idNotANumber => "cannot convert float NaN to integer"
  | .numeral error => error.message
  | .invalid _ => "the converted document is no schema"

/-- A part of a legacy document, or why it could not be had. -/
abbrev Result (α : Type) := Except Error α

/-- A value that is subject to a hash, which lists and objects are not. -/
def isPlain : Json → Bool
  | .array _ | .object _ => false
  | _ => true

/-- The value under a key, which must be there. -/
def item (key : String) : Json → Result Json
  | .object fs =>
    match Json.Fields.get? key fs with
    | some v => .ok v
    | none => .error (.missingKey (.string key))
  | _ => .error .wrongType

/-- The value under a key of an object, or null. -/
def find (key : Json) : Json → Result Json
  | .object fs =>
    match key with
    | .string key => .ok ((Json.Fields.get? key fs).getD .null)
    | key => if isPlain key then .ok .null else .error .wrongType
  | _ => .error .noObject

/-- The item of a list at an index, which counts from the end when it is negative. -/
def itemAt (index : Int) (items : List Json) : Result Json :=
  let place := if 0 ≤ index then index else index + items.length
  match if 0 ≤ place then items[place.toNat]? else none with
  | some v => .ok v
  | none => .error .noSuchItem

/-- The value that a key of any type has in an object or a list. -/
def itemBy (key : Json) : Json → Result Json
  | .object fs =>
    match key with
    | .string key => item key (.object fs)
    | key => .error (if isPlain key then .missingKey key else .wrongType)
  | .array items =>
    match key with
    | .number (.int i) => itemAt i items
    | .bool b => itemAt (if b then 1 else 0) items
    | _ => .error .wrongType
  | _ => .error .wrongType

/-- The first item of a value that is not empty. -/
def first : Json → Result Json
  | .array items => itemAt 0 items
  | .object _ => .error (.missingKey (.int 0))
  | .string s =>
    match s.toList with
    | c :: _ => .ok (.string (String.singleton c))
    | [] => .error .noSuchItem
  | _ => .error .wrongType

/-- What a value holds: the items of a list, the keys of an object, the code points of a text. -/
def entries : Json → Result (List Json)
  | .array items => .ok items
  | .object fs => .ok (fs.map fun (k, _) ↦ .string k)
  | .string s => .ok (s.toList.map fun c ↦ .string (String.singleton c))
  | .unpaired ps => .ok (ps.map fun p ↦ .ofPoints [p])
  | _ => .error .wrongType

/-- Whether a value is among what another holds. -/
def isIn (v : Json) : Json → Result Bool
  | .array items => .ok (items.any (Json.same v))
  | .object fs =>
    match v with
    | .string key => .ok (Json.Fields.get? key fs).isSome
    | v => if isPlain v then .ok false else .error .wrongType
  | .string text =>
    match v with
    | .string part => .ok (Text.occursIn part.toList text.toList)
    | .unpaired _ => .ok false
    | _ => .error .wrongType
  | .unpaired text =>
    match v with
    | .string part => .ok (Text.occursIn (Text.points part) text)
    | .unpaired part => .ok (Text.occursIn part text)
    | _ => .error .wrongType
  | _ => .error .wrongType

/-- A value, or another when it is null or empty. -/
def orElse (v other : Json) : Json := if v.isTruthy then v else other

/-- The first of some values that satisfies a test. -/
def firstWhere (test : Json → Result Bool) : List Json → Result (Option Json)
  | [] => .ok none
  | v :: rest => do
    if ← test v then return some v
    firstWhere test rest

/-- The text of a value, behind some words. -/
def textBehind (lead : String) : Json → Json
  | .unpaired ps => .unpaired (Text.points lead ++ ps)
  | v => .string (lead ++ v.display)

/-- A value as an id. -/
def toId : Json → Result Int
  | .number (.int n) => .ok n
  | .number (.float x) =>
    match Binary64.truncate? x with
    | some n => .ok n
    | none => .error (if x.isNaN then .idNotANumber else .infiniteId)
  | .bool b => .ok (if b then 1 else 0)
  | .string s => (Numeral.readInteger s).mapError .numeral
  | .unpaired ps => .error (.numeral (.notAnInteger (Text.shownText ps)))
  | _ => .error .wrongType

end CharacterSheet.Legacy
