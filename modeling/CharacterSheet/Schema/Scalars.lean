import CharacterSheet.Schema.LenientText

/-!
# Lenient reading of single values

An integer may also be given as a truth value, as a double without a fraction, or as a text;
numbers and truth values are as lenient. Texts are read as they are, and those in which surrogates
stand alone not at all.
-/

namespace CharacterSheet

namespace Checked

/-- A double as an integer, when it has no fraction and is within 64 bits. -/
def integerOfFloat (x : Float) : Checked Int :=
  match Binary64.toRatio? x with
  | none => .fail .infiniteInteger
  | some (num, den) =>
    if num % den != 0 then .fail .fractionalInteger
    else if (num / den).natAbs < 2 ^ 63 then .ok (num / den)
    else .fail .oversizedInteger

/-- Read an integer. -/
def integer : Json → Checked Int
  | .number (.int n) => .ok n
  | .number (.float x) => integerOfFloat x
  | .bool b => .ok (if b then 1 else 0)
  | .string s => ofExcept (LenientText.readInteger s)
  | .unpaired _ => .fail .notUnicode
  | _ => .fail .notAnInteger

/-- The fault of a value that is no number. -/
def numberFault : Json → FaultCause
  | .string _ => .unreadableNumber
  | .unpaired _ => .notUnicode
  | _ => .notANumber

/-- Read a number of either kind. A text is read as an integer if it can be. -/
def number (v : Json) : Checked Number :=
  match v with
  | .number n => .ok n
  | v =>
    match integer v with
    | .ok n => .ok (.int n)
    | .bad faults =>
      let double := match v with
        | .string s => LenientText.readFloat? s
        | _ => none
      match double with
      | some x => .ok (.float x)
      | none => neither "int" faults "float" [⟨[], numberFault v⟩]

/-- Read a text. -/
def text : Json → Checked String
  | .string s => .ok s
  | .unpaired _ => .fail .notUnicode
  | _ => .fail .notAText

/-- The integer within 64 bits that a number is. -/
def wordSized? : Number → Option Int
  | .int n => if -2 ^ 63 ≤ n ∧ n < 2 ^ 63 then some n else none
  | .float x => (integerOfFloat x).toOption

/-- Read a truth value. -/
def bool : Json → Checked Bool
  | .bool b => .ok b
  | .number n =>
    match wordSized? n with
    | some 0 => .ok false
    | some 1 => .ok true
    | some _ => .fail .unreadableTruthValue
    | none => .fail .notATruthValue
  | .string s =>
    match LenientText.readBool? s with
    | some b => .ok b
    | none => .fail .unreadableTruthValue
  | .unpaired _ => .fail .notUnicode
  | _ => .fail .notATruthValue

/-- Read a value that may be null. -/
def nullable {α : Type} (read : Json → Checked α) : Json → Checked (Option α)
  | .null => .ok none
  | v => map some (read v)

/-- Read a list. -/
def list {α : Type} (read : Json → Checked α) : Json → Checked (List α)
  | .array items => all (items.mapIdx fun i v ↦ inside (.index i) (read v))
  | _ => .fail .notAList

/-- Read one of a few words. -/
def choice {α : Type} (word : α → String) (choices : List α) (v : Json) : Checked α :=
  let found := match v with
    | .string s => choices.find? (word · == s)
    | _ => none
  match found with
  | some a => .ok a
  | none => .fail (.notAChoice (choices.map word))

/-- Read a value of any kind. -/
def anything (v : Json) : Checked Json := .ok v.settled

/-- Read the fields of a record. -/
def record {α : Type} (name : String) (read : Json.Fields → Checked α) (v : Json) : Checked α :=
  match v.fields? with
  | some fs => read fs
  | none => .fail (.notARecord name)

/-- Refuse every key that is no text. -/
def textKeys (v : Json) : Checked (List Unit) :=
  let others := (v.entries?.getD []).filter fun (key, _) ↦ key.text?.isNone
  all (others.map fun (key, _) ↦ inside (Step.ofKey key) (.fail .notATextKey))

/-- Read the fields of a record that keeps those it does not declare, so that all their keys must
be texts. -/
def openRecord {α : Type} (name : String) (read : Json.Fields → Checked α) (v : Json) :
    Checked α :=
  (fun a _ ↦ a) <$> record name read v <*> textKeys v

/-- Read the field of a record; one that is missing takes its default. -/
def fieldOr {α : Type} (fs : Json.Fields) (key : String) (default : α)
    (read : Json → Checked α) : Checked α :=
  match Json.Fields.get? key fs with
  | some v => inside (.field key) (read v)
  | none => .ok default

/-- Read a field that must be there. -/
def required {α : Type} (fs : Json.Fields) (key : String) (read : Json → Checked α) :
    Checked α :=
  match Json.Fields.get? key fs with
  | some v => inside (.field key) (read v)
  | none => inside (.field key) (.fail .missing)

/-- The fields of a record beside the declared ones. -/
def others (declared : List String) (fs : Json.Fields) : Json.Fields :=
  (fs.filter fun (k, _) ↦ !declared.contains k).map fun (k, v) ↦ (k, v.settled)

end Checked
end CharacterSheet
