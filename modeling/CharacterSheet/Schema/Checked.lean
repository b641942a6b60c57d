import CharacterSheet.Json

/-!
# Reading values with a report of every fault

Reading a record reads all its fields and reports the faults of all of them, in order, each
with the way from the outermost value to the place of the fault.
-/

namespace CharacterSheet

/-- One step on the way to a place inside a document. -/
inductive Step where
  | field (name : String)
  /-- The place of an item, or a key that is an integer. -/
  | index (i : Int)
  deriving Repr, DecidableEq

namespace Step

/-- The text of a step. -/
def text : Step → String
  | .field name => name
  | .index i => toString i

/-- The step to what is under a key. An integer beyond 64 bits is named by its digits. -/
def ofKey : Key → Step
  | .bool b => .index (if b then 1 else 0)
  | .number (.int n) => if -2 ^ 63 ≤ n ∧ n < 2 ^ 63 then .index n else .field (toString n)
  | key => .field key.display

end Step

/-- What is wrong with a value. -/
inductive FaultCause where
  | missing
  | notAnInteger
  | unreadableInteger
  | fractionalInteger
  | oversizedInteger
  | infiniteInteger
  | notANumber
  | unreadableNumber
  | notAText
  /-- A text in which surrogates stand alone. -/
  | notUnicode
  | notATruthValue
  | unreadableTruthValue
  | notAList
  | notAnObject
  | notARecord (record : String)
  | notAChoice (choices : List String)
  | notTagged
  | missingTag (tag : String)
  | unknownTag (tag found : String) (known : List String)
  | notATextKey
  | malformed (notice : String)
  deriving Repr, DecidableEq

/-- Where the values that are read come from: they were decoded before, or they are read
together with the text they stand in. -/
inductive Origin where
  | value
  | text
  deriving Repr, DecidableEq

namespace FaultCause

/-- Quoted words, with a word before the last one. -/
def listChoices : List String → String
  | [] => ""
  | [a] => Text.quote a
  | [a, b] => Text.quote a ++ " or " ++ Text.quote b
  | a :: rest => Text.quote a ++ ", " ++ listChoices rest

/-- The code of a fault. -/
def code (origin : Origin) : FaultCause → String
  | .missing => "missing"
  | .notAnInteger => "int_type"
  | .unreadableInteger => "int_parsing"
  | .fractionalInteger => "int_from_float"
  | .oversizedInteger => "int_parsing_size"
  | .infiniteInteger => "finite_number"
  | .notANumber => "float_type"
  | .unreadableNumber => "float_parsing"
  | .notAText => "string_type"
  | .notUnicode => "string_unicode"
  | .notATruthValue => "bool_type"
  | .unreadableTruthValue => "bool_parsing"
  | .notAList => "list_type"
  | .notAnObject => "dict_type"
  | .notARecord _ => "model_type"
  | .notAChoice _ => "literal_error"
  | .notTagged => if origin = .text then "dict_type" else "model_attributes_type"
  | .missingTag _ => "union_tag_not_found"
  | .unknownTag .. => "union_tag_invalid"
  | .notATextKey => "invalid_key"
  | .malformed _ => "json_invalid"

/-- The wording of a fault. -/
def message (origin : Origin) : FaultCause → String
  | .missing => "Field required"
  | .notAnInteger => "Input should be a valid integer"
  | .unreadableInteger =>
    "Input should be a valid integer, unable to parse string as an integer"
  | .fractionalInteger =>
    "Input should be a valid integer, got a number with a fractional part"
  | .oversizedInteger => "Unable to parse input string as an integer, exceeded maximum size"
  | .infiniteInteger => "Input should be a finite number"
  | .notANumber => "Input should be a valid number"
  | .unreadableNumber => "Input should be a valid number, unable to parse string as a number"
  | .notAText => "Input should be a valid string"
  | .notUnicode =>
    "Input should be a valid string, unable to parse raw data as a unicode string"
  | .notATruthValue => "Input should be a valid boolean"
  | .unreadableTruthValue => "Input should be a valid boolean, unable to interpret input"
  | .notAList =>
    if origin = .text then "Input should be a valid array" else "Input should be a valid list"
  | .notAnObject =>
    if origin = .text then "Input should be an object" else "Input should be a valid dictionary"
  | .notARecord record =>
    if origin = .text then "Input should be an object"
    else "Input should be a valid dictionary or instance of " ++ record
  | .notAChoice choices => "Input should be " ++ listChoices choices
  | .notTagged =>
    if origin = .text then "Input should be an object"
    else "Input should be a valid dictionary or object to extract fields from"
  | .missingTag tag => "Unable to extract tag using discriminator " ++ Text.quote tag
  | .unknownTag tag found known =>
    "Input tag '" ++ found ++ "' found using " ++ Text.quote tag ++
      " does not match any of the expected tags: " ++ ", ".intercalate (known.map Text.quote)
  | .notATextKey => "Keys should be strings"
  | .malformed notice => "Invalid JSON: " ++ notice

end FaultCause

/-- A fault and the way to it. -/
structure Fault where
  place : List Step
  cause : FaultCause
  deriving Repr, DecidableEq

/-- A fault seen from one step further out. -/
def Fault.inside (step : Step) (f : Fault) : Fault := { f with place := step :: f.place }

/-- A value that was read, or everything that is wrong with it. -/
inductive Checked (α : Type) where
  | ok (a : α)
  | bad (faults : List Fault)
  deriving Repr

namespace Checked

/-- A refusal for one cause. -/
def fail {α : Type} (cause : FaultCause) : Checked α := .bad [⟨[], cause⟩]

/-- What was read alone: a value or one fault. -/
def ofExcept {α : Type} : Except FaultCause α → Checked α
  | .ok a => .ok a
  | .error cause => .fail cause

/-- The value, with a function applied. -/
def map {α β : Type} (f : α → β) : Checked α → Checked β
  | .ok a => .ok (f a)
  | .bad faults => .bad faults

/-- A function and its argument, both read; the faults of both are reported. -/
def seq {α β : Type} (f : Checked (α → β)) (x : Checked α) : Checked β :=
  match f, x with
  | .ok f, .ok a => .ok (f a)
  | .ok _, .bad faults => .bad faults
  | .bad faults, .ok _ => .bad faults
  | .bad faults, .bad more => .bad (faults ++ more)

instance : Functor Checked where map := map

instance : Seq Checked where seq f x := seq f (x ())

/-- A reading one step further in. -/
def inside {α : Type} (step : Step) : Checked α → Checked α
  | .ok a => .ok a
  | .bad faults => .bad (faults.map (·.inside step))

/-- A refusal by both of two readings, each of which has a name. -/
def neither {α : Type} (first : String) (faults : List Fault) (second : String)
    (more : List Fault) : Checked α :=
  .bad (faults.map (·.inside (.field first)) ++ more.map (·.inside (.field second)))

/-- The value that was read. -/
def toOption {α : Type} : Checked α → Option α
  | .ok a => some a
  | .bad _ => none

/-- The value, or the faults as an error. -/
def toExcept {α : Type} : Checked α → Except (List Fault) α
  | .ok a => .ok a
  | .bad faults => .error faults

/-- The results of reading several values in a row. -/
def all {α : Type} : List (Checked α) → Checked (List α)
  | [] => .ok []
  | x :: xs => seq (map List.cons x) (all xs)

/-- Reading is complete exactly when both parts are. -/
theorem seq_eq_ok {α β : Type} {f : Checked (α → β)} {x : Checked α} {b : β} :
    seq f x = .ok b ↔ ∃ g a, f = .ok g ∧ x = .ok a ∧ g a = b := by
  cases f <;> cases x <;> simp [seq]

end Checked
end CharacterSheet
