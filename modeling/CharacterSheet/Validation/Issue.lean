import CharacterSheet.Arithmetic.Error
import CharacterSheet.Schema.Checked
import CharacterSheet.Schema.Document

/-!
# Issues of schemas

An issue has a cause and the path to its place. The kind, the wording and the details of an
issue follow from its cause.
-/

namespace CharacterSheet

/-- The kinds of issues. -/
inductive IssueKind where
  | structural
  | duplicateId
  | range
  | optionLimit
  | duplicateOption
  | circularDependency
  | unresolvedReference
  | typeMismatch
  | evaluation
  deriving Repr, DecidableEq

/-- The word for a kind. -/
def IssueKind.word : IssueKind → String
  | .structural => "StructuralError"
  | .duplicateId => "DuplicateIdError"
  | .range => "RangeError"
  | .optionLimit => "OptionLimitExceeded"
  | .duplicateOption => "DuplicateOptionValue"
  | .circularDependency => "CircularDependencyError"
  | .unresolvedReference => "UnresolvedReferenceError"
  | .typeMismatch => "TypeMismatchError"
  | .evaluation => "EvaluationError"

/-- The greatest number of options that an enumeration has of its own. -/
def maxOptions : Nat := 25

/-- What is wrong at a place. -/
inductive IssueCause where
  | notAnObject
  /-- Something is missing or empty. -/
  | required (what : String)
  | notAList (what : String)
  /-- A value could not be read. -/
  | unreadable (cause : FaultCause)
  /-- An id occurred before, in the collection at the first of two indexes. -/
  | duplicateId (collection : String) (id : Int) (first again : Nat)
  | bounds (min max : Number)
  | tooManyOptions (count : Nat)
  | duplicateOption (value : Int)
  | cycle (path : List Int)
  | missingStat (what : String) (id : Int)
  | textStat (what : String) (id : Int)
  | missingSection (what : String) (id : Int)
  /-- An enumeration shares the options of a stat that is not there. -/
  | missingSource (id : Int)
  /-- An enumeration shares the options of a stat that has none of its own. -/
  | sourceWithoutOptions (id : Int)
  /-- A replacement names a stat that the dice do not read. -/
  | unusedKey (key stat : Int) (used : List Int)
  | missingReplacement (id : Int)
  | textReplacement (id : Int)
  | missingInitiative (id : InitiativeId)
  | missingAuthorized (id : Int)
  | malformedFormula (expression : String) (error : Arithmetic.Error)
  deriving Repr

namespace IssueCause

/-- The kind of an issue with a cause. -/
def kind : IssueCause → IssueKind
  | .notAnObject | .required _ | .notAList _ | .unreadable _ => .structural
  | .duplicateId .. => .duplicateId
  | .bounds .. => .range
  | .tooManyOptions _ => .optionLimit
  | .duplicateOption _ => .duplicateOption
  | .cycle _ => .circularDependency
  | .missingStat .. | .missingSection .. | .missingSource _ | .unusedKey .. | .missingReplacement _
  | .missingInitiative _ | .missingAuthorized _ => .unresolvedReference
  | .textStat .. | .sourceWithoutOptions _ | .textReplacement _ => .typeMismatch
  | .malformedFormula .. => .evaluation

/-- The wording of a cause. -/
def message : IssueCause → String
  | .notAnObject => "schema must be an object"
  | .required what => what ++ " is required"
  | .notAList what => what ++ " must be a list"
  | .unreadable cause => cause.message .value
  | .duplicateId collection id first _ =>
    "duplicate id " ++ toString id ++ " (first used at " ++ collection ++ "[" ++
      toString first ++ "])"
  | .bounds min max => "min > max (" ++ min.spelling ++ " > " ++ max.spelling ++ ")"
  | .tooManyOptions count =>
    "exceeds the limit of " ++ toString maxOptions ++ " options (" ++ toString count ++ ")"
  | .duplicateOption value => "duplicate option value: " ++ toString value
  | .cycle path =>
    "circular dependency in formula (" ++ " -> ".intercalate (path.map toString) ++ ")"
  | .missingStat what id => what ++ " references missing stat: " ++ toString id
  | .textStat what id => what ++ " references string stat: " ++ toString id
  | .missingSection what id => what ++ " references missing section: " ++ toString id
  | .missingSource id => "options reference missing stat: " ++ toString id
  | .sourceWithoutOptions id =>
    "options must reference an enum with its own options: " ++ toString id
  | .unusedKey key stat _ =>
    "replacement key " ++ toString key ++ " is not used by any dice of stat " ++ toString stat
  | .missingReplacement id => "replacement option references missing stat: " ++ toString id
  | .textReplacement id => "replacement option references string stat: " ++ toString id
  | .missingInitiative id => "initiative references missing stat: " ++ id.toJson.display
  | .missingAuthorized id => "schema authorizes missing stat: " ++ toString id
  | .malformedFormula _ error => "formula does not parse: " ++ error.message

/-- The integers in the wording of a cause that are not counted by the validation itself. -/
def integers : IssueCause → List Int
  | .duplicateId _ id _ _ | .duplicateOption id | .missingStat _ id | .textStat _ id
  | .missingSection _ id | .missingSource id | .sourceWithoutOptions id
  | .missingReplacement id | .textReplacement id | .missingInitiative (.number id)
  | .missingAuthorized id => [id]
  | .bounds min max => [min, max].filterMap Number.int?
  | .cycle path => path
  | .unusedKey key stat _ => [key, stat]
  | .notAnObject | .required _ | .notAList _ | .unreadable _ | .tooManyOptions _
  | .missingInitiative (.text _) | .malformedFormula .. => []

/-- The details of a cause. -/
def context : IssueCause → Json.Fields
  | .notAnObject | .required _ | .notAList _ => []
  | .unreadable cause => [("type", .string (cause.code .value))]
  | .duplicateId _ id first again => [("id", .int id), ("indexes", .ofInts [first, again])]
  | .bounds min max => [("min", .number min), ("max", .number max)]
  | .tooManyOptions count => [("count", .int count), ("limit", .int maxOptions)]
  | .duplicateOption value => [("value", .int value)]
  | .cycle path => [("cycle", .ofInts path)]
  | .missingStat _ id | .textStat _ id | .missingSource id | .sourceWithoutOptions id
  | .missingReplacement id | .textReplacement id | .missingAuthorized id => [("stat_id", .int id)]
  | .missingSection _ id => [("section_id", .int id)]
  | .unusedKey key _ used => [("key", .int key), ("used", .ofInts used)]
  | .missingInitiative id => [("stat_id", id.toJson)]
  | .malformedFormula expression _ => [("expression", .string expression)]

end IssueCause

/-- Something wrong with a schema. -/
structure Issue where
  path : String
  cause : IssueCause
  deriving Repr

namespace Issue

/-- The line that reports an issue. -/
def line (i : Issue) : String :=
  if i.path.isEmpty then i.cause.message else i.path ++ ": " ++ i.cause.message

/-- Whether the line that reports an issue can be written. -/
def isWritable (i : Issue) : Bool := i.cause.integers.all Numeral.isWritable

/-- A fault of a value that is read, as an issue below a path. -/
def ofFault (path : String) (f : Fault) : Issue :=
  ⟨".".intercalate (path :: f.place.map Step.text), .unreadable f.cause⟩

end Issue
end CharacterSheet
