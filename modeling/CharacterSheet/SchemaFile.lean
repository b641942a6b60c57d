import CharacterSheet.Schema.Outline

/-!
# Files that describe documents

Editors that know JSON Schema check a document as it is written. There is a file for a whole
system and one for each part of it that is written on its own.
-/

namespace CharacterSheet

/-- A reference to the description of a record beside. -/
def RecordKind.reference (kind : RecordKind) : Json :=
  .object [("$ref", .string ("#/$defs/" ++ kind.name))]

/-- A description that names a type. -/
def typed (name : String) (more : Json.Fields := []) : Json :=
  .object (("type", .string name) :: more)

/-- The description of what a field may hold. -/
def FieldType.describe : FieldType → Json
  | .integer => typed "integer"
  | .number => typed "number"
  | .text => typed "string"
  | .flag => typed "boolean"
  | .anything => .object []
  | .word choices => typed "string" [("enum", .array (choices.map .string))]
  | .list t => typed "array" [("items", t.describe)]
  | .entries t => typed "object" [("additionalProperties", t.describe)]
  | .either t u => .object [("anyOf", .array [t.describe, u.describe])]
  | .nullable t => .object [("anyOf", .array [t.describe, typed "null"])]
  | .record kind => kind.reference
  | .stat => .object [("oneOf", .array (RecordKind.stats.map RecordKind.reference))]

/-- The description of a record. -/
def RecordKind.describe (kind : RecordKind) : Json.Fields :=
  let required := (kind.fields.filter (·.isRequired)).map fun f ↦ Json.string f.name
  [("title", .string kind.name), ("type", .string "object"),
    ("properties", .object (kind.fields.map fun f ↦ (f.name, f.type.describe)))] ++
  (if required.isEmpty then [] else [("required", .array required)]) ++
  (if kind.isOpen then [("additionalProperties", .bool true)] else [])

/-- What a file may describe. -/
inductive Described where
  | record (kind : RecordKind)
  /-- A stat of any kind. -/
  | stat
  deriving Repr, DecidableEq

namespace Described

/-- What there are files for, in order. -/
def all : List Described := [
  .record .system, .stat, .record .sheetSection, .record .dice, .record .replacement,
  .record .enumOption, .record .integrations]

/-- The name of what is described. -/
def name : Described → String
  | .record kind => kind.name
  | .stat => "Stat"

/-- The name of the file for a description. -/
def filename (d : Described) : String := d.name ++ ".schema.json"

/-- The records that are described beside. -/
def definitions : Described → List RecordKind
  | .record kind => RecordKind.closure kind.parts
  | .stat => RecordKind.closure RecordKind.stats

/-- The description that a file holds. -/
def document (d : Described) : Json :=
  let beside := d.definitions.map fun kind ↦ (kind.name, Json.object kind.describe)
  let definitions := if beside.isEmpty then [] else [("$defs", Json.object beside)]
  match d with
  | .record kind => .object (definitions ++ kind.describe)
  | .stat =>
    .object (definitions ++ [("oneOf", .array (RecordKind.stats.map RecordKind.reference)),
      ("title", .string d.name)])

/-- The description with a name, if there is a file for it. -/
def ofName? (name : String) : Option Described := all.find? (·.name == name)

/-- What is asked for by name, or everything if nothing is. The error lists the names that there
is no file for. -/
def select (names : List String) : Except (List String) (List Described) :=
  if names.isEmpty then .ok all
  else
    let unknown := names.filter fun name ↦ (ofName? name).isNone
    if unknown.isEmpty then .ok (names.filterMap ofName?) else .error unknown

/-- The wording of a refusal of names. -/
def unknownMessage (unknown : List String) : String :=
  "unknown schema(s): " ++ ", ".intercalate unknown ++
    " (known: " ++ ", ".intercalate (all.map name) ++ ")"

end Described
end CharacterSheet
