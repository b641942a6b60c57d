import CharacterSheet.Json

/-!
# Outlines of the records of a document

An outline lists the fields of a record: their names, what they may hold, and whether they may
be left out. The records are listed from the outermost to the innermost, and a record uses
only such as come after it.
-/

namespace CharacterSheet

/-- The records of a document. -/
inductive RecordKind where
  | system
  | config
  | numericStat
  | enumStat
  | booleanStat
  | stringStat
  | calculatedStat
  | sheetSection
  | sectionPreview
  | integrations
  | integrationSchema
  | initiative
  | schemaEval
  | schemaOption
  | enumOption
  | dice
  | condition
  | replacement
  | localization
  deriving Repr, DecidableEq

/-- What a field may hold. -/
inductive FieldType where
  | integer
  | number
  | text
  | flag
  | anything
  | word (choices : List String)
  | list (items : FieldType)
  /-- An object whose keys are integers. -/
  | entries (values : FieldType)
  | either (first second : FieldType)
  | nullable (type : FieldType)
  | record (kind : RecordKind)
  /-- A stat of any kind. -/
  | stat
  deriving Repr

/-- A field of a record. -/
structure Field where
  name : String
  type : FieldType
  /-- Whether the field must be there. -/
  isRequired : Bool := false
  deriving Repr

namespace RecordKind

/-- All records, from the outermost to the innermost. -/
def all : List RecordKind := [
  .system, .config, .numericStat, .enumStat, .booleanStat, .stringStat, .calculatedStat,
  .sheetSection, .sectionPreview, .integrations, .integrationSchema, .initiative, .schemaEval,
  .schemaOption, .enumOption, .dice, .condition, .replacement, .localization]

/-- The kinds of stats. -/
def stats : List RecordKind :=
  [.numericStat, .enumStat, .booleanStat, .stringStat, .calculatedStat]

/-- The name of a record. -/
def name : RecordKind → String
  | .system => "RPGSystem"
  | .config => "SystemConfig"
  | .numericStat => "NumericStat"
  | .enumStat => "EnumStat"
  | .booleanStat => "BooleanStat"
  | .stringStat => "StringStat"
  | .calculatedStat => "CalculatedStat"
  | .sheetSection => "Section"
  | .sectionPreview => "SectionPreview"
  | .integrations => "Integrations"
  | .integrationSchema => "IntegrationSchema"
  | .initiative => "Initiative"
  | .schemaEval => "SchemaEval"
  | .schemaOption => "SchemaOption"
  | .enumOption => "EnumOption"
  | .dice => "Dice"
  | .condition => "DiceCondition"
  | .replacement => "Replacement"
  | .localization => "Localization"

/-- Whether a record keeps fields that are not declared. -/
def isOpen : RecordKind → Bool
  | .localization | .integrations | .integrationSchema | .initiative => true
  | _ => false

/-- A field for a text with variants for other locales. -/
def localized (name : String) : Field := ⟨name, .record .localization, false⟩

/-- A field for ids of sections, which may be null. -/
def pages : Field := ⟨"edit_page", .nullable (.list .integer), false⟩

/-- The fields that every stat has, with the word for its kind. -/
def statFields (word : String) : List Field := [
  ⟨"id", .integer, true⟩, localized "name", ⟨"emoji", .nullable .text, false⟩, pages,
  ⟨"type", .word [word], false⟩]

/-- The fields of stats that dice are rolled for. -/
def rollFields : List Field := [
  ⟨"dices", .nullable (.list (.record .dice)), false⟩,
  ⟨"replacements", .nullable (.list (.record .replacement)), false⟩]

/-- The declared fields of a record, in order. -/
def fields : RecordKind → List Field
  | .system => [
    ⟨"config", .record .config, false⟩, ⟨"stats", .list .stat, false⟩,
    ⟨"sections", .list (.record .sheetSection), false⟩,
    ⟨"integrations", .nullable (.record .integrations), false⟩]
  | .config => [⟨"id", .nullable .integer, false⟩, localized "name", localized "description"]
  | .numericStat => statFields "numeric" ++
    [⟨"min", .nullable .number, false⟩, ⟨"max", .nullable .number, false⟩] ++ rollFields
  | .enumStat => statFields "enum" ++
    [⟨"options", .either (.list (.record .enumOption)) .integer, false⟩] ++ rollFields
  | .booleanStat => statFields "boolean" ++ rollFields
  | .stringStat => statFields "string" ++
    [⟨"minLength", .nullable .integer, false⟩, ⟨"maxLength", .nullable .integer, false⟩]
  | .calculatedStat => statFields "calculated" ++ [⟨"formula", .text, false⟩] ++ rollFields
  | .sheetSection => [
    ⟨"id", .integer, true⟩, localized "name", ⟨"emoji", .nullable .text, false⟩,
    ⟨"quick_edit_btn", .flag, false⟩, ⟨"preview", .record .sectionPreview, false⟩,
    ⟨"view_pages", .list .integer, false⟩]
  | .sectionPreview => [⟨"type", .nullable (.word ["string", "img"]), false⟩, localized "content"]
  | .integrations => [
    ⟨"iniciative", .nullable (.record .initiative), false⟩,
    ⟨"atributes_roll", .nullable .text, false⟩,
    ⟨"schemas", .list (.record .integrationSchema), false⟩]
  | .integrationSchema => [
    ⟨"id", .integer, true⟩, localized "name", localized "description",
    ⟨"fields", .nullable (.entries (.record .schemaEval)), false⟩,
    ⟨"AutorizedModifierList", .nullable (.list .anything), false⟩,
    ⟨"authorized_status_ids", .list .integer, false⟩]
  | .initiative => [⟨"id", .nullable (.either .integer .text), false⟩]
  | .schemaEval => [
    ⟨"name", .text, false⟩, ⟨"type", .word ["eval"], false⟩,
    ⟨"options", .list (.record .schemaOption), false⟩]
  | .schemaOption => [⟨"value", .text, true⟩, ⟨"label", .text, false⟩]
  | .enumOption => [
    ⟨"value", .integer, true⟩, localized "name", ⟨"emoji", .nullable .text, false⟩, pages,
    ⟨"replacements", .nullable (.list (.record .replacement)), false⟩]
  | .dice => [⟨"expression", .text, false⟩, ⟨"condition", .nullable (.record .condition), false⟩]
  | .condition => [
    ⟨"value1", .text, false⟩, ⟨"operator", .word ["<", ">", "<=", ">=", "==", "!="], false⟩,
    ⟨"value2", .text, false⟩]
  | .replacement => [⟨"key", .integer, true⟩, ⟨"options", .list .integer, false⟩]
  | .localization => [⟨"default", .text, false⟩]

end RecordKind

/-- The records that something of a type is made of directly. -/
def FieldType.records : FieldType → List RecordKind
  | .list t | .entries t | .nullable t => t.records
  | .either t u => t.records ++ u.records
  | .record kind => [kind]
  | .stat => RecordKind.stats
  | _ => []

/-- The records that a record is made of directly. -/
def RecordKind.parts (kind : RecordKind) : List RecordKind :=
  (kind.fields.flatMap (·.type.records)).eraseDups

/-- The records that some records are made of, themselves included. A record comes before its
parts, so they are found in one go. -/
def RecordKind.closure (kinds : List RecordKind) : List RecordKind :=
  RecordKind.all.foldl (fun found kind ↦
    if found.contains kind then found ++ kind.parts.filter (!found.contains ·) else found) kinds

/-- The records that a record is made of are made of each other only. -/
theorem RecordKind.parts_subset_closure :
    ∀ kind ∈ all, ∀ part ∈ closure kind.parts, part.parts ⊆ closure kind.parts := by
  decide +kernel

end CharacterSheet
