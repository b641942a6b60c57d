import CharacterSheet.Json.Bounded
import CharacterSheet.Schema
import CharacterSheet.Schema.Scalars

/-!
# Reading schemas

Every record of a schema is read from an object. Unknown fields are ignored, except in
localized texts and integrations, which keep them and so ask for texts as keys.
-/

namespace CharacterSheet
open Checked

/-- Read a localized text. -/
def Localization.read : Json → Checked Localization :=
  openRecord "Localization" fun fs ↦
    (fun d ↦ ⟨d, others ["default"] fs⟩) <$> fieldOr fs "default" "" text

/-- Read a condition. -/
def Condition.read : Json → Checked Condition :=
  record "DiceCondition" fun fs ↦
    Condition.mk <$> fieldOr fs "value1" "" text
      <*> fieldOr fs "operator" .eq (choice Comparison.symbol Comparison.all)
      <*> fieldOr fs "value2" "" text

/-- Read a dice entry. -/
def Dice.read : Json → Checked Dice :=
  record "Dice" fun fs ↦
    Dice.mk <$> fieldOr fs "expression" "" text
      <*> fieldOr fs "condition" none (nullable Condition.read)

/-- Read a replacement. -/
def Replacement.read : Json → Checked Replacement :=
  record "Replacement" fun fs ↦
    Replacement.mk <$> required fs "key" integer <*> fieldOr fs "options" [] (list integer)

/-- Read what can be rolled for a stat. -/
def Rolls.read (fs : Json.Fields) : Checked Rolls :=
  Rolls.mk <$> fieldOr fs "dices" none (nullable (list Dice.read))
    <*> fieldOr fs "replacements" none (nullable (list Replacement.read))

/-- Read an option of an enumeration. -/
def EnumOption.read : Json → Checked EnumOption :=
  record "EnumOption" fun fs ↦
    EnumOption.mk <$> required fs "value" integer
      <*> fieldOr fs "name" {} Localization.read
      <*> fieldOr fs "emoji" none (nullable text)
      <*> fieldOr fs "edit_page" none (nullable (list integer))
      <*> fieldOr fs "replacements" none (nullable (list Replacement.read))

/-- Read the options of an enumeration: a list, or else the id of another enumeration. -/
def OptionSource.read (v : Json) : Checked OptionSource :=
  match list EnumOption.read v with
  | .ok options => .ok (.own options)
  | .bad faults =>
    match integer v with
    | .ok id => .ok (.sharedWith id)
    | .bad more => neither "list[EnumOption]" faults "int" more

/-- Read what belongs to a kind of stats. -/
def StatDetail.read (fs : Json.Fields) : StatKind → Checked StatDetail
  | .numeric =>
    StatDetail.numeric <$> fieldOr fs "min" none (nullable number)
      <*> fieldOr fs "max" none (nullable number) <*> Rolls.read fs
  | .enumeration =>
    StatDetail.enumeration <$> fieldOr fs "options" (.own []) OptionSource.read
      <*> Rolls.read fs
  | .boolean => StatDetail.boolean <$> Rolls.read fs
  | .text =>
    StatDetail.text <$> fieldOr fs "minLength" none (nullable integer)
      <*> fieldOr fs "maxLength" none (nullable integer)
  | .calculated => StatDetail.calculated <$> fieldOr fs "formula" "" Checked.text <*> Rolls.read fs

/-- Read a stat of a given kind. -/
def Stat.readKind (fs : Json.Fields) (kind : StatKind) : Checked Stat :=
  inside (.field kind.word)
    (Stat.mk <$> required fs "id" integer
      <*> fieldOr fs "name" {} Localization.read
      <*> fieldOr fs "emoji" none (nullable text)
      <*> fieldOr fs "edit_page" none (nullable (list integer))
      <*> StatDetail.read fs kind)

/-- Read a stat; the field `type` tells its kind. -/
def Stat.read (v : Json) : Checked Stat :=
  match v.fields? with
  | none => .fail .notTagged
  | some fs =>
    match Json.Fields.get? "type" fs with
    | none => .fail (.missingTag "type")
    | some tag =>
      let kind := match tag with
        | .string word => StatKind.ofWord? word
        | _ => none
      match kind with
      | some kind => Stat.readKind fs kind
      | none => .fail (.unknownTag "type" tag.settled.display (StatKind.all.map StatKind.word))

/-- Read the template of a section. -/
def SectionPreview.read : Json → Checked SectionPreview :=
  record "SectionPreview" fun fs ↦
    SectionPreview.mk
      <$> fieldOr fs "type" none (nullable (choice PreviewKind.word [.text, .image]))
      <*> fieldOr fs "content" {} Localization.read

/-- Read a section. -/
def SheetSection.read : Json → Checked SheetSection :=
  record "Section" fun fs ↦
    SheetSection.mk <$> required fs "id" integer
      <*> fieldOr fs "name" {} Localization.read
      <*> fieldOr fs "emoji" none (nullable text)
      <*> fieldOr fs "quick_edit_btn" false bool
      <*> fieldOr fs "preview" {} SectionPreview.read
      <*> fieldOr fs "view_pages" [] (list integer)

/-- Read a choice of an integration. -/
def SchemaChoice.read : Json → Checked SchemaChoice :=
  record "SchemaOption" fun fs ↦
    SchemaChoice.mk <$> required fs "value" text <*> fieldOr fs "label" "" text

/-- Read a field of an integration. -/
def SchemaField.read : Json → Checked SchemaField :=
  record "SchemaEval" fun fs ↦
    (fun name _ choices ↦ ⟨name, choices⟩) <$> fieldOr fs "name" "" text
      <*> fieldOr fs "type" "eval" (choice id ["eval"])
      <*> fieldOr fs "options" [] (list SchemaChoice.read)

/-- Entries by number, in which a later entry overrides an earlier one. -/
def insertEntry {α : Type} (key : Int) (a : α) : List (Int × α) → List (Int × α)
  | [] => [(key, a)]
  | (k, b) :: rest => if k = key then (k, a) :: rest else (k, b) :: insertEntry key a rest

/-- Read entries whose keys are integers. -/
def Checked.entries {α : Type} (read : Json → Checked α) (v : Json) : Checked (List (Int × α)) :=
  match v.entries? with
  | none => .fail .notAnObject
  | some entries =>
    map (·.foldl (fun found (k, a) ↦ insertEntry k a found) [])
      (all (entries.map fun (key, v) ↦
        Prod.mk <$> inside (.ofKey key) (inside (.field "[key]") (integer (Json.ofKey key)))
          <*> inside (.ofKey key) (read v)))

/-- Read an integration. -/
def IntegrationSchema.read : Json → Checked IntegrationSchema :=
  openRecord "IntegrationSchema" fun fs ↦
    IntegrationSchema.mk <$> required fs "id" integer
      <*> fieldOr fs "name" {} Localization.read
      <*> fieldOr fs "description" {} Localization.read
      <*> fieldOr fs "fields" none (nullable (entries SchemaField.read))
      <*> fieldOr fs "AutorizedModifierList" none (nullable (list anything))
      <*> fieldOr fs "authorized_status_ids" [] (list integer)
      <*> .ok (others ["id", "name", "description", "fields", "AutorizedModifierList",
        "authorized_status_ids"] fs)

/-- Read the stat for initiative: a text stays a text, whatever else is an integer a number. -/
def InitiativeId.read (v : Json) : Checked InitiativeId :=
  match v with
  | .string s => .ok (.text s)
  | v =>
    match integer v with
    | .ok id => .ok (.number id)
    | .bad faults => neither "int" faults "str" [⟨[], .notAText⟩]

/-- Read how initiative is rolled. -/
def Initiative.read : Json → Checked Initiative :=
  openRecord "Initiative" fun fs ↦
    (fun id ↦ ⟨id, others ["id"] fs⟩) <$> fieldOr fs "id" none (nullable InitiativeId.read)

/-- Read the settings for other programs. -/
def Integrations.read : Json → Checked Integrations :=
  openRecord "Integrations" fun fs ↦
    Integrations.mk <$> fieldOr fs "iniciative" none (nullable Initiative.read)
      <*> fieldOr fs "atributes_roll" none (nullable text)
      <*> fieldOr fs "schemas" [] (list IntegrationSchema.read)
      <*> .ok (others ["iniciative", "atributes_roll", "schemas"] fs)

/-- Read the head of a schema. -/
def SystemConfig.read : Json → Checked SystemConfig :=
  record "SystemConfig" fun fs ↦
    SystemConfig.mk <$> fieldOr fs "id" none (nullable integer)
      <*> fieldOr fs "name" {} Localization.read
      <*> fieldOr fs "description" {} Localization.read

/-- Read a schema. -/
def GameSystem.read : Json → Checked GameSystem :=
  record "RPGSystem" fun fs ↦
    GameSystem.mk <$> fieldOr fs "config" {} SystemConfig.read
      <*> fieldOr fs "stats" [] (list Stat.read)
      <*> fieldOr fs "sections" [] (list SheetSection.read)
      <*> fieldOr fs "integrations" none (nullable Integrations.read)

/-- Read a record from the text of a document. -/
def Checked.ofText {α : Type} (read : Json → Checked α) (source : String) : Checked α :=
  match Json.Bounded.read source with
  | .ok v => read v
  | .error e => .fail (.malformed (e.message source))

end CharacterSheet
