import CharacterSheet.Json
import CharacterSheet.Schema

/-!
# Schemas as documents

A record becomes an object with its declared fields in order, followed by the fields that were
kept. A brief document leaves out the fields of records that are null; a full one has all. Every
record has a document: there is no bound on how deep the values in kept fields are nested, such as
the 255 levels beyond which a dump of the program gives up.
-/

namespace CharacterSheet

/-- Whether fields without a value are written. -/
inductive Extent where
  | brief
  | full
  deriving Repr, DecidableEq

namespace Extent

/-- A field that may have no value. -/
def field (d : Extent) (key : String) : Option Json → Json.Fields
  | some v => [(key, v)]
  | none => if d = .full then [(key, .null)] else []

/-- The fields that were kept beside the declared ones. What is shown as null but is not does not
count as without a value. -/
def kept (d : Extent) (fs : Json.Fields) : Json.Fields :=
  Json.writtenFields (if d = .full then fs else fs.filter fun (_, v) ↦ !v.isNull)

end Extent

/-- A list as a value. -/
def Json.ofList {α : Type} (write : α → Json) (xs : List α) : Json := .array (xs.map write)

/-- A list of integers as a value. -/
def Json.ofInts (ns : List Int) : Json := Json.ofList Json.int ns

namespace Localization

/-- A localized text as an object. -/
def toJson (d : Extent) (l : Localization) : Json :=
  .object (("default", .string l.default) :: d.kept l.variants)

end Localization

/-- A condition as an object. -/
def Condition.toJson (c : Condition) : Json :=
  .object [("value1", .string c.left), ("operator", .string c.comparison.symbol),
    ("value2", .string c.right)]

/-- A dice entry as an object. -/
def Dice.toJson (d : Extent) (dice : Dice) : Json :=
  .object (("expression", .string dice.expression) ::
    d.field "condition" (dice.condition.map Condition.toJson))

/-- A replacement as an object. -/
def Replacement.toJson (r : Replacement) : Json :=
  .object [("key", .int r.key), ("options", .ofInts r.options)]

/-- What can be rolled for a stat, as fields. -/
def Rolls.toFields (d : Extent) (r : Rolls) : Json.Fields :=
  d.field "dices" (r.dice.map (Json.ofList (Dice.toJson d))) ++
    d.field "replacements" (r.replacements.map (Json.ofList Replacement.toJson))

/-- An option as an object. -/
def EnumOption.toJson (d : Extent) (o : EnumOption) : Json :=
  .object ([("value", .int o.value), ("name", o.name.toJson d)] ++
    d.field "emoji" (o.emoji.map .string) ++ d.field "edit_page" (o.editPages.map .ofInts) ++
    d.field "replacements" (o.replacements.map (Json.ofList Replacement.toJson)))

/-- The options of an enumeration as a value. -/
def OptionSource.toJson (d : Extent) : OptionSource → Json
  | .own options => .ofList (EnumOption.toJson d) options
  | .sharedWith id => .int id

/-- What belongs to the kind of a stat, as fields. -/
def StatDetail.toFields (d : Extent) : StatDetail → Json.Fields
  | .numeric min max rolls =>
    d.field "min" (min.map .number) ++ d.field "max" (max.map .number) ++ rolls.toFields d
  | .enumeration options rolls => ("options", options.toJson d) :: rolls.toFields d
  | .boolean rolls => rolls.toFields d
  | .text minLength maxLength =>
    d.field "minLength" (minLength.map .int) ++ d.field "maxLength" (maxLength.map .int)
  | .calculated formula rolls => ("formula", .string formula) :: rolls.toFields d

/-- A stat as an object. -/
def Stat.toJson (d : Extent) (s : Stat) : Json :=
  .object ([("id", .int s.id), ("name", s.name.toJson d)] ++
    d.field "emoji" (s.emoji.map .string) ++ d.field "edit_page" (s.editPages.map .ofInts) ++
    [("type", .string s.kind.word)] ++ s.detail.toFields d)

/-- The template of a section as an object. -/
def SectionPreview.toJson (d : Extent) (p : SectionPreview) : Json :=
  .object (d.field "type" (p.kind.map fun k ↦ .string k.word) ++
    [("content", p.content.toJson d)])

/-- A section as an object. -/
def SheetSection.toJson (d : Extent) (s : SheetSection) : Json :=
  .object ([("id", .int s.id), ("name", s.name.toJson d)] ++
    d.field "emoji" (s.emoji.map .string) ++
    [("quick_edit_btn", .bool s.quickEdit), ("preview", s.preview.toJson d),
      ("view_pages", .ofInts s.viewPages)])

/-- A choice of an integration as an object. -/
def SchemaChoice.toJson (c : SchemaChoice) : Json :=
  .object [("value", .string c.value), ("label", .string c.label)]

/-- A field of an integration as an object. -/
def SchemaField.toJson (f : SchemaField) : Json :=
  .object [("name", .string f.name), ("type", .string "eval"),
    ("options", .ofList SchemaChoice.toJson f.choices)]

/-- An integration as an object. -/
def IntegrationSchema.toJson (d : Extent) (s : IntegrationSchema) : Json :=
  .object ([("id", .int s.id), ("name", s.name.toJson d),
      ("description", s.description.toJson d)] ++
    d.field "fields" (s.fields.map fun entries ↦
      .object (entries.map fun (k, f) ↦ (toString k, f.toJson))) ++
    d.field "AutorizedModifierList" (s.modifiers.map (Json.ofList Json.written)) ++
    [("authorized_status_ids", .ofInts s.authorizedStats)] ++ d.kept s.extra)

/-- The stat for initiative as a value. -/
def InitiativeId.toJson : InitiativeId → Json
  | .number id => .int id
  | .text s => .string s

/-- How initiative is rolled, as an object. -/
def Initiative.toJson (d : Extent) (i : Initiative) : Json :=
  .object (d.field "id" (i.id.map InitiativeId.toJson) ++ d.kept i.extra)

/-- The settings for other programs as an object. -/
def Integrations.toJson (d : Extent) (i : Integrations) : Json :=
  .object (d.field "iniciative" (i.initiative.map (Initiative.toJson d)) ++
    d.field "atributes_roll" (i.attributeRoll.map .string) ++
    [("schemas", .ofList (IntegrationSchema.toJson d) i.schemas)] ++ d.kept i.extra)

/-- The head of a schema as an object. -/
def SystemConfig.toJson (d : Extent) (c : SystemConfig) : Json :=
  .object (d.field "id" (c.id.map .int) ++
    [("name", c.name.toJson d), ("description", c.description.toJson d)])

/-- A schema as an object. -/
def GameSystem.toJson (d : Extent) (s : GameSystem) : Json :=
  .object ([("config", s.config.toJson d), ("stats", .ofList (Stat.toJson d) s.stats),
      ("sections", .ofList (SheetSection.toJson d) s.sections)] ++
    d.field "integrations" (s.integrations.map (Integrations.toJson d)))

/-- The document of a schema. -/
def GameSystem.document (s : GameSystem) : Json := s.toJson .brief

end CharacterSheet
