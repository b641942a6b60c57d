import CharacterSheet.Json

/-!
# Schemas of role-playing systems

A schema lists the stats of a character and the sections of its sheet. A stat is numeric, an
enumeration, a truth value, a text or calculated by a formula; all but texts may have dice
that are rolled for them. Ids need not be distinct: the first stat or section with an id counts.
-/

namespace CharacterSheet

/-- A text with variants for other locales. What stands for a locale is kept as it was read, be
it a text or not, and is written as a text when it is asked for. -/
structure Localization where
  default : String := ""
  variants : Json.Fields := []
  deriving Repr, Inhabited

namespace Localization

/-- The text for a locale: its variant if there is one that is not empty, else the default. -/
def get (l : Localization) (locale : String) : Except NumeralError String :=
  if locale = "" || locale = "default" then .ok l.default
  else
    match Json.Fields.get? locale l.variants with
    | some v => if v.isTruthy then v.writeText else .ok l.default
    | none => .ok l.default

/-- The default text when no locale is asked for. -/
theorem get_default (l : Localization) : l.get "default" = .ok l.default := rfl

/-- The variants as texts. -/
def translations (l : Localization) : Except NumeralError (List (String × String)) :=
  l.variants.mapM fun (locale, v) ↦ v.writeText.map (locale, ·)

end Localization

/-- A comparison of two expressions. -/
structure Condition where
  left : String := ""
  comparison : Comparison := .eq
  right : String := ""
  deriving Repr

/-- A dice expression, which may apply under a condition only. -/
structure Dice where
  expression : String := ""
  condition : Option Condition := none
  deriving Repr

/-- Stats that may stand in for the stat `key` when dice are rolled. -/
structure Replacement where
  key : Int
  options : List Int := []
  deriving Repr

/-- What can be rolled for a stat. -/
structure Rolls where
  dice : Option (List Dice) := none
  replacements : Option (List Replacement) := none
  deriving Repr

/-- One choice of an enumeration. -/
structure EnumOption where
  value : Int
  name : Localization := {}
  emoji : Option String := none
  editPages : Option (List Int) := none
  replacements : Option (List Replacement) := none
  deriving Repr

/-- Where an enumeration has its options from: a list of its own, or the options of another
enumeration. -/
inductive OptionSource where
  | own (options : List EnumOption)
  | sharedWith (stat : Int)
  deriving Repr

/-- The kinds of stats. -/
inductive StatKind where
  | numeric
  | enumeration
  | boolean
  | text
  | calculated
  deriving Repr, DecidableEq

namespace StatKind

/-- The word for a kind in documents. -/
def word : StatKind → String
  | .numeric => "numeric"
  | .enumeration => "enum"
  | .boolean => "boolean"
  | .text => "string"
  | .calculated => "calculated"

/-- The kinds in the order in which they are listed. -/
def all : List StatKind := [.numeric, .enumeration, .boolean, .text, .calculated]

/-- The kind that a word stands for. -/
def ofWord? (word : String) : Option StatKind := all.find? (·.word == word)

/-- Whether stats of a kind hold a number that formulas, dice and replacements can use. -/
def holdsValue : StatKind → Bool
  | .text => false
  | _ => true

/-- Every kind is found again by its word. -/
theorem ofWord?_word (k : StatKind) : ofWord? k.word = some k := by cases k <;> decide

end StatKind

/-- What belongs to the kind of a stat. -/
inductive StatDetail where
  | numeric (min max : Option Number) (rolls : Rolls)
  | enumeration (options : OptionSource) (rolls : Rolls)
  | boolean (rolls : Rolls)
  | text (minLength maxLength : Option Int)
  | calculated (formula : String) (rolls : Rolls)
  deriving Repr

/-- A stat of a character. -/
structure Stat where
  id : Int
  name : Localization := {}
  emoji : Option String := none
  /-- The sections on which the stat can be edited. -/
  editPages : Option (List Int) := none
  detail : StatDetail
  deriving Repr

namespace Stat

/-- The kind of a stat. -/
def kind (s : Stat) : StatKind :=
  match s.detail with
  | .numeric .. => .numeric
  | .enumeration .. => .enumeration
  | .boolean _ => .boolean
  | .text .. => .text
  | .calculated .. => .calculated

/-- What can be rolled for a stat; nothing for a text. -/
def rolls (s : Stat) : Rolls :=
  match s.detail with
  | .numeric _ _ r | .enumeration _ r | .boolean r | .calculated _ r => r
  | .text .. => {}

/-- The dice of a stat. -/
def dice (s : Stat) : List Dice := s.rolls.dice.getD []

/-- The replacements of a stat. -/
def replacements (s : Stat) : List Replacement := s.rolls.replacements.getD []

/-- The formula of a calculated stat. -/
def formula? (s : Stat) : Option String :=
  match s.detail with
  | .calculated f _ => some f
  | _ => none

/-- Whether a stat is calculated. -/
def isCalculated (s : Stat) : Bool := s.formula?.isSome

/-- Whether a stat is a text. -/
def isText (s : Stat) : Bool := s.kind = .text

/-- The options of an enumeration: its own, or those it shares. -/
def optionSource? (s : Stat) : Option OptionSource :=
  match s.detail with
  | .enumeration o _ => some o
  | _ => none

/-- The own options of an enumeration. -/
def ownOptions? (s : Stat) : Option (List EnumOption) :=
  match s.detail with
  | .enumeration (.own options) _ => some options
  | _ => none

/-- The stat with which an enumeration shares its options. -/
def sharesWith? (s : Stat) : Option Int :=
  match s.detail with
  | .enumeration (.sharedWith id) _ => some id
  | _ => none

end Stat

/-- What a section shows. -/
inductive PreviewKind where
  | text
  | image
  deriving Repr, DecidableEq

/-- The word for what a section shows in documents. -/
def PreviewKind.word : PreviewKind → String
  | .text => "string"
  | .image => "img"

/-- The template of a section. -/
structure SectionPreview where
  kind : Option PreviewKind := none
  content : Localization := {}
  deriving Repr

/-- A section of a sheet. -/
structure SheetSection where
  id : Int
  name : Localization := {}
  emoji : Option String := none
  quickEdit : Bool := false
  preview : SectionPreview := {}
  /-- The sections that are shown together with this one. -/
  viewPages : List Int := []
  deriving Repr

/-- A choice offered by an integration. -/
structure SchemaChoice where
  value : String
  label : String := ""
  deriving Repr

/-- A field of an integration that is evaluated. -/
structure SchemaField where
  name : String := ""
  choices : List SchemaChoice := []
  deriving Repr

/-- What another program may do with a character. -/
structure IntegrationSchema where
  id : Int
  name : Localization := {}
  description : Localization := {}
  fields : Option (List (Int × SchemaField)) := none
  modifiers : Option (List Json) := none
  /-- The stats that may be changed. -/
  authorizedStats : List Int := []
  extra : Json.Fields := []
  deriving Repr

/-- The stat that is rolled for initiative, as a number or as the editor wrote it. -/
inductive InitiativeId where
  | number (id : Int)
  | text (id : String)
  deriving Repr, DecidableEq

/-- How initiative is rolled. -/
structure Initiative where
  id : Option InitiativeId := none
  extra : Json.Fields := []
  deriving Repr

/-- Whether a text is a row of digits once trimmed, so that it may be read as an id. -/
def looksLikeId (s : String) : Bool :=
  let trimmed := Text.trim s.toList
  !trimmed.isEmpty && trimmed.all Text.isAnyDigit

/-- The stat that is rolled for initiative. A text that is no row of digits names none; a row
of digits that is no integer is refused. -/
def Initiative.stat? (i : Initiative) : Except NumeralError (Option Int) :=
  match i.id with
  | some (.number id) => .ok (some id)
  | some (.text s) =>
    if looksLikeId s then (Numeral.readInteger s).map some else .ok none
  | none => .ok none

/-- Settings for other programs. -/
structure Integrations where
  initiative : Option Initiative := none
  /-- The dice that attributes are rolled with. -/
  attributeRoll : Option String := none
  schemas : List IntegrationSchema := []
  extra : Json.Fields := []
  deriving Repr

/-- The head of a schema. -/
structure SystemConfig where
  id : Option Int := none
  name : Localization := {}
  description : Localization := {}
  deriving Repr

/-- A schema: the stats and sections of a role-playing system. -/
structure GameSystem where
  config : SystemConfig := {}
  stats : List Stat := []
  sections : List SheetSection := []
  integrations : Option Integrations := none
  deriving Repr

/-- The first stat with an id. -/
def findStat (stats : List Stat) (id : Int) : Option Stat := stats.find? (·.id == id)

/-- The first section with an id. -/
def findSection (sections : List SheetSection) (id : Int) : Option SheetSection :=
  sections.find? (·.id == id)

/-- The options of an enumeration: its own, or those that the stat it refers to has of its own. -/
def resolveOptions (stats : List Stat) : OptionSource → Option (List EnumOption)
  | .own options => some options
  | .sharedWith id => (findStat stats id).bind Stat.ownOptions?

/-- The stat with an id that is found has that id. -/
theorem id_of_findStat {stats : List Stat} {id : Int} {s : Stat}
    (h : findStat stats id = some s) : s.id = id := by
  simpa using List.find?_some h

/-- A stat that is found is one of the list. -/
theorem mem_of_findStat {stats : List Stat} {id : Int} {s : Stat}
    (h : findStat stats id = some s) : s ∈ stats := List.mem_of_find?_eq_some h

end CharacterSheet
