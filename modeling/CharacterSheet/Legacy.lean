import CharacterSheet.Legacy.Access
import CharacterSheet.Schema.Reader

/-!
# Legacy documents

A legacy document has its texts in blocks, one for each locale. A conversion takes the default
texts from the block for the default locale, or from the first block when there is none, and
the variants from the blocks of the other known locales. It fails at the first look that
fails, and nothing is converted then.
-/

namespace CharacterSheet.Legacy

/-- The locales of legacy blocks and what they are called now. -/
def locales : List (String × String) := [
  ("default", "en-US"), ("pt-BR", "pt-BR"), ("fr", "fr"), ("ko", "ko")]

/-- The locale of a block that holds variants. -/
def variantLocale? (block : String) : Option String :=
  (locales.lookup block).filter (· != "en-US")

/-- The texts of a legacy document. -/
structure Blocks where
  all : Json.Fields
  /-- The block of the default texts. -/
  default : Json

/-- The blocks of a legacy document. -/
def Blocks.ofJson (v : Json) : Result Blocks := do
  let chosen ← find (.string "default") v
  match v with
  | .object fs =>
    if chosen.isTruthy then return ⟨fs, chosen⟩
    else
      match fs with
      | (_, first) :: _ => return ⟨fs, first⟩
      | [] => throw .noBlock
  | _ => throw .noObject

/-- A localized text with a default and with what is picked from the blocks of variants. -/
def localized (blocks : Blocks) (default : Json) (pick : Json → Result Json) : Result Json := do
  let others := blocks.all.filterMap fun (key, block) ↦
    (variantLocale? key).map fun locale ↦ (locale, block)
  let picked ← others.mapM fun (locale, block) ↦ (pick block).map fun v ↦ (locale, v)
  return .object (Json.Fields.ofEntries
    (("default", default) :: picked.filter fun (_, v) ↦ v.isTruthy))

/-- The text under some keys, one inside the other. -/
def itemAlong (keys : List String) (v : Json) : Result Json :=
  keys.foldlM (fun v key ↦ item key v) v

/-- A replacement in its present form. -/
def replacement (v : Json) : Result Json := do
  let key ← item "id" v
  let options ← entries (← item "replacedBy" v)
  return .object [("key", key), ("options", .array options)]

/-- The replacements of a stat in their present form, if it has any. -/
def replacements (stat : Json) : Result Json := do
  match ← find (.string "replacements") stat with
  | .null => return .null
  | v => return .array (← (← entries v).mapM replacement)

/-- The names of an option in a block: the first list of names for the stat is looked at. -/
def optionName? (stat value block : Json) : Result (Option Json) := do
  let lists ← entries (orElse (← find (.string "enums") block) (.array []))
  match ← firstWhere (fun l ↦ do isIn stat (← item "for" l)) lists with
  | none => return none
  | some names =>
    firstWhere (fun e ↦ return Json.same (← item "value" e) value)
      (← entries (← item "enum" names))

/-- The names of an option with those of one more block. -/
def addOptionName (stat value : Json) (names : Json.Fields) (key : String) (block : Json) :
    Result Json.Fields := do
  match ← optionName? stat value block with
  | none => return names
  | some entry =>
    match locales.lookup key with
    | none => return names
    | some locale =>
      let name ← item "name" entry
      return names.set (if locale = "en-US" then "default" else locale) name

/-- An option of an enumeration in its present form. -/
def enumOption (blocks : Blocks) (stat pages option : Json) : Result Json := do
  let id ← item "id" stat
  let value ← item "value" option
  let names ← blocks.all.foldlM (fun names (key, block) ↦ addOptionName id value names key block)
    [("default", textBehind "" value)]
  let emoji ← find (.string "emoji") option
  return .object [("value", value), ("name", .object names), ("emoji", emoji),
    ("edit_page", pages), ("replacements", ← replacements stat)]

/-- Dice in their present form. -/
def dice (v : Json) : Result Json := do
  return .array (← (← entries v).mapM fun d ↦ do
    return .object [("expression", ← item "dice" d)])

/-- What belongs to the kind of a stat. The kind is an enumeration when there is a list of
options, calculated when there are dice, and a truth value when the stat cannot hold a value. -/
def detail (blocks : Blocks) (pages stat : Json) : Result Json.Fields := do
  let given ← find (.string "dices") stat
  let options ← find (.string "enum") stat
  if !options.isNull then
    let options ← (← entries options).mapM (enumOption blocks stat pages)
    let rolls ← if given.isNull then pure .null else dice (orElse given (.array []))
    return [("type", .string "enum"), ("options", .array options), ("dices", rolls),
      ("replacements", ← replacements stat)]
  else if given.isTruthy then
    let formula ← item "dice" (← first given)
    return [("type", .string "calculated"), ("formula", formula), ("dices", ← dice given)]
  else
    match ← find (.string "canHoldValue") stat with
    | .bool false => return [("type", .string "boolean")]
    | _ => return [("type", .string "numeric")]

/-- A stat in its present form. -/
def stat (blocks : Blocks) (v : Json) : Result Json := do
  let id ← item "id" v
  let key := textBehind "" id
  let default ← find key (← item "stats" blocks.default)
  let name ← localized blocks (orElse default (textBehind "Stat " id))
    fun block ↦ do find key (← item "stats" block)
  let emoji ← find (.string "emoji") v
  let menu ← find (.string "menu") v
  let pages : Json := if menu.isNull then .null else .array [menu]
  return .object ([("id", id), ("name", name), ("emoji", emoji), ("edit_page", pages)] ++
    (← detail blocks pages v))

/-- The field of a block that a section shows. -/
def shownField? (block : Json) (id : Int) : Result (Option Json) := do
  let fields ← entries (← itemAlong ["commands", "ficha", "fields"] block)
  firstWhere (fun f ↦ do isIn (.int id) (← item "forMenu" f)) fields

/-- The text that a section shows in a block, or null. -/
def shownText (id : Int) (block : Json) : Result Json := do
  match ← shownField? block id with
  | some f => item "value" f
  | none => return .null

/-- A section in its present form. -/
def sheetSection (blocks : Blocks) (styles key : Json) : Result Json := do
  let id ← toId key
  let shown ← shownField? blocks.default id
  let name ← localized blocks (← itemBy key (← item "menu" blocks.default))
    fun block ↦ do find key (← item "menu" block)
  let emoji ← find (.string "emoji") (orElse (← find key styles) (.object []))
  let default ← match shown with
    | some f => find (.string "value") f
    | none => pure .null
  let content ← localized blocks (orElse default (textBehind "Section " key))
    (shownText id)
  return .object [("id", .int id), ("name", name), ("quick_edit_btn", .bool true),
    ("emoji", emoji), ("preview", .object [("type", .string "string"), ("content", content)]),
    ("view_pages", .array [.int id])]

mutual

/-- A value without the fields that are null, at every depth. -/
def withoutNulls : Json → Json
  | .array items => .array (itemsWithoutNulls items)
  | .object fs => .object (fieldsWithoutNulls fs)
  | v => v

/-- Items without the fields that are null. -/
def itemsWithoutNulls : List Json → List Json
  | [] => []
  | v :: rest => withoutNulls v :: itemsWithoutNulls rest

/-- Fields without those that are null. -/
def fieldsWithoutNulls : List (String × Json) → List (String × Json)
  | [] => []
  | (k, v) :: rest =>
    if v.isNull then fieldsWithoutNulls rest
    else (k, withoutNulls v) :: fieldsWithoutNulls rest

end

/-- The head of a schema. -/
def head (blocks : Blocks) (commands : Json) : Result Json := do
  let id ← itemAlong ["config", "value"] commands
  let text (key : String) : Result Json := do
    let path := ["commands", "config", key]
    localized blocks (← itemAlong path blocks.default) (itemAlong path)
  return .object [("id", id), ("name", ← text "label"), ("description", ← text "description")]

/-- A legacy document in its present form. -/
def document (old : Json) : Result Json := do
  let blocks ← Blocks.ofJson (← item "i18n" old)
  let commands ← item "commands" old
  let config ← head blocks commands
  let stats ← (← entries (← item "stats" old)).mapM (stat blocks)
  let sections ← (← entries (← item "menu" blocks.default)).mapM fun key ↦ do
    sheetSection blocks (orElse (← find (.string "menu") commands) (.object [])) key
  return .object [("config", config), ("stats", withoutNulls (.array stats)),
    ("sections", withoutNulls (.array sections))]

/-- The schema of a legacy document. -/
def convert (old : Json) : Result GameSystem := do
  match GameSystem.read (← document old) with
  | .ok s => return s
  | .bad faults => throw (.invalid faults)

end CharacterSheet.Legacy
