import CharacterSheet.Json.Printer
import CharacterSheet.Schema.Document
import CharacterSheet.Schema.Reader

/-!
# Texts of schemas
-/

namespace CharacterSheet.GameSystem

/-- The text of a schema. -/
def render (s : GameSystem) (layout : Json.Layout) : String := Json.render layout s.document

/-- The text of a schema, unless an integer in it is too long to be written. -/
def write (s : GameSystem) (layout : Json.Layout) : Except NumeralError String :=
  if s.document.isWritable then .ok (s.render layout) else .error .tooLargeToWrite

/-- The schema in a text. -/
def ofText (source : String) : Checked GameSystem := Checked.ofText GameSystem.read source

/-- The name of the file for a schema: by its name, or by its id when it has none. -/
def filename (s : GameSystem) : String :=
  let name :=
    if !s.config.name.default.isEmpty then s.config.name.default
    else
      match s.config.id with
      | some id => toString id
      | none => "None"
  "rpg-system-" ++ name ++ ".json"

/-- Whether a text that was written from a schema is written again as it is once read. -/
def isStable (text : String) (layout : Json.Layout) : Bool :=
  match ofText text with
  | .ok s => s.render layout == text
  | .bad _ => false

end CharacterSheet.GameSystem
