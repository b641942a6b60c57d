import CharacterSheet.Json.Printer
import CharacterSheet.Schema.Document
import CharacterSheet.Schema.Reader
import CharacterSheet.Text.Pieces

/-!
# Settings of an author
-/

namespace CharacterSheet

/-- The languages in which previews report what they cannot resolve. -/
inductive Language where
  | english
  | portuguese
  deriving Repr, DecidableEq

/-- The tag of a language. -/
def Language.tag : Language → String
  | .english => "en"
  | .portuguese => "pt-BR"

/-- The languages in the order in which they are listed. -/
def Language.all : List Language := [.english, .portuguese]

/-- The language with a tag; English for any other. -/
def Language.ofTag (tag : String) : Language :=
  (Language.all.find? (·.tag == tag)).getD .english

/-- What an author may set. -/
structure Settings where
  /-- The locale whose names previews use. -/
  defaultLocale : String := "default"
  /-- The language of what previews report. -/
  diagnosticsLanguage : Language := .english
  /-- Whether validation is strict. -/
  strictValidation : Bool := false
  /-- The indentation of the documents that are written. -/
  indent : Int := 2
  deriving Repr, DecidableEq

namespace Settings
open Checked

/-- Read settings. -/
def read : Json → Checked Settings :=
  record "Settings" fun fs ↦
    Settings.mk <$> fieldOr fs "default_locale" "default" text
      <*> fieldOr fs "diagnostics_language" .english (choice Language.tag Language.all)
      <*> fieldOr fs "strict_validation" false bool
      <*> fieldOr fs "json_indent" 2 integer

/-- Settings as fields. -/
def toFields (s : Settings) : Json.Fields := [
  ("default_locale", .string s.defaultLocale),
  ("diagnostics_language", .string s.diagnosticsLanguage.tag),
  ("strict_validation", .bool s.strictValidation),
  ("json_indent", .int s.indent)]

/-- The text that settings are kept as. -/
def render (s : Settings) : String :=
  Json.render (.indented 2) (.object s.toFields)

/-- The settings in a text; where there is none, the default ones. -/
def ofText? : Option String → Checked Settings
  | some source => Checked.ofText read (Text.lineFed source)
  | none => .ok {}

/-- The text that is kept once the settings were asked for: where there was none, the default
settings. -/
def keptText (text : Option String) : String := text.getD (render {})

/-- The text that is kept as it is read, with its lines ended by line feeds. -/
def readText (text : Option String) : String := Text.lineFed (keptText text)

/-- The layout that documents are written in. -/
def layout (s : Settings) : Json.Layout := .ofIndent s.indent

/-- Settings with some fields changed. -/
def update (s : Settings) (changes : Json.Fields) : Checked Settings :=
  read (.object (changes.foldl (fun fs (k, v) ↦ Json.Fields.set k v fs) s.toFields))

end Settings
end CharacterSheet
