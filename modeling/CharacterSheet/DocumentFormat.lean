import CharacterSheet.Json.Reader
import CharacterSheet.Path
import CharacterSheet.Yaml.Value

/-!
# Formats of documents

The ending of a file's name tells the format of the document in it.
-/

namespace CharacterSheet

/-- The formats of documents. -/
inductive DocumentFormat where
  | json
  | yaml
  deriving Repr, DecidableEq

/-- Why a text is no document. -/
inductive DocumentError where
  /-- The text, and why it is no JSON. -/
  | json (source : String) (error : Json.ReadError)
  | yaml (error : Yaml.Error)
  deriving Repr, DecidableEq

namespace DocumentError

/-- The wording of an error. -/
def message : DocumentError → String
  | .json source error => error.message source
  | .yaml error => error.message

/-- Whether a text breaks the rules of its format, rather than that a numeral in it has no
value. -/
def isMalformed : DocumentError → Bool
  | .json _ ⟨.numeral _, _, _⟩ => false
  | .json .. => true
  | .yaml error => error.isMalformed

end DocumentError

namespace DocumentFormat

/-- The endings of the names of YAML files. -/
def yamlEndings : List String := [".yaml", ".yml"]

/-- Whether a path has the ending of a document. -/
def isDocument (p : Path) : Bool := (".json" :: yamlEndings).contains p.ending

/-- The format of a file by its path: JSON unless the ending says otherwise. -/
def ofPath (p : Path) : DocumentFormat := if yamlEndings.contains p.ending then .yaml else .json

/-- The document in a text. A YAML document that is empty or counts as nothing is an empty
object. -/
def read (format : DocumentFormat) (source : String) : Except DocumentError Json :=
  match format with
  | .json => (Json.read source).mapError (.json source)
  | .yaml => (Yaml.read source).mapError .yaml |>.map fun v ↦ if v.isTruthy then v else .object []

end DocumentFormat
end CharacterSheet
