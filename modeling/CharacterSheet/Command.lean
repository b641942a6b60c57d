import CharacterSheet.Json
import CharacterSheet.Path

/-!
# Commands

What can be asked for on the command line.
-/

namespace CharacterSheet

/-- What a preview is asked to show beside its text, and how. -/
structure PreviewOptions where
  locale : Option String := none
  language : Option String := none
  /-- The stat whose roll is shown too. -/
  stat : Option Int := none
  /-- Whether the roll of attributes is shown too. -/
  attributes : Bool := false
  deriving Repr

/-- A command with its arguments. -/
inductive Command where
  /-- Write a system to start from. -/
  | starter (target : Option Path)
  /-- Preview a text with the stats of a system. -/
  | preview (source : Path) (text : String) (options : PreviewOptions)
  /-- List what formulas depend on, and their cycles. -/
  | dependencies (source : Path)
  /-- Convert a legacy document. -/
  | importLegacy (source target : Path)
  /-- Change some settings and list all. -/
  | configure (changes : Json.Fields)
  /-- Write files that describe documents. -/
  | exportSchemas (target : Path) (names : List String)
  /-- Validate documents and all those in directories. -/
  | validate (sources : List Path) (strict : Option Bool)
  deriving Repr

/-- The paths that a command reads from. -/
def Command.sources : Command → List Path
  | .starter _ | .configure _ | .exportSchemas .. => []
  | .preview source .. | .dependencies source | .importLegacy source _ => [source]
  | .validate sources _ => sources

end CharacterSheet
