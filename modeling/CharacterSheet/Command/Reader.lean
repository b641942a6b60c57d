import CharacterSheet.Command
import CharacterSheet.Command.Arguments

/-!
# Reading commands

There are two programs, one to work on systems and one to check and describe documents. Each
has commands of its own, and each command options of its own.
-/

namespace CharacterSheet

/-- The programs. -/
inductive Program where
  | workbench
  | inspector
  deriving Repr, DecidableEq

/-- A command of a program: its name, its options, and how it is made from its arguments. -/
structure CommandForm where
  name : String
  options : List OptionForm := []
  make : List Argument → Except UsageError Command

namespace CommandForm
open Argument

/-- The only argument, which may be left out. -/
def atMostOne : List String → Except UsageError (Option String)
  | [] => .ok none
  | [s] => .ok (some s)
  | _ :: extra :: _ => .error (.extraArgument extra)

/-- The only argument, which has a name. -/
def one (name : String) : List String → Except UsageError String
  | [] => .error (.missingArgument name)
  | [s] => .ok s
  | _ :: extra :: _ => .error (.extraArgument extra)

/-- The only two arguments, which have names. -/
def two (first second : String) : List String → Except UsageError (String × String)
  | [] => .error (.missingArgument first)
  | [_] => .error (.missingArgument second)
  | [s, t] => .ok (s, t)
  | _ :: _ :: extra :: _ => .error (.extraArgument extra)

/-- A new system, in a file of its own name or of another. -/
def starter : CommandForm where
  name := "new"
  make given := return .starter ((← atMostOne (words given)).map Path.ofText)

/-- A preview. -/
def preview : CommandForm where
  name := "preview"
  options := [⟨"--locale", true⟩, ⟨"--language", true⟩, ⟨"--stat", true⟩, ⟨"--attributes", false⟩]
  make given := do
    let (source, text) ← two "PATH" "TEXT" (words given)
    return .preview (Path.ofText source) text {
      locale := value? "--locale" given
      language := value? "--language" given
      stat := ← integer? "--stat" given
      attributes := has "--attributes" given }

/-- The dependencies of formulas. -/
def dependencies : CommandForm where
  name := "deps"
  make given := return .dependencies (Path.ofText (← one "PATH" (words given)))

/-- A conversion. -/
def importLegacy : CommandForm where
  name := "import-legacy"
  make given := do
    let (source, target) ← two "SRC" "DST" (words given)
    return .importLegacy (Path.ofText source) (Path.ofText target)

/-- The settings. -/
def configure : CommandForm where
  name := "config"
  options := [⟨"--default-locale", true⟩, ⟨"--diagnostics-language", true⟩,
    ⟨"--strict-validation", false⟩, ⟨"--no-strict-validation", false⟩, ⟨"--json-indent", true⟩]
  make given := do
    let indent ← integer? "--json-indent" given
    match words given with
    | extra :: _ => throw (.extraArgument extra)
    | [] =>
      let change (key : String) (v : Option Json) : Json.Fields := (v.map fun v ↦ (key, v)).toList
      return .configure (
        change "default_locale" ((value? "--default-locale" given).map .string) ++
        change "diagnostics_language" ((value? "--diagnostics-language" given).map .string) ++
        change "strict_validation"
          ((choice? "--strict-validation" "--no-strict-validation" given).map .bool) ++
        change "json_indent" (indent.map .int))

/-- An export of descriptions. -/
def exportSchemas : CommandForm where
  name := "export-schemas"
  options := [⟨"--out", true⟩, ⟨"--only", true⟩]
  make given :=
    match words given with
    | extra :: _ => throw (.extraArgument extra)
    | [] =>
      let target := (value? "--out" given).getD "docs/schemas"
      return .exportSchemas (Path.ofText target) (values "--only" given)

/-- A validation. -/
def validate : CommandForm where
  name := "validate-system"
  options := [⟨"--strict", false⟩, ⟨"--no-strict", false⟩]
  make given :=
    match words given with
    | [] => throw (.missingArgument "PATHS...")
    | sources => return .validate (sources.map Path.ofText) (choice? "--strict" "--no-strict" given)

end CommandForm

namespace Program
open CommandForm

/-- The commands of a program. -/
def commands : Program → List CommandForm
  | .workbench => [starter, CommandForm.preview, CommandForm.dependencies,
    CommandForm.importLegacy, CommandForm.configure]
  | .inspector => [CommandForm.exportSchemas, CommandForm.validate]

/-- Whether an option asks for more of a log. -/
def isVerbosity (s : String) : Bool :=
  s = "--verbose" ||
    match s.toList with
    | '-' :: 'v' :: more => more.all (· = 'v')
    | _ => false

/-- The arguments from the command on. Only the workbench has options before it. -/
def fromCommand (p : Program) : List String → Except UsageError (List String)
  | [] => .ok []
  | s :: rest =>
    if s = "--" then .ok rest
    else if Argument.looksLikeOption s then
      if p = .workbench && isVerbosity s then p.fromCommand rest else .error (.unknownOption s)
    else .ok (s :: rest)

/-- The command that arguments ask for. -/
def read (p : Program) (arguments : List String) : Except UsageError Command := do
  match ← p.fromCommand arguments with
  | [] => throw .missingCommand
  | name :: rest =>
    match p.commands.find? (·.name == name) with
    | none => throw (.unknownCommand name)
    | some form => form.make (← Argument.readAll form.options rest)

end Program
end CharacterSheet
