import CharacterSheet.Command
import CharacterSheet.Command.Reader
import CharacterSheet.Command.Report
import CharacterSheet.DocumentText
import CharacterSheet.Editing
import CharacterSheet.Formula.Cycle
import CharacterSheet.Preview
import CharacterSheet.SchemaFile
import CharacterSheet.Settings
import CharacterSheet.Validation

/-!
# Running commands

A command is run on files and settings: it gives a report, and the files and settings as they
are afterwards. Whatever may fail is done before anything is written, but for the encoding of what
a legacy document becomes. A program reads the command from its arguments first.
-/

namespace CharacterSheet

/-- What commands work on. -/
structure Workspace where
  store : FileStore
  /-- The text of the settings, if there are any yet. -/
  settings : Option String := none
  deriving Repr

namespace FileStore

/-- The document in a file. -/
def readDocument (s : FileStore) (p : Path) : Except Failure Json := do
  let text ← (s.read p).mapError .file
  ((DocumentFormat.ofPath p).read text).mapError .document

/-- The system in a file. -/
def readSystem (s : FileStore) (p : Path) : Except Failure GameSystem := do
  match GameSystem.read (← s.readDocument p) with
  | .ok system => return system
  | .bad faults => throw (.invalid "RPGSystem" faults)

/-- The documents that a path stands for: a file with the ending of a document, or all such
files in a directory. -/
def documentsAt (s : FileStore) (p : Path) : List Path :=
  (if s.isDirectory p then s.filesBelow p else [p]).filter DocumentFormat.isDocument

/-- The store with texts written to files below a directory, and the error that came in the
way. -/
def writeAll (s : FileStore) (directory : Path) :
    List (String × String) → FileStore × Option FileError
  | [] => (s, none)
  | (name, text) :: rest =>
    match s.write (directory.below [name]) text with
    | .ok s => s.writeAll directory rest
    | .error e => (s, some e)

end FileStore

namespace Workspace

/-- The text of the settings as it is read, with its lines ended by line feeds. -/
def settingsText? (w : Workspace) : Option String := w.settings.map Text.lineFed

/-- The settings, which are kept from now on if there were none. -/
def loadSettings (w : Workspace) : Except Failure (Settings × Workspace) :=
  match Settings.ofText? w.settings with
  | .ok settings => .ok (settings, { w with settings := some (Settings.keptText w.settings) })
  | .bad faults => .error (.invalid "Settings" faults)

/-- A run that needs the settings. -/
def withSettings (w : Workspace) (run : Settings → Workspace → Report × Workspace) :
    Report × Workspace :=
  match w.loadSettings with
  | .ok (settings, w) => run settings w
  | .error cause => (.broken cause, w)

end Workspace

namespace Report

/-- The words before what is wrong with a file. -/
def lead (p : Path) : String := "[ERROR] " ++ p.text ++ ": "

/-- A report on the system in a file. Only a document that is no system is reported. -/
def onSystem (s : FileStore) (p : Path) (report : GameSystem → Report) : Report :=
  match s.readSystem p with
  | .ok system => report system
  | .error (.invalid name faults) => failed (.failure (lead p) (.invalid name faults))
  | .error cause => broken cause

/-- The report on the preview of a condition. -/
def onCondition (p : Preview Id) (d : Dice) : Report :=
  ofResult
    (fun
      | none => {}
      | some c =>
        let verdict :=
          match c.result with
          | none => "error"
          | some true => "true"
          | some false => "false"
        line ("  if " ++ c.left ++ " " ++ c.comparison.symbol ++ " " ++ c.right ++ " -> " ++
          verdict ++ ": " ++ d.expression))
    ((p.condition d).run.run.mapError .ofNumeral)

/-- The report on the roll of a stat. -/
def onStat (p : Preview Id) (id : Int) : Report :=
  match findStat p.system.stats id with
  | none => failed (.line ("[ERROR] stat " ++ toString id ++ " does not exist"))
  | some s =>
    join (s.dice.map (onCondition p)) ++
      ofResult (fun rolled ↦ line (rolled.getD "(no applicable dice)"))
        ((p.statRoll s).run.run.mapError .evaluation)

/-- The report on a preview. -/
def onPreview (p : Preview Id) (text : String) (o : PreviewOptions) : Report :=
  ofResult line ((p.render text).run.run.mapError .ofNumeral) ++
    (match o.stat with
      | some id => onStat p id
      | none => {}) ++
    (if o.attributes then
      ofResult (fun rolled ↦ line (rolled.getD "(no attribute roll)"))
        (p.attributeRoll.run.run.mapError .ofNumeral)
    else {})

/-- The row of a calculated stat with a written id: what it depends on. -/
def dependencyRow (id : String) (s : Stat) (deps : List Int) : String :=
  id ++ " (" ++ s.name.default ++ ") <- " ++
    orElse (", ".intercalate (deps.map toString)) "-"

/-- The notice of a cycle. -/
def cycleNotice (path : List Int) : Notice :=
  .line ("  cycle: " ++ " -> ".intercalate (path.map toString))

/-- The report on a calculated stat, and the cycle that was found from it. -/
def onFormula (s : Stat) (formula : String) (cycle : CycleAnswer) : Report :=
  match dependencies formula, Numeral.writeInteger s.id with
  | .ok deps, .ok id =>
    line (dependencyRow id s deps) ++
      match cycle with
      | .ok path => { notices := (path.map cycleNotice).toList }
      | .error e => broken (.ofNumeral e)
  | .error e, _ | _, .error e => broken (.ofNumeral e)

/-- The report on calculated stats, whose cycles are found by a checker. -/
def onFormulas (checker : CycleChecker) : List (Stat × String) → Report
  | [] => {}
  | (s, formula) :: rest =>
    let (cycle, checker) := checker.find s.id formula
    onFormula s formula cycle ++ onFormulas checker rest

/-- The report on the dependencies of a system, which fails if there is a cycle. -/
def onDependencies (s : GameSystem) : Report :=
  match dependencyGraph s.stats with
  | .error e => broken (.ofNumeral e)
  | .ok _ =>
    let r := onFormulas ⟨s.stats, [], []⟩ (distinctCalculated s.stats)
    r ++ { ending := if r.notices.isEmpty then .done else .failed }

/-- The report on a document that is validated. -/
def onDocument (s : FileStore) (strict : Bool) (p : Path) : Report :=
  match s.readDocument p with
  | .error cause =>
    if cause.isUnreadable then { notices := [.failure (lead p) cause] } else broken cause
  | .ok v =>
    match v.schemaIssues strict with
    | .ok issues => { notices := issues.map fun i ↦ .line (lead p ++ i.line) }
    | .error e => broken (.ofNumeral e)

/-- The report on documents that are validated, which fails if there is a notice. -/
def onDocuments (s : FileStore) (strict : Bool) (sources : List Path) : Report :=
  let documents := sources.flatMap s.documentsAt
  let r := join (documents.map (onDocument s strict))
  r ++ if r.notices.isEmpty then
      line (toString documents.length ++ " schema file(s) validated successfully.")
    else { ending := .failed }

/-- The report on settings. -/
def onSettings (s : Settings) : Report where
  output := s.toFields.map fun (key, v) ↦ key ++ " = " ++ v.display

end Report

namespace Workspace
open Report

/-- Write a system to start from. -/
def runStarter (w : Workspace) (target : Option Path) : Report × Workspace :=
  w.withSettings fun settings w ↦
    let system := GameSystem.starter
    let target := target.getD (Path.ofText system.filename)
    match w.store.save target (system.render settings.layout) with
    | .ok store => (line ("Created starter system: " ++ target.text), { w with store })
    | .error e => (broken (.file e), w)

/-- Preview a text, with dice that show what a sequence of numbers makes them show. -/
def runPreview (w : Workspace) (dice : Nat → Nat) (source : Path) (text : String)
    (o : PreviewOptions) : Report × Workspace :=
  w.withSettings fun settings w ↦
    let report (system : GameSystem) : Report :=
      let language := orElse (o.language.getD "") settings.diagnosticsLanguage.tag
      onPreview {
        system
        locale := orElse (o.locale.getD "") settings.defaultLocale
        language := Language.ofTag language
        evaluate := Arithmetic.evaluator
        roll := diceRoller dice } text o
    (onSystem w.store source report, w)

/-- A legacy document converted, with the text of what it becomes. -/
def convertLegacy (store : FileStore) (layout : Json.Layout) (source : Path) :
    Except Failure (GameSystem × String) := do
  let text ← (store.read source).mapError .file
  let old ← (DocumentFormat.json.read text).mapError .document
  let system ← (Legacy.convert old).mapError .ofLegacy
  let text ← (system.write layout).mapError .ofNumeral
  return (system, text)

/-- Convert a legacy document. The target is emptied before the text for it is encoded, and is left
empty when that fails. -/
def runImport (w : Workspace) (source target : Path) : Report × Workspace :=
  w.withSettings fun settings w ↦
    let stopped (cause : Failure) (w : Workspace) : Report × Workspace :=
      (failed (.failure ("[ERROR] conversion of " ++ source.text ++ " failed: ") cause), w)
    match convertLegacy w.store settings.layout source with
    | .error cause => stopped cause w
    | .ok (system, text) =>
      let fault := system.document.encodingFault? settings.layout
      match w.store.write target (if fault.isSome then "" else text), fault with
      | .error e, _ => stopped (.file e) w
      | .ok store, some e => stopped (.encoding e) { w with store }
      | .ok store, none =>
        (line ("Converted " ++ toString system.stats.length ++ " stat(s) and " ++
          toString system.sections.length ++ " section(s) to " ++ target.text), { w with store })

/-- Change some settings and list all. -/
def runConfigure (w : Workspace) (changes : Json.Fields) : Report × Workspace :=
  w.withSettings fun settings w ↦
    if changes.isEmpty then (onSettings settings, w)
    else
      match settings.update changes with
      | .ok settings => (onSettings settings, { w with settings := some settings.render })
      | .bad faults => (failed (.failure "[ERROR] " (.invalid "Settings" faults)), w)

/-- Write files that describe documents. Names are refused before anything is written. -/
def runExport (w : Workspace) (target : Path) (names : List String) : Report × Workspace :=
  match Described.select names with
  | .error unknown => (failed (.line ("[ERROR] " ++ Described.unknownMessage unknown)), w)
  | .ok chosen =>
    match w.store.makeDirectory target with
    | .error e => (broken (.file e), w)
    | .ok store =>
      let texts := chosen.map fun d ↦ (d.filename, d.document.render (.indented 2))
      let (store, failure) := store.writeAll target texts
      let report :=
        match failure with
        | some e => broken (.file e)
        | none => {
          output := chosen.map (fun d ↦ "  " ++ d.filename) ++
            ["Exported " ++ toString chosen.length ++ " schema(s) to " ++ target.text] }
      (report, { w with store })

/-- Validate documents; the settings tell how strictly unless that is given. -/
def runValidate (w : Workspace) (sources : List Path) : Option Bool → Report × Workspace
  | some strict => (onDocuments w.store strict sources, w)
  | none => w.withSettings fun settings w ↦
    (onDocuments w.store settings.strictValidation sources, w)

/-- Run a command, with dice that show what a sequence of numbers makes them show. -/
def run (w : Workspace) (dice : Nat → Nat) : Command → Report × Workspace
  | .starter target => w.runStarter target
  | .preview source text options => w.runPreview dice source text options
  | .dependencies source => (onSystem w.store source onDependencies, w)
  | .importLegacy source target => w.runImport source target
  | .configure changes => w.runConfigure changes
  | .exportSchemas target names => w.runExport target names
  | .validate sources strict => w.runValidate sources strict

end Workspace

/-- Run what arguments ask a program for. Arguments that are no command leave everything alone. -/
def Program.run (p : Program) (w : Workspace) (dice : Nat → Nat) (arguments : List String) :
    Except UsageError Report × Workspace :=
  match p.read arguments with
  | .error e => (.error e, w)
  | .ok command =>
    let (report, w) := w.run dice command
    (.ok report, w)

/-- The status that a program exits with. -/
def exitStatus : Except UsageError Report → Nat
  | .error _ => 2
  | .ok report => report.ending.status

end CharacterSheet
