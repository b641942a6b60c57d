import CharacterSheet.Editing.Place
import CharacterSheet.Formula.Cycle
import CharacterSheet.Schema.Document

/-!
# Editing schemas

Every edit takes a schema and gives a new one, or is refused. A formula is set only when it
leads to no cycle.
-/

namespace CharacterSheet

/-- Why an edit is refused. -/
inductive EditError where
  | unknownStat (id : Int)
  | notCalculated (id : Int) (kind : StatKind)
  | circular (id : Int) (path : List Int)
  /-- There is no item to look at. -/
  | noSuchItem
  /-- There is no item to put in or to take out. -/
  | noSuchPlace
  | unknownKind (word : String)
  | numeral (error : NumeralError)
  deriving Repr, DecidableEq

/-- The wording of a refusal. -/
def EditError.message : EditError → String
  | .unknownStat id => "stat " ++ toString id ++ " does not exist"
  | .notCalculated id kind =>
    "stat " ++ toString id ++ " is " ++ kind.word ++ ", only calculated stats have a formula"
  | .circular id path =>
    "formula of stat " ++ toString id ++ " would create a circular dependency (" ++
      " -> ".intercalate (path.map toString) ++ ")"
  | .noSuchItem => "list index out of range"
  | .noSuchPlace => "list assignment index out of range"
  | .unknownKind word => "unknown stat type: " ++ word
  | .numeral error => error.message

/-- A refusal that is put into words, in which some integers are written. -/
def EditError.worded (written : List Int) (refusal : EditError) : EditError :=
  if written.all Numeral.isWritable then refusal else .numeral .tooLargeToWrite

/-- A text that is the same for every locale. -/
def Localization.ofText (text : String) : Localization := { default := text }

/-- The schema that a new author starts from. -/
def GameSystem.starter : GameSystem where
  config := {
    id := some 1
    name := .ofText "My System"
    description := .ofText "Short description of the system." }
  stats := [
    { id := 1, name := .ofText "Strength",
      detail := .numeric (some (.int 0)) (some (.int 10)) {} },
    { id := 2, name := .ofText "Trained in Stealth", detail := .boolean {} },
    { id := 3, name := .ofText "Class", detail := .enumeration (.own []) {} }]
  sections := [
    { id := 1, name := .ofText "Summary", quickEdit := true, viewPages := [1],
      preview := ⟨some .text, .ofText "A **short** summary of the character."⟩ },
    { id := 2, name := .ofText "Attributes", quickEdit := true, viewPages := [1, 2],
      preview := ⟨some .text, .ofText "Attribute list..."⟩ }]
  integrations := some {}

/-- The id for a new item: one more than the greatest, or one. -/
def nextId (ids : List Int) : Int := ids.max?.getD 0 + 1

/-- What belongs to the kind of a new stat. -/
def StatKind.newDetail : StatKind → StatDetail
  | .numeric => .numeric (some (.int 0)) (some (.int 10)) {}
  | .enumeration => .enumeration (.own []) {}
  | .boolean => .boolean {}
  | .text => .text (some 0) (some 200)
  | .calculated => .calculated "" {}

/-- A new stat. -/
def Stat.new (kind : StatKind) (id : Int) : Stat :=
  { id, name := .ofText "New Stat", detail := kind.newDetail }

/-- A new stat of the kind with a word. -/
def Stat.ofWord (word : String) (id : Int) : Except EditError Stat :=
  match StatKind.ofWord? word with
  | some kind => .ok (.new kind id)
  | none => .error (.unknownKind word)

/-- A new section. -/
def SheetSection.new (id : Int) : SheetSection :=
  { id, name := .ofText "New Section", preview := ⟨some .text, {}⟩ }

/-- A localized text as a document shows it, without the variants that are null. -/
def Localization.written (l : Localization) : Localization :=
  { l with variants := Extent.brief.kept l.variants }

/-- A stat whose texts are as a document shows them. -/
def Stat.written (s : Stat) : Stat :=
  { s with
    name := s.name.written
    detail := match s.detail with
      | .enumeration (.own options) rolls =>
        .enumeration (.own (options.map fun o ↦ { o with name := o.name.written })) rolls
      | detail => detail }

/-- A copy of a stat under another id and with a name that says so. -/
def Stat.copyAs (s : Stat) (id : Int) : Stat :=
  let copy := s.written
  let name := if s.name.default.isEmpty then "Stat" else s.name.default
  { copy with id, name := { copy.name with default := name ++ " (Copy)" } }

/-- A calculated stat with another formula; any other stat as it is. -/
def Stat.withFormula (s : Stat) (formula : String) : Stat :=
  match s.detail with
  | .calculated _ rolls => { s with detail := .calculated formula rolls }
  | _ => s

namespace GameSystem

/-- A schema with a new stat at the end. -/
def addStat (s : GameSystem) (kind : StatKind) : GameSystem :=
  { s with stats := s.stats ++ [.new kind (nextId (s.stats.map (·.id)))] }

/-- A schema with a new stat of the kind with a word at the end. -/
def addStatOf (s : GameSystem) (word : String) : Except EditError GameSystem :=
  match StatKind.ofWord? word with
  | some kind => .ok (s.addStat kind)
  | none => .error (.unknownKind word)

/-- A schema with another stat at an index. -/
def replaceStat (s : GameSystem) (index : Int) (stat : Stat) : Except EditError GameSystem :=
  match placeOf? s.stats.length index with
  | some i => .ok { s with stats := s.stats.set i stat }
  | none => .error .noSuchPlace

/-- A schema without the stat at an index. -/
def removeStat (s : GameSystem) (index : Int) : Except EditError GameSystem :=
  match placeOf? s.stats.length index with
  | some i => .ok { s with stats := s.stats.eraseIdx i }
  | none => .error .noSuchPlace

/-- A schema with a copy of the stat at an index behind it. -/
def duplicateStat (s : GameSystem) (index : Int) : Except EditError GameSystem :=
  match (placeOf? s.stats.length index).bind (s.stats[·]?) with
  | some stat =>
    let copy := stat.copyAs (nextId (s.stats.map (·.id)))
    .ok { s with stats := s.stats.insertIdx (placeBehind s.stats.length index) copy }
  | none => .error .noSuchItem

/-- A schema in which the stat at an index changes places with the one some steps further. -/
def moveStat (s : GameSystem) (index steps : Int) : GameSystem :=
  { s with stats := moveItem index steps s.stats }

/-- Refuse a formula that leads from a stat to a cycle. -/
def checkFormula (s : GameSystem) (id : Int) (formula : String) : Except EditError Unit :=
  match findCycle s.stats id formula with
  | .error e => .error (.numeral e)
  | .ok none => .ok ()
  | .ok (some path) => .error (EditError.worded (id :: path) (.circular id path))

/-- A schema in which the first stat with an id has another formula. -/
def setFormula (s : GameSystem) (id : Int) (formula : String) : Except EditError GameSystem :=
  match s.stats.findIdx? (·.id == id) with
  | none => .error (.unknownStat id)
  | some i =>
    match s.stats[i]? with
    | none => .error (.unknownStat id)
    | some stat =>
      if stat.isCalculated then
        (s.checkFormula id formula).map fun _ ↦
          { s with stats := s.stats.set i (stat.withFormula formula) }
      else .error (EditError.worded [id] (.notCalculated id stat.kind))

/-- Whether the value of a stat may be put into the formula of the stat with an id. -/
def isAvailable (s : GameSystem) (id : Int) (formula : String) (other : Stat) :
    Except NumeralError Bool :=
  if other.id = id || other.isText then .ok false
  else if other.isCalculated then do
    let written ← Numeral.writeInteger other.id
    let cycle ← findCycle s.stats id (formula ++ " + <stat:" ++ written ++ ":value>")
    return cycle.isNone
  else .ok true

/-- The stats whose values may be put into the formula of the stat with an id. -/
def availableStats (s : GameSystem) (id : Int) : Except NumeralError (List Stat) :=
  s.stats.filterM (s.isAvailable id ((storedFormula? s.stats id).getD ""))

/-- A schema with a new section at the end. -/
def addSection (s : GameSystem) : GameSystem :=
  { s with sections := s.sections ++ [.new (nextId (s.sections.map (·.id)))] }

/-- A schema with another section at an index. -/
def replaceSection (s : GameSystem) (index : Int) (other : SheetSection) :
    Except EditError GameSystem :=
  match placeOf? s.sections.length index with
  | some i => .ok { s with sections := s.sections.set i other }
  | none => .error .noSuchPlace

/-- A schema without the section at an index. -/
def removeSection (s : GameSystem) (index : Int) : Except EditError GameSystem :=
  match placeOf? s.sections.length index with
  | some i => .ok { s with sections := s.sections.eraseIdx i }
  | none => .error .noSuchPlace

/-- A schema in which the section at an index changes places with the one some steps further. -/
def moveSection (s : GameSystem) (index steps : Int) : GameSystem :=
  { s with sections := moveItem index steps s.sections }

end GameSystem
end CharacterSheet
