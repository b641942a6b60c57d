import CharacterSheet.DiceUse
import CharacterSheet.Evaluation
import CharacterSheet.Formula.Cycle
import CharacterSheet.Sample
import CharacterSheet.Token.Substitution
import CharacterSheet.Validation.Draft
import CharacterSheet.Validation.Issue

/-!
# Validation of schemas

Validation lists the issues of a draft in a fixed order: the head, then the stats and the
sections in the order of their lists, then the settings for other programs. Strict validation
also looks into dice, replacements, references to other stats and sections, and the form of
formulas. Issues are worded when they are found: validation fails only when an integer has more
digits than are read or written.
-/

namespace CharacterSheet
namespace Validation

/-- A list of issues, unless an integer has too many digits. -/
abbrev Findings := Except NumeralError (List Issue)

/-- Issues that are put into words. -/
def worded (issues : List Issue) : Findings :=
  if issues.all Issue.isWritable then .ok issues else .error .tooLargeToWrite

/-- An issue when a condition holds. -/
def issueIf (condition : Bool) (path : String) (cause : IssueCause) : List Issue :=
  if condition then [⟨path, cause⟩] else []

/-- The path of an item of a collection. -/
def itemPath (collection : String) (i : Nat) : String :=
  collection ++ "[" ++ toString i ++ "]"

/-- The issue of an id that is among the ids before it. -/
def duplicateIssues (collection : String) (before : List (Option Int)) (id : Option Int) :
    List Issue :=
  match id with
  | none => []
  | some n =>
    match before.idxOf? (some n) with
    | some first =>
      [⟨itemPath collection before.length ++ ".id",
        .duplicateId collection n first before.length⟩]
    | none => []

/-- The issues of the head. -/
def headIssues : Option DraftHead → List Issue
  | none => [⟨"config", .required "config"⟩]
  | some head =>
    issueIf (!head.hasId) "config.id" (.required "config.id") ++
      issueIf (!head.hasName) "config.name.default" (.required "config.name.default")

/-- The issue of a reference to the value of a stat. -/
def valueIssues (stats : List Stat) (path what : String) (id : Int) : List Issue :=
  match findStat stats id with
  | none => [⟨path, .missingStat what id⟩]
  | some s => issueIf s.isText path (.textStat what id)

/-- The issues of the stats whose values a text asks for. -/
def textIssues (stats : List Stat) (path what text : String) : Findings :=
  (statValueIds text).map fun ids ↦ ids.flatMap fun id ↦ valueIssues stats path what (Int.ofNat id)

/-- The issues of the bounds of a numeric stat. -/
def boundIssues (path : String) (min max : Option Number) : List Issue :=
  match min, max with
  | some low, some high => issueIf (Number.compare .gt low high) path (.bounds low high)
  | _, _ => []

/-- The issues of an option, which has an index and comes behind others. -/
def optionIssues (path : String) (before : List EnumOption) (o : EnumOption) : List Issue :=
  let place := path ++ ".options[" ++ toString before.length ++ "]"
  issueIf (before.any (·.value == o.value)) (place ++ ".value") (.duplicateOption o.value) ++
    issueIf o.name.default.isEmpty (place ++ ".name.default") (.required "option name.default")

/-- The issues of items, each of which is looked at together with those before it. -/
def eachWithPrevious {α β : Type} (f : List α → α → List β) (before : List α) :
    List α → List β
  | [] => []
  | a :: rest => f before a ++ eachWithPrevious f (before ++ [a]) rest

/-- The issues of the options of an enumeration. -/
def sourceIssues (stats : List Stat) (strict : Bool) (path : String) :
    OptionSource → List Issue
  | .own options =>
    issueIf (options.length > maxOptions) (path ++ ".options") (.tooManyOptions options.length) ++
      eachWithPrevious (optionIssues path) [] options
  | .sharedWith id =>
    if !strict then []
    else
      match findStat stats id with
      | none => [⟨path ++ ".options", .missingSource id⟩]
      | some s => issueIf s.ownOptions?.isNone (path ++ ".options") (.sourceWithoutOptions id)

/-- The issue of the form of a formula, with samples in the place of values. -/
def formIssues (stats : List Stat) (path formula : String) : Findings :=
  (substituteStatValues (fun id ↦ sampleValue stats .math id) formula).map fun expression ↦
    match Arithmetic.checkForm expression with
    | some error => [⟨path, .malformedFormula expression error⟩]
    | none => []

/-- The issues of a formula. -/
def formulaIssues (stats : List Stat) (strict : Bool) (path : String) (id : Int)
    (formula : String) (checker : CycleChecker) :
    Except NumeralError (List Issue × CycleChecker) := do
  let place := path ++ ".formula"
  if formula.isEmpty then return ([⟨place, .required "formula"⟩], checker)
  let (answer, checker) := checker.find id formula
  let cycles ← worded ((← answer).map fun p ↦ ⟨place, .cycle p⟩).toList
  let references ← textIssues stats place "formula" formula
  let form ← if strict then formIssues stats place formula else pure []
  return (cycles ++ references ++ form, checker)

/-- The issues of what belongs to the kind of a stat. -/
def detailIssues (stats : List Stat) (strict : Bool) (path : String) (s : Stat)
    (checker : CycleChecker) : Except NumeralError (List Issue × CycleChecker) :=
  match s.detail with
  | .numeric min max _ => (worded (boundIssues path min max)).map (·, checker)
  | .enumeration source _ => (worded (sourceIssues stats strict path source)).map (·, checker)
  | .calculated formula _ => formulaIssues stats strict path s.id formula checker
  | .boolean _ | .text .. => .ok ([], checker)

/-- The issues of dice. -/
def diceIssues (stats : List Stat) (path : String) (d : Dice) : Findings := do
  let expression ← textIssues stats (path ++ ".expression") "dice" d.expression
  match d.condition with
  | none => return expression
  | some c =>
    let left ← textIssues stats (path ++ ".condition.value1") "condition" c.left
    let right ← textIssues stats (path ++ ".condition.value2") "condition" c.right
    return expression ++ left ++ right

/-- The issue of a stat that is to stand in for another. -/
def replacementOptionIssues (stats : List Stat) (path : String) (id : Int) : List Issue :=
  match findStat stats id with
  | none => [⟨path, .missingReplacement id⟩]
  | some s => issueIf s.isText path (.textReplacement id)

/-- The issues of a replacement, given the stats that the dice read. -/
def replacementIssues (stats : List Stat) (path : String) (stat : Int) (used : List Int)
    (r : Replacement) : List Issue :=
  issueIf (!used.contains r.key) (path ++ ".key") (.unusedKey r.key stat used) ++
    (r.options.mapIdx fun j id ↦
      replacementOptionIssues stats (path ++ ".options[" ++ toString j ++ "]") id).flatten

/-- The issues of the replacements of a stat. -/
def replacementsIssues (stats : List Stat) (path : String) (s : Stat) : Findings :=
  if s.replacements.isEmpty then .ok []
  else
    (idsUsedBy s.dice).bind fun used ↦ worded
      (s.replacements.mapIdx fun i r ↦
        replacementIssues stats (path ++ ".replacements[" ++ toString i ++ "]") s.id used r).flatten

/-- The issues of references to sections. -/
def pageIssues (sections : List Int) (path what : String) (pages : List Int) : Findings :=
  worded (pages.flatMap fun id ↦ issueIf (!sections.contains id) path (.missingSection what id))

/-- The issues of a stat that only strict validation looks for. -/
def strictStatIssues (stats : List Stat) (sections : List Int) (path : String) (s : Stat) :
    Findings := do
  let dice ← (s.dice.mapIdx fun k d ↦ (k, d)).mapM fun (k, d) ↦
    diceIssues stats (path ++ ".dices[" ++ toString k ++ "]") d
  let replacements ← replacementsIssues stats path s
  let pages ← pageIssues sections (path ++ ".edit_page") "edit_page" (s.editPages.getD [])
  return dice.flatten ++ replacements ++ pages

/-- The issues of a stat. -/
def statIssues (d : Draft) (strict : Bool) (path : String) (s : Stat) (checker : CycleChecker) :
    Except NumeralError (List Issue × CycleChecker) := do
  let name := issueIf s.name.default.isEmpty (path ++ ".name.default") (.required "name.default")
  let (detail, checker) ← detailIssues d.readStats strict path s checker
  let more ← if strict then strictStatIssues d.readStats d.sectionIds path s else pure []
  return (name ++ detail ++ more, checker)

/-- The issue of a reference in the text of a section. -/
def previewIssues (stats : List Stat) (sections : List Int) (path : String) :
    Token → List Issue
  | .reference r =>
    match r.subject with
    | .stat => issueIf (findStat stats r.id).isNone path (.missingStat "preview" r.id)
    | .sheetSection => issueIf (!sections.contains r.id) path (.missingSection "preview" r.id)
  | .expression .. => []

/-- The issues of a section that only strict validation looks for. -/
def strictSectionIssues (stats : List Stat) (sections : List Int) (path : String)
    (s : SheetSection) : Findings := do
  let pages ← pageIssues sections (path ++ ".view_pages") "view_pages" s.viewPages
  let content := s.preview.content
  let translations ← content.translations
  let texts ← (("default", content.default) :: translations).mapM fun (locale, text) ↦
    (tokens text).map (·.flatMap
      (previewIssues stats sections (path ++ ".preview.content." ++ locale)))
  return pages ++ texts.flatten

/-- The issues of a section. -/
def sectionIssues (d : Draft) (strict : Bool) (path : String) (s : SheetSection) : Findings := do
  let plain :=
    issueIf s.name.default.isEmpty (path ++ ".name.default") (.required "name.default") ++
      issueIf s.preview.kind.isNone (path ++ ".preview.type") (.required "preview.type")
  let more ← if strict then strictSectionIssues d.readStats d.sectionIds path s else pure []
  return plain ++ more

/-- The issues that an entry has before its item is looked at. -/
def entryIssues {α : Type} (collection : String) (before : List (Option Int)) (e : Entry α) :
    List Issue :=
  e.faults.map (Issue.ofFault (itemPath collection before.length)) ++
    duplicateIssues collection before e.id

/-- The issues of stats that come behind others. -/
def allStatIssues (d : Draft) (strict : Bool) (before : List (Option Int))
    (checker : CycleChecker) : List (Entry Stat) → Findings
  | [] => .ok []
  | e :: rest => do
    let entry ← worded (entryIssues "stats" before e)
    let (own, checker) ←
      match e.item with
      | some s => statIssues d strict (itemPath "stats" before.length) s checker
      | none => pure ([], checker)
    let others ← allStatIssues d strict (before ++ [e.id]) checker rest
    return entry ++ own ++ others

/-- The issues of sections that come behind others. -/
def allSectionIssues (d : Draft) (strict : Bool) (before : List (Option Int)) :
    List (Entry SheetSection) → Findings
  | [] => .ok []
  | e :: rest => do
    let entry ← worded (entryIssues "sections" before e)
    let own ←
      match e.item with
      | some s => sectionIssues d strict (itemPath "sections" before.length) s
      | none => pure []
    let others ← allSectionIssues d strict (before ++ [e.id]) rest
    return entry ++ own ++ others

/-- The issue of the stat for initiative. An empty text names none and is no issue. -/
def initiativeIssues (stats : List Stat) (i : Initiative) : Findings :=
  match i.id with
  | none | some (.text "") => .ok []
  | some id =>
    i.stat?.bind fun named ↦ worded
      (issueIf ((named.bind (findStat stats)).isNone) "integrations.iniciative.id"
        (.missingInitiative id))

/-- The issues of the stats that an integration may change. -/
def authorizedIssues (stats : List Stat) (path : String) (s : IntegrationSchema) : Findings :=
  worded (s.authorizedStats.mapIdx fun j id ↦
    issueIf (findStat stats id).isNone (path ++ ".authorized_status_ids[" ++ toString j ++ "]")
      (.missingAuthorized id)).flatten

/-- The issues of the settings for other programs that only strict validation looks for. -/
def strictIntegrationIssues (stats : List Stat) (i : Integrations) : Findings := do
  let roll ← textIssues stats "integrations.atributes_roll" "attribute roll"
    (i.attributeRoll.getD "")
  let initiative ← match i.initiative with
    | some initiative => initiativeIssues stats initiative
    | none => pure []
  let authorized ← (i.schemas.mapIdx fun k s ↦ (k, s)).mapM fun (k, s) ↦
    authorizedIssues stats (itemPath "integrations.schemas" k) s
  return roll ++ initiative ++ authorized.flatten

/-- The issues of the settings for other programs. -/
def integrationIssues (stats : List Stat) (strict : Bool) :
    Checked (Option Integrations) → Findings
  | .bad faults => .ok (faults.map (Issue.ofFault "integrations"))
  | .ok none => .ok []
  | .ok (some i) => if strict then strictIntegrationIssues stats i else .ok []

/-- The issues of a draft. -/
def draftIssues (d : Draft) (strict : Bool) : Findings := do
  let stats ← allStatIssues d strict [] ⟨d.readStats, [], []⟩ (d.stats.getD [])
  let sections ← allSectionIssues d strict [] (d.sections.getD [])
  let integrations ← integrationIssues d.readStats strict d.integrations
  return headIssues d.head ++
    issueIf d.stats.isNone "stats" (.notAList "stats") ++
    issueIf d.sections.isNone "sections" (.notAList "sections") ++
    stats ++ sections ++ integrations

end Validation

/-- The issues of a schema. -/
def GameSystem.issues (s : GameSystem) (strict : Bool) : Except NumeralError (List Issue) :=
  Validation.draftIssues (.ofSystem s) strict

/-- The issues of a document. -/
def Json.schemaIssues (v : Json) (strict : Bool) : Except NumeralError (List Issue) :=
  match Draft.read v with
  | some d => Validation.draftIssues d strict
  | none => .ok [⟨"", .notAnObject⟩]

end CharacterSheet
