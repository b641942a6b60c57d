import CharacterSheet.DiceChoice
import CharacterSheet.Preview.Wording
import CharacterSheet.Sample
import CharacterSheet.Token.Lexer

/-!
# Previews

A preview is a text in which every token is replaced by something typical. Each token is
replaced on its own, and what goes wrong with one shows in its own place only. A preview fails
altogether only when an id has too many digits to be read, or an integer that is shown for a stat,
in a value or as part of a name, too many to be written.
-/

namespace CharacterSheet

/-- What previews are made from. -/
structure Preview (m : Type → Type) where
  system : GameSystem
  /-- The locale whose names are shown. -/
  locale : String
  language : Language
  evaluate : Evaluator m
  roll : Roller m

/-- A condition as previews show it: its two findings and whether it holds, or its two
expressions and what went wrong. -/
structure ConditionPreview where
  left : String
  comparison : Comparison
  right : String
  result : Option Bool
  error : Option String
  deriving Repr, DecidableEq

/-- A text, or another in place of an empty one. -/
def orElse (text other : String) : String := if text.isEmpty then other else text

namespace Preview
variable {m : Type → Type}

/-- What previews say. -/
def wording (p : Preview m) : Wording := p.language.wording

/-- A name in the locale, or another text in place of an empty one. -/
def nameText (p : Preview m) (name : Localization) (other : String) :
    Except NumeralError String :=
  (name.get p.locale).map (orElse · other)

/-- The value that a text shows for a stat. -/
def shownValue (p : Preview m) (s : Stat) : Except NumeralError String :=
  match s.detail with
  | .numeric min _ _ => (min.getD (.int 1)).plainText
  | .text .. => .ok "string"
  | .boolean _ => .ok "false"
  | .calculated .. => .ok p.wording.calculated
  | .enumeration source _ =>
    match resolveOptions p.system.stats source, source with
    | some (o :: _), _ => p.nameText o.name p.wording.unnamedOption
    | _, .own _ => .ok "enum"
    | _, .sharedWith id =>
      if 0 < id then (Numeral.writeInteger id).map fun digits ↦ "[ref: " ++ digits ++ "]"
      else .ok "enum"

/-- A property of a stat. -/
def statProperty (p : Preview m) (id : Int) (word : String) : Except NumeralError String :=
  match findStat p.system.stats id with
  | none => .ok (p.wording.statNotFound id)
  | some s =>
    if word = "name" then p.nameText s.name (p.wording.unnamedStat id)
    else if word = "emoji" then .ok (s.emoji.getD "")
    else if word = "value" then p.shownValue s
    else .ok (p.wording.unknownProperty word)

/-- A property of a section. Sections have no value. -/
def sectionProperty (p : Preview m) (id : Int) (word : String) : Except NumeralError String :=
  match findSection p.system.sections id with
  | none => .ok (p.wording.sectionNotFound id)
  | some s =>
    if word = "name" then p.nameText s.name (p.wording.unnamedSection id)
    else if word = "emoji" then .ok (s.emoji.getD "")
    else .ok (p.wording.unknownProperty word)

/-- A property, given by its word, of a stat or a section. -/
def property (p : Preview m) (subject : Subject) (id : Int) (word : String) :
    Except NumeralError String :=
  match subject with
  | .stat => p.statProperty id word
  | .sheetSection => p.sectionProperty id word

/-- What a reference stands for. -/
def reference (p : Preview m) (r : Reference) : Except NumeralError String :=
  p.property r.subject r.id r.property.word

/-- The body of an expression as it is handed on: samples in place of the values of stats, then
shown texts in place of all references. -/
def payload (p : Preview m) (use : SampleUse) (body : String) : Except NumeralError String := do
  let numeric ← substituteStatValues (fun id ↦ sampleValue p.system.stats use id) body
  substituteReferences p.reference numeric

variable [Monad m]

/-- The value of an arithmetic expression, or a note that it has none. -/
def math (p : Preview m) (body : String) : ExceptT NumeralError m String := do
  let expression ← liftExcept (p.payload .math body)
  let found ← ExceptT.lift (p.evaluate expression).run
  match found with
  | .error _ => return p.wording.mathError body
  | .ok finding =>
    match finding.text with
    | .ok text => return text
    | .error _ => return p.wording.mathError body

/-- The outcome of a roll, or a note that it failed. -/
def dice (p : Preview m) (body : String) : ExceptT NumeralError m String := do
  let expression ← liftExcept (p.payload .dice body)
  match ← ExceptT.lift (p.roll expression).run with
  | .ok text => return "🎲 " ++ text
  | .error message => return p.wording.diceError (orElse message body)

/-- What takes the place of a token. -/
def token (p : Preview m) : Token → ExceptT NumeralError m String
  | .reference r => liftExcept (p.reference r)
  | .expression .math body => p.math body
  | .expression .dice body => p.dice body

/-- What takes the place of a segment. -/
def segment (p : Preview m) : Segment → ExceptT NumeralError m String
  | .literal text => return text
  | .token t _ => p.token t

/-- The preview of a text. A text without tokens stays as it is, and of any other the tokens
before an id that is too long are still worked out. -/
def render (p : Preview m) (text : String) : ExceptT NumeralError m String := do
  if ← liftExcept (containsToken text) then
    let found := scan text
    let parts ← found.segments.mapM p.segment
    match found.failure with
    | some e => throw e
    | none => return String.join parts
  else return text

/-- The preview of the condition of dice, if they have one. -/
def condition (p : Preview m) (d : Dice) : ExceptT NumeralError m (Option ConditionPreview) := do
  match d.condition with
  | none => return none
  | some c =>
    let sample (use : SampleUse) (id : Nat) : Except NumeralError String :=
      sampleValue p.system.stats use id
    let left ← liftExcept (substituteStatValues (sample .dice) c.left)
    let right ← liftExcept (substituteStatValues (sample .conditionRight) c.right)
    let findings ← ExceptT.lift (do
      let first ← p.evaluate left
      return (first, ← p.evaluate right) : ExceptT EvaluationFailure m (Finding × Finding)).run
    match findings with
    | .error e => return some ⟨left, c.comparison, right, none, some e.message⟩
    | .ok (l, r) =>
      return some ⟨← liftExcept l.text, c.comparison, ← liftExcept r.text,
        some (Number.compare c.comparison l.value r.value), none⟩

/-- The roll of the dice of a stat that apply to the samples; nothing when none do. -/
def statRoll (p : Preview m) (s : Stat) : ExceptT EvaluationFailure m (Option String) := do
  match ← chooseDice p.evaluate (fun id ↦ sampleValue p.system.stats .dice id) s.dice with
  | none => return none
  | some (_, d) => return some (← (p.dice d.expression).adapt .numeral)

/-- The roll of attributes; nothing when there is none. -/
def attributeRoll (p : Preview m) : ExceptT NumeralError m (Option String) := do
  match p.system.integrations.bind (·.attributeRoll) with
  | none => return none
  | some body => if body.isEmpty then return none else return some (← p.dice body)

/-- The roll of the stat that initiative is rolled with; nothing when there is none. -/
def initiativeRoll (p : Preview m) : ExceptT EvaluationFailure m (Option String) := do
  match p.system.integrations.bind (·.initiative) with
  | none => return none
  | some i =>
    match i.stat? with
    | .error e => throw (.numeral e)
    | .ok id =>
      match id.bind (findStat p.system.stats) with
      | none => return none
      | some s => p.statRoll s

end Preview
end CharacterSheet
