import CharacterSheet.Schema

/-!
# Sample values

Previews have no character at hand, so every stat has a sample value, which depends on what it
is put into: arithmetic, dice, or the right side of a condition, where samples come from the
other end of their range.
-/

namespace CharacterSheet

/-- What samples are put into. -/
inductive SampleUse where
  | math
  | dice
  | conditionRight
  deriving Repr, DecidableEq

/-- The samples for one use. -/
structure SampleProfile where
  missing : String
  text : String
  boolean : String
  calculated : String
  /-- The sample of an enumeration that has too few options. -/
  noOption : String
  /-- The sample of a numeric stat without the bound. -/
  unbounded : Int
  /-- Whether the greatest value is taken, rather than the least. -/
  takesMax : Bool
  /-- Which option is taken. -/
  option : Nat
  deriving Repr, DecidableEq

/-- The samples of a use. -/
def SampleUse.profile : SampleUse → SampleProfile
  | .math => ⟨"0", "0", "0", "0", "1", 1, false, 0⟩
  | .dice => ⟨"3", "3", "1", "3", "2", 3, false, 0⟩
  | .conditionRight => ⟨"3", "5", "0", "5", "1", 5, true, 1⟩

/-- The sample of a stat, unless it has more digits than are written. -/
def Stat.sample (stats : List Stat) (p : SampleProfile) (s : Stat) : Except NumeralError String :=
  match s.detail with
  | .numeric min max _ => ((if p.takesMax then max else min).getD (.int p.unbounded)).plainText
  | .boolean _ => .ok p.boolean
  | .enumeration source _ =>
    match ((resolveOptions stats source).getD [])[p.option]? with
    | some o => Numeral.writeInteger o.value
    | none => .ok p.noOption
  | .calculated .. => .ok p.calculated
  | .text .. => .ok p.text

/-- The sample value of the first stat with an id. -/
def sampleValue (stats : List Stat) (use : SampleUse) (id : Int) : Except NumeralError String :=
  match findStat stats id with
  | some s => s.sample stats use.profile
  | none => .ok use.profile.missing

end CharacterSheet
