import CharacterSheet.Schema
import CharacterSheet.Text.Literal
import CharacterSheet.Text.Lowercase
import CharacterSheet.Token.References

/-!
# Stats that dice read, and stats that may stand in for them

The dice of a stat read the stats whose values their expressions and conditions ask for. A
replacement names one of these, and stats that hold a value to stand in for it.
-/

namespace CharacterSheet

/-- The texts of dice in which references are looked for. -/
def Dice.texts (d : Dice) : List String :=
  d.expression ::
    match d.condition with
    | some c => [c.left, c.right]
    | none => []

/-- The ids of the stats that dice read, in order of first occurrence. -/
def idsUsedBy (dice : List Dice) : Except NumeralError (List Int) :=
  ((dice.flatMap Dice.texts).mapM statValueIds).map fun ids ↦
    (ids.flatten.map Int.ofNat).eraseDups

/-- The stats that may stand in for others. -/
def replacementOptions (stats : List Stat) : List Stat := stats.filter (·.kind.holdsValue)

/-- The stats that a replacement of a stat may name. -/
def Stat.replacementKeys (s : Stat) (stats : List Stat) : Except NumeralError (List Stat) :=
  (idsUsedBy s.dice).map fun used ↦ (replacementOptions stats).filter fun t ↦ used.contains t.id

/-- Whether a text holds another, given in lower case, regardless of case. -/
def holdsTerm (term text : String) : Bool :=
  Text.occursIn term.toList (Text.lower text).toList

/-- The stats that may stand in for others and have a text in their name, their kind or their
id, regardless of case. -/
def searchReplacementOptions (stats : List Stat) (query : String) : List Stat :=
  let term := Text.lower (Text.trimmed query)
  (replacementOptions stats).filter fun s ↦
    holdsTerm term s.name.default || Text.occursIn term.toList s.kind.word.toList ||
      Text.occursIn term.toList (toString s.id).toList

end CharacterSheet
