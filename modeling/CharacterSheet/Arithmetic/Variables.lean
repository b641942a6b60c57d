import CharacterSheet.Arithmetic.Program
import CharacterSheet.Json

/-!
# Variables of documents

The variables of an expression may be given as the fields of an object. Every list in a document
gets a place of its own.
-/

namespace CharacterSheet.Arithmetic

mutual

/-- The value that a document value stands for, with its lists added. -/
def Value.ofJson : Json → StateM Lists Value
  | .null => return .null
  | .bool b => return .truth b
  | .number (.int n) => return .int n
  | .number (.float x) => return if x.isNaN then .unordered else .float x
  | .string s => return .text s
  | .unpaired ps => return .text (Text.shownText ps)
  | .array items => do
    let vs ← valuesOfItems items
    modifyGet (·.add vs)
  | .object fields => return .object (← valuesOfFields fields)
  | .table entries => return .object (← valuesOfEntries entries)

/-- The values of the items of a list. -/
def valuesOfItems : List Json → StateM Lists (List Value)
  | [] => return []
  | x :: xs => do
    let v ← Value.ofJson x
    return v :: (← valuesOfItems xs)

/-- The values of the fields of an object. -/
def valuesOfFields : List (String × Json) → StateM Lists (List (String × Value))
  | [] => return []
  | (key, x) :: fs => do
    let v ← Value.ofJson x
    return (key, v) :: (← valuesOfFields fs)

/-- The values of entries under texts for their keys. -/
def valuesOfEntries : List (Key × Json) → StateM Lists (List (String × Value))
  | [] => return []
  | (key, x) :: es => do
    let v ← Value.ofJson x
    return (key.display, v) :: (← valuesOfEntries es)

end

/-- The variables that the fields of an object name. -/
def Variables.ofFields (fields : Json.Fields) : Variables :=
  let (known, lists) := (valuesOfFields fields).run {}
  { known, lists }

end CharacterSheet.Arithmetic
