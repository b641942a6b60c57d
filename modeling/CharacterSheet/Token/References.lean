import CharacterSheet.Token.Lexer

/-!
# The stat references of a text

References stand in a text itself or in the body of one of its expressions. The ids whose
values a text asks for are what a formula depends on.
-/

namespace CharacterSheet

/-- The stat references among tokens. -/
def statReferencesOf (ts : List Token) : List Reference := ts.filterMap Token.statReference?

/-- The stat references that a token stands for: itself, or those in its body. -/
def Token.statReferences : Token → Except NumeralError (List Reference)
  | .reference r => .ok (statReferencesOf [.reference r])
  | .expression _ body => (tokens body).map statReferencesOf

/-- The stat references of a text outside of expressions, in order. -/
def outerStatReferences (text : String) : Except NumeralError (List Reference) :=
  (tokens text).map statReferencesOf

/-- The stat references of a text and of the bodies of its expressions, in order. -/
def statReferences (text : String) : Except NumeralError (List Reference) := do
  let parts ← (← tokens text).mapM Token.statReferences
  return parts.flatten

/-- The ids of the stats whose values a text asks for, in order of first occurrence. -/
def statValueIds (text : String) : Except NumeralError (List Nat) :=
  (statReferences text).map fun rs ↦
    (rs.filterMap fun r ↦ if r.property = .value then some r.id else none).eraseDups

end CharacterSheet
