import CharacterSheet.Number.Numeral

/-!
# Tokens

A text may refer to the stats and sections of a sheet, as in `<stat:3:name>`, and may hold
arithmetic and dice expressions, as in `<math:2 * <stat:3:value>>` and `<dice:2d6+1>`.
-/

namespace CharacterSheet

/-- What a reference points to. -/
inductive Subject where
  | stat
  | sheetSection
  deriving Repr, DecidableEq

/-- The word that opens a reference. -/
def Subject.word : Subject → String
  | .stat => "stat"
  | .sheetSection => "section"

/-- What a reference asks for. -/
inductive Property where
  | name
  | value
  | emoji
  deriving Repr, DecidableEq

/-- The word that closes a reference. -/
def Property.word : Property → String
  | .name => "name"
  | .value => "value"
  | .emoji => "emoji"

/-- A property of a stat or a section, which is given by its id. -/
structure Reference where
  subject : Subject
  id : Nat
  property : Property
  deriving Repr, DecidableEq

/-- The written form of a reference. -/
def Reference.render (r : Reference) : String :=
  "<" ++ r.subject.word ++ ":" ++ toString r.id ++ ":" ++ r.property.word ++ ">"

/-- The two kinds of expressions. -/
inductive ExpressionKind where
  | math
  | dice
  deriving Repr, DecidableEq

/-- The word that opens an expression. -/
def ExpressionKind.word : ExpressionKind → String
  | .math => "math"
  | .dice => "dice"

/-- A reference or an expression. -/
inductive Token where
  | reference (r : Reference)
  | expression (kind : ExpressionKind) (body : String)
  deriving Repr, DecidableEq

/-- The written form of a token. -/
def Token.render : Token → String
  | .reference r => r.render
  | .expression kind body => "<" ++ kind.word ++ ":" ++ body ++ ">"

/-- The stat reference that a token is, if it is one. -/
def Token.statReference? : Token → Option Reference
  | .reference r => if r.subject = .stat then some r else none
  | .expression .. => none

end CharacterSheet
