import CharacterSheet.Text.Lowercase
import CharacterSheet.Text.Pieces

/-!
# Paths of files

A path is a row of names. Empty names and single dots do not count, so the text of a path may
be shorter than the text it was read from.
-/

namespace CharacterSheet

/-- A path from the current directory, or from the root when it is absolute. -/
structure Path where
  isAbsolute : Bool := false
  parts : List String
  deriving Repr, DecidableEq

namespace Path

/-- The path that a text spells. -/
def ofText (s : String) : Path where
  isAbsolute := s.toList.head? == some '/'
  parts := ((Text.cutAt '/' s.toList).map String.ofList).filter fun part ↦
    !part.isEmpty && part != "."

/-- The text of a path. -/
def text (p : Path) : String :=
  let row := "/".intercalate p.parts
  if p.isAbsolute then "/" ++ row else if p.parts.isEmpty then "." else row

/-- The last name of a path. -/
def name (p : Path) : String := p.parts.getLast?.getD ""

/-- The path without its last name. -/
def parent (p : Path) : Path := { p with parts := p.parts.dropLast }

/-- The path of something below a path. -/
def below (p : Path) (parts : List String) : Path := { p with parts := p.parts ++ parts }

/-- The ending of a name: its last dot and what follows, unless the dot is the first or the last
character. -/
def nameEnding (name : String) : String :=
  let backwards := name.toList.reverse
  let word := backwards.takeWhile (· != '.')
  match backwards.dropWhile (· != '.') with
  | _ :: _ :: _ => if word.isEmpty then "" else String.ofList ('.' :: word.reverse)
  | _ => ""

/-- The ending of a path in small letters. -/
def ending (p : Path) : String := Text.lower (nameEnding p.name)

/-- Whether a path comes before another or is the same, name by name. -/
def isBefore (p q : Path) : Bool := !decide (q.parts < p.parts)

end Path
end CharacterSheet
