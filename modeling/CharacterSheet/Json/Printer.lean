import CharacterSheet.Json
import CharacterSheet.Number.Numeral

/-!
# Writing documents as text

A document is written on one line or with one item a line. Only quotation marks, backslashes
and control characters are escaped; every other code point stands for itself, so the text of a
document with a surrogate that stands alone cannot be encoded.
-/

namespace CharacterSheet.Json
open Text (CodePoint points)

/-- How a document is laid out. -/
inductive Layout where
  /-- Everything on one line, with a blank after commas. -/
  | oneLine
  /-- One item a line, indented by so many blanks a level. -/
  | indented (width : Nat)
  deriving Repr, DecidableEq

/-- The layout for an indentation as settings give it; a negative one indents nothing. -/
def Layout.ofIndent (n : Int) : Layout := .indented n.toNat

namespace Layout

/-- What stands between a bracket and an item of the given depth. -/
def lineBreak (layout : Layout) (depth : Nat) : List CodePoint :=
  match layout with
  | .oneLine => []
  | .indented width => .char '\n' :: List.replicate (width * depth) (.char ' ')

/-- What stands between two items of the given depth. -/
def separator (layout : Layout) (depth : Nat) : List CodePoint :=
  match layout with
  | .oneLine => points ", "
  | .indented _ => .char ',' :: layout.lineBreak depth

/-- Items of the given depth between brackets. -/
def enclose (layout : Layout) (depth : Nat) («open» close : Char)
    (items : List (List CodePoint)) : List CodePoint :=
  if items.isEmpty then [.char «open», .char close]
  else
    .char «open» :: layout.lineBreak (depth + 1) ++
      (layout.separator (depth + 1)).intercalate items ++ layout.lineBreak depth ++ [.char close]

end Layout

/-- A character inside quotation marks. -/
def escapeChar (c : Char) : List Char :=
  if c = '"' then ['\\', '"']
  else if c = '\\' then ['\\', '\\']
  else if c = '\n' then ['\\', 'n']
  else if c = '\r' then ['\\', 'r']
  else if c = '\t' then ['\\', 't']
  else if c = '\x08' then ['\\', 'b']
  else if c = '\x0c' then ['\\', 'f']
  else if c.toNat < 0x20 then '\\' :: 'u' :: Text.hexText 4 c.toNat
  else [c]

/-- A code point inside quotation marks. A surrogate stands for itself. -/
def escapePoint : CodePoint → List CodePoint
  | .char c => (escapeChar c).map .char
  | .surrogate n => [.surrogate n]

/-- A text between quotation marks. -/
def quoted (ps : List CodePoint) : List CodePoint :=
  .char '"' :: ps.flatMap escapePoint ++ [.char '"']

/-- The text of a number in a document. -/
def numberText : Number → String
  | .int n => toString n
  | .float x =>
    match Binary64.decode x with
    | .notANumber => "NaN"
    | .infinite negative => if negative then "-Infinity" else "Infinity"
    | .finite .. => Decimal.text x

mutual

/-- The text of a value that stands at the given depth, by its code points. -/
def write (layout : Layout) (depth : Nat) : Json → List CodePoint
  | .null => points "null"
  | .bool b => points (if b then "true" else "false")
  | .number n => points (numberText n)
  | .string s => quoted (points s)
  | .unpaired ps => quoted ps
  | .array xs => layout.enclose depth '[' ']' (writeItems layout (depth + 1) xs)
  | .object fs => layout.enclose depth '\x7b' '\x7d' (writeFields layout (depth + 1) fs)
  | .table es => layout.enclose depth '\x7b' '\x7d' (writeEntries layout (depth + 1) es)

/-- The texts of the items of a list. -/
def writeItems (layout : Layout) (depth : Nat) : List Json → List (List CodePoint)
  | [] => []
  | x :: xs => write layout depth x :: writeItems layout depth xs

/-- The texts of the fields of an object. -/
def writeFields (layout : Layout) (depth : Nat) : List (String × Json) → List (List CodePoint)
  | [] => []
  | (k, v) :: fs =>
    (quoted (points k) ++ points ": " ++ write layout depth v) :: writeFields layout depth fs

/-- The texts of entries, under texts for their keys. -/
def writeEntries (layout : Layout) (depth : Nat) : List (Key × Json) → List (List CodePoint)
  | [] => []
  | (k, v) :: es =>
    (quoted (points k.written) ++ points ": " ++ write layout depth v) ::
      writeEntries layout depth es

end

/-- The text of a document, as far as it can be shown. -/
def render (layout : Layout) (value : Json) : String := Text.shownText (write layout 0 value)

/-- Why the text of a document cannot be encoded, if it cannot. -/
def encodingFault? (layout : Layout) (value : Json) : Option Text.EncodingFault :=
  Text.EncodingFault.find? (write layout 0 value)

mutual

/-- Whether every integer in a value is short enough to be written. -/
def isWritable : Json → Bool
  | .number (.int n) => (Numeral.writeInteger n).isOk
  | .array xs => areWritableItems xs
  | .object fs => areWritableFields fs
  | .table es => areWritableEntries es
  | _ => true

/-- Whether the integers in a list are short enough. -/
def areWritableItems : List Json → Bool
  | [] => true
  | x :: xs => isWritable x && areWritableItems xs

/-- Whether the integers in fields are short enough. -/
def areWritableFields : List (String × Json) → Bool
  | [] => true
  | (_, v) :: fs => isWritable v && areWritableFields fs

/-- Whether the integers in entries are short enough. -/
def areWritableEntries : List (Key × Json) → Bool
  | [] => true
  | (_, v) :: es => isWritable v && areWritableEntries es

end

end CharacterSheet.Json
