import CharacterSheet.Text.CodeRanges

/-!
# Blank characters and trimming

Two sets of blanks are in use: the wide one, which the text of expressions and identifiers
is trimmed by, and the narrower `White_Space` property, which numbers in documents are
trimmed by.
-/

namespace CharacterSheet.Text

/-- White space together with the four information separators. -/
def blanks : CodeRanges := [
    (0x9, 0xd), (0x1c, 0x20), (0x85, 0x85), (0xa0, 0xa0), (0x1680, 0x1680), (0x2000, 0x200a),
    (0x2028, 0x2029), (0x202f, 0x202f), (0x205f, 0x205f), (0x3000, 0x3000)]

/-- Whether a character is blank in the wide sense. -/
def isBlank (c : Char) : Bool := blanks.holds c.toNat

/-- Whether a character has the `White_Space` property: the blanks without the information
separators. -/
def isWhiteSpace (c : Char) : Bool :=
  isBlank c && !(0x1c ≤ c.toNat && c.toNat ≤ 0x1f)

/-- A text without the characters of a class at its two ends. -/
def trimWhere (p : Char → Bool) (cs : List Char) : List Char :=
  ((cs.dropWhile p).reverse.dropWhile p).reverse

/-- A text without the blanks at its two ends. -/
def trim (cs : List Char) : List Char := trimWhere isBlank cs

/-- A string without the blanks at its two ends. -/
def trimmed (s : String) : String := String.ofList (trim s.toList)

/-- A text of blanks alone trims to nothing. -/
theorem trimWhere_eq_nil {p : Char → Bool} {cs : List Char} (h : cs.all p) :
    trimWhere p cs = [] := by
  have : cs.dropWhile p = [] := by
    induction cs with
    | nil => rfl
    | cons c cs ih => simp_all
  simp [trimWhere, this]

end CharacterSheet.Text
