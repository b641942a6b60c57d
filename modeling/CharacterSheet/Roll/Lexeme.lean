import CharacterSheet.Roll
import CharacterSheet.Number.Numeral

/-!
# Lexemes of dice expressions

Blanks may stand between lexemes and nowhere else: dice are written without a blank between
the count, the letter and the sides. Integers with too many digits are lexemes, but have no value.
-/

namespace CharacterSheet.Roll
open Text

/-- The parts that a dice expression is written with. -/
inductive Lexeme where
  | dice (count sides : Except NumeralError Nat)
  | integer (n : Except NumeralError Nat)
  | decimal (x : Float)
  | operator (op : RollOperator)
  | opening
  | closing
  /-- What belongs to no lexeme, with all that follows it. -/
  | unknown
  deriving Repr

namespace Lexeme

/-- Whether a character may stand between lexemes. -/
def isGap (c : Char) : Bool := c = ' ' || c = '\t' || c = '\n' || c = '\r' || c = '\x0c'

/-- The dice of a count at the front of a text, with the rest. -/
def readDice? (count : Except NumeralError Nat) (cs : List Char) :
    Option (Lexeme × List Char) :=
  let sides := cs.takeWhile Char.isDigit
  if sides.isEmpty then none
  else some (.dice count (Numeral.readDigits sides), cs.dropWhile Char.isDigit)

/-- The decimal with digits `whole` before its point and the rest of its digits at the front of
a text, with the rest. -/
def readDecimal (whole cs : List Char) : Lexeme × List Char :=
  let fraction := cs.takeWhile Char.isDigit
  (.decimal (Binary64.ofDecimal false (digitsValue (whole ++ fraction)) (-fraction.length)),
    cs.dropWhile Char.isDigit)

/-- What a run of digits stands for, given what follows it. -/
def readDigits? (digits cs : List Char) : Option (Lexeme × List Char) :=
  match cs with
  | 'd' :: rest => readDice? (Numeral.readDigits digits) rest
  | '.' :: rest => some (readDecimal digits rest)
  | rest => some (.integer (Numeral.readDigits digits), rest)

/-- The lexeme that starts with a character, with the rest. -/
def read? (c : Char) (cs : List Char) : Option (Lexeme × List Char) :=
  match c, cs with
  | '(', cs => some (.opening, cs)
  | ')', cs => some (.closing, cs)
  | '+', cs => some (.operator .add, cs)
  | '-', cs => some (.operator .subtract, cs)
  | '*', cs => some (.operator .multiply, cs)
  | '%', cs => some (.operator .remainder, cs)
  | '/', '/' :: cs => some (.operator .wholeDivide, cs)
  | '/', cs => some (.operator .divide, cs)
  | '=', '=' :: cs => some (.operator (.compare .eq), cs)
  | '!', '=' :: cs => some (.operator (.compare .ne), cs)
  | '<', '=' :: cs => some (.operator (.compare .le), cs)
  | '>', '=' :: cs => some (.operator (.compare .ge), cs)
  | '<', cs => some (.operator (.compare .lt), cs)
  | '>', cs => some (.operator (.compare .gt), cs)
  | 'd', cs => readDice? (.ok 1) cs
  | '.', cs => if (cs.takeWhile Char.isDigit).isEmpty then none else some (readDecimal [] cs)
  | c, cs =>
    if c.isDigit then readDigits? (c :: cs.takeWhile Char.isDigit) (cs.dropWhile Char.isDigit)
    else none

/-- What is left behind dice is no longer than the text. -/
theorem length_le_of_readDice? {count : Except NumeralError Nat} {cs rest : List Char} {l : Lexeme}
    (h : readDice? count cs = some (l, rest)) : rest.length ≤ cs.length := by
  unfold readDice? at h
  dsimp only at h
  split at h
  · simp at h
  · simp only [Option.some.injEq, Prod.mk.injEq] at h
    rw [← h.2]
    exact (List.dropWhile_suffix _).length_le

/-- What is left behind a decimal is no longer than the text. -/
theorem length_le_readDecimal (whole cs : List Char) :
    (readDecimal whole cs).2.length ≤ cs.length :=
  (List.dropWhile_suffix _).length_le

/-- What is left behind a run of digits is no longer than the text. -/
theorem length_le_of_readDigits? {digits cs rest : List Char} {l : Lexeme}
    (h : readDigits? digits cs = some (l, rest)) : rest.length ≤ cs.length := by
  unfold readDigits? at h
  split at h
  · exact Nat.le_succ_of_le (length_le_of_readDice? h)
  · next more =>
    have hd := length_le_readDecimal digits more
    rw [Option.some.inj h] at hd
    exact Nat.le_succ_of_le hd
  · simp only [Option.some.injEq, Prod.mk.injEq] at h
    exact Nat.le_of_eq (congrArg List.length h.2.symm)

/-- What is left behind a lexeme is no longer than what followed its first character. -/
theorem length_le_of_read? {c : Char} {cs rest : List Char} {l : Lexeme}
    (h : read? c cs = some (l, rest)) : rest.length ≤ cs.length := by
  unfold read? at h
  split at h
  case h_15 => exact length_le_of_readDice? h
  case h_16 =>
    split at h
    · simp at h
    · have hd := length_le_readDecimal [] cs
      rw [Option.some.inj h] at hd
      exact hd
  case h_17 =>
    split at h
    · exact Nat.le_trans (length_le_of_readDigits? h) (List.dropWhile_suffix _).length_le
    · simp at h
  all_goals
    simp only [Option.some.injEq, Prod.mk.injEq] at h
    obtain ⟨-, rfl⟩ := h
    simp

end Lexeme

/-- The lexemes of a text. -/
def lexemes (cs : List Char) : List Lexeme :=
  match cs with
  | [] => []
  | c :: cs =>
    if Lexeme.isGap c then lexemes cs
    else
      match h : Lexeme.read? c cs with
      | some (l, rest) =>
        have := Lexeme.length_le_of_read? h
        l :: lexemes rest
      | none => [.unknown]
termination_by cs.length

end CharacterSheet.Roll
