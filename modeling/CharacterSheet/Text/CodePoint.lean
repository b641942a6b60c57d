import CharacterSheet.Text.Quoted

/-!
# Code points

A text of a document may be spelled with escapes for surrogates. Two of them in a row make one
character, and one that stands alone makes none. A text with such a surrogate can be handed on, but
not encoded.
-/

namespace CharacterSheet.Text

/-- A code point of a text: a character, or a surrogate that is no part of a pair. -/
inductive CodePoint where
  | char (c : Char)
  | surrogate (n : Nat)
  deriving Repr, DecidableEq

namespace CodePoint

/-- The character that a code point is, if it is one. -/
def char? : CodePoint → Option Char
  | .char c => some c
  | .surrogate _ => none

/-- What is shown of a code point: a character, or the sign for what is none. -/
def shown : CodePoint → Char
  | .char c => c
  | .surrogate _ => '\uFFFD'

/-- A code point between the given marks. -/
def quoted (mark : Char) : CodePoint → List Char
  | .char c => quotedChar mark c
  | .surrogate n => '\\' :: 'u' :: hexText 4 n

end CodePoint

/-- The code points of a text. -/
def points (s : String) : List CodePoint := s.toList.map .char

/-- The text that code points are, if all of them are characters. -/
def ofPoints? (ps : List CodePoint) : Option String :=
  (ps.mapM CodePoint.char?).map String.ofList

/-- What is shown of code points. -/
def shownText (ps : List CodePoint) : String := String.ofList (ps.map CodePoint.shown)

/-- Code points between marks. -/
def quotePoints (ps : List CodePoint) : String :=
  let mark := if ps.contains (.char '\'') && !ps.contains (.char '"') then '"' else '\''
  String.ofList (mark :: ps.flatMap (CodePoint.quoted mark) ++ [mark])

/-- The code points of a text are that text. -/
@[simp]
theorem ofPoints?_points (s : String) : ofPoints? (points s) = some s := by
  have h : ∀ cs : List Char, (cs.map CodePoint.char).mapM CodePoint.char? = some cs := by
    intro cs
    induction cs with
    | nil => rfl
    | cons c cs ih => simp [CodePoint.char?, ih]
  simp [ofPoints?, points, h]

/-- A text is shown as it is. -/
@[simp]
theorem shownText_points (s : String) : shownText (points s) = s := by
  simp [shownText, points, Function.comp_def, CodePoint.shown]

/-- A text is quoted as its code points are. -/
theorem quotePoints_points (s : String) : quotePoints (points s) = quote s := by
  have hmem (c : Char) : (points s).contains (.char c) = s.toList.contains c := by
    simp [points, List.contains_eq_mem]
  simp only [quotePoints, quote, hmem]
  simp [points, List.flatMap_map, CodePoint.quoted]

/-- Why a text cannot be encoded: the first of some surrogates in a row, where it stands, and how
many there are. -/
structure EncodingFault where
  surrogate : Nat
  position : Nat
  count : Nat
  deriving Repr, DecidableEq

namespace EncodingFault

/-- The fault of code points, if there is a surrogate among them. -/
def find? (ps : List CodePoint) : Option EncodingFault :=
  let front := ps.takeWhile (·.char?.isSome)
  match ps.drop front.length with
  | .surrogate n :: rest =>
    some ⟨n, front.length, 1 + (rest.takeWhile (·.char?.isNone)).length⟩
  | _ => none

/-- The wording of a fault. -/
def message (e : EncodingFault) : String :=
  "'utf-8' codec can't encode " ++
    (if e.count = 1 then
      "character '\\u" ++ String.ofList (hexText 4 e.surrogate) ++ "' in position " ++
        toString e.position
    else
      "characters in position " ++ toString e.position ++ "-" ++
        toString (e.position + e.count - 1)) ++
    ": surrogates not allowed"

/-- Code points are encoded exactly when all of them are characters. -/
theorem find?_eq_none_iff {ps : List CodePoint} :
    find? ps = none ↔ ∀ p ∈ ps, p.char?.isSome := by
  unfold find?
  induction ps with
  | nil => simp
  | cons p ps ih =>
    cases p with
    | char c =>
      rw [List.forall_mem_cons, ← and_congr_right_iff.mpr fun _ ↦ ih]
      simp only [CodePoint.char?, Option.isSome_some, true_and, List.takeWhile_cons, if_true,
        List.length_cons, List.drop_succ_cons]
      split <;> simp_all
    | surrogate n => simp [CodePoint.char?]

end EncodingFault
end CharacterSheet.Text
