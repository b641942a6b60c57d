import CharacterSheet.Text.Literal
import CharacterSheet.Token

/-!
# References as they are written

The id of a written reference is a run of decimal digits of any script. Main statement: what is
read at the front of a text is the written form of a mention, and the rest.
-/

namespace CharacterSheet

/-- A reference as it is written, with the digits of its id. -/
structure Mention where
  subject : Subject
  digits : List Char
  property : Property
  deriving Repr, DecidableEq

namespace Mention
open Text

/-- The words that open a mention. -/
def opening (s : Subject) : List Char := '<' :: (s.word.toList ++ [':'])

/-- The words that close a mention. -/
def closing (p : Property) : List Char := ':' :: (p.word.toList ++ ['>'])

/-- The characters of a mention. -/
def source (m : Mention) : List Char := opening m.subject ++ (m.digits ++ closing m.property)

/-- The subject whose opening stands at the front of a text, with the rest. -/
def readOpening? (cs : List Char) : Option (Subject × List Char) :=
  [Subject.stat, .sheetSection].findSome? fun s ↦ (after? (opening s) cs).map (s, ·)

/-- The property whose closing stands at the front of a text, with the rest. -/
def readClosing? (cs : List Char) : Option (Property × List Char) :=
  [Property.name, .value, .emoji].findSome? fun p ↦ (after? (closing p) cs).map (p, ·)

/-- The mention at the front of a text, with the rest. -/
def read? (cs : List Char) : Option (Mention × List Char) :=
  match readOpening? cs with
  | none => none
  | some (subject, body) =>
    let digits := body.takeWhile isDecimalDigit
    if digits.isEmpty then none
    else
      (readClosing? (body.dropWhile isDecimalDigit)).map fun (property, rest) ↦
        (⟨subject, digits, property⟩, rest)

/-- The reference that a mention stands for, unless its id is too long to be read. -/
def reference (m : Mention) : Except NumeralError Reference :=
  (Numeral.readDigits m.digits).map fun id ↦ ⟨m.subject, id, m.property⟩

/-- Whether a mention asks for the value of a stat. -/
def isStatValue (m : Mention) : Bool := m.subject = .stat && m.property = .value

/-- An opening that was read is followed by the rest. -/
theorem eq_of_readOpening? {cs rest : List Char} {s : Subject}
    (h : readOpening? cs = some (s, rest)) : cs = opening s ++ rest := by
  obtain ⟨_, t, _, -, ht, -⟩ := List.findSome?_eq_some_iff.mp h
  obtain ⟨r, hr, he⟩ := Option.map_eq_some_iff.mp ht
  obtain ⟨rfl, rfl⟩ := Prod.mk.inj he
  exact after?_eq_some_iff.mp hr

/-- A closing that was read is followed by the rest. -/
theorem eq_of_readClosing? {cs rest : List Char} {p : Property}
    (h : readClosing? cs = some (p, rest)) : cs = closing p ++ rest := by
  obtain ⟨_, t, _, -, ht, -⟩ := List.findSome?_eq_some_iff.mp h
  obtain ⟨r, hr, he⟩ := Option.map_eq_some_iff.mp ht
  obtain ⟨rfl, rfl⟩ := Prod.mk.inj he
  exact after?_eq_some_iff.mp hr

/-- A mention that was read stands at the front of the text. -/
theorem eq_of_read? {cs rest : List Char} {m : Mention} (h : read? cs = some (m, rest)) :
    cs = m.source ++ rest := by
  unfold read? at h
  split at h
  · simp at h
  · next subject body hb =>
    simp only at h
    split at h
    · simp at h
    · obtain ⟨⟨p, r⟩, hp, he⟩ := Option.map_eq_some_iff.mp h
      obtain ⟨rfl, rfl⟩ := Prod.mk.inj he
      rw [eq_of_readOpening? hb]
      simp only [source, List.append_assoc]
      rw [← eq_of_readClosing? hp, List.takeWhile_append_dropWhile]

/-- The written form of a mention is not empty. -/
theorem length_source_pos (m : Mention) : 0 < m.source.length := by simp [source, opening]

/-- Reading a mention shortens the text. -/
theorem length_lt_of_read? {cs rest : List Char} {m : Mention} (h : read? cs = some (m, rest)) :
    rest.length < cs.length := by
  have := congrArg List.length (eq_of_read? h)
  have := length_source_pos m
  simp only [List.length_append] at *
  omega

end Mention
end CharacterSheet
