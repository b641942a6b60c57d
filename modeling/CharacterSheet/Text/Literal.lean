/-!
# Literals in texts
-/

namespace CharacterSheet.Text

/-- What follows a literal that stands at the front of a text. -/
def after? : List Char → List Char → Option (List Char)
  | [], cs => some cs
  | _ :: _, [] => none
  | w :: ws, c :: cs => if w = c then after? ws cs else none

/-- A literal is found exactly when the text is the literal and the rest. -/
theorem after?_eq_some_iff {ws cs rest : List Char} :
    after? ws cs = some rest ↔ cs = ws ++ rest := by
  induction ws generalizing cs with
  | nil => simp [after?]
  | cons w ws ih =>
    cases cs with
    | nil => simp [after?]
    | cons c cs =>
      by_cases h : w = c
      · simp [after?, h, ih]
      · simp [after?, h, Ne.symm h]

/-- A literal is found at the front of a text that was put behind it. -/
@[simp]
theorem after?_append (ws rest : List Char) : after? ws (ws ++ rest) = some rest :=
  after?_eq_some_iff.mpr rfl

/-- Whether a text occurs in another. -/
def occursIn {α : Type} [BEq α] (part : List α) : List α → Bool
  | [] => part.isEmpty
  | c :: cs => part.isPrefixOf (c :: cs) || occursIn part cs

/-- A text occurs in another exactly when the other is made of something, the text and
something else. -/
theorem occursIn_iff {α : Type} [BEq α] [LawfulBEq α] {part cs : List α} :
    occursIn part cs = true ↔ part <:+: cs := by
  induction cs with
  | nil => simp [occursIn]
  | cons c cs ih => simp [occursIn, ih, List.infix_cons_iff]

end CharacterSheet.Text
