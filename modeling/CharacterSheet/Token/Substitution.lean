import CharacterSheet.Token.Mention

/-!
# Putting texts in the place of references

A substitution goes over a text once, from left to right, and puts a text in the place of
every reference of a chosen kind, wherever it stands. What it puts in is not looked at again.
The texts are asked for one by one, in the order of the references, so asking may have effects.
-/

namespace CharacterSheet

/-- A character, or a reference as it is written. -/
inductive Piece where
  | char (c : Char)
  | mention (m : Mention)
  deriving Repr, DecidableEq

/-- The characters of a piece. -/
def Piece.source : Piece → List Char
  | .char c => [c]
  | .mention m => m.source

/-- The pieces of a text, in which the mentions of a chosen kind are taken together. -/
def pieces (chosen : Mention → Bool) (cs : List Char) : List Piece :=
  match cs with
  | [] => []
  | c :: rest =>
    match h : Mention.read? (c :: rest) with
    | some (m, behind) =>
      have := Mention.length_lt_of_read? h
      if chosen m then .mention m :: pieces chosen behind
      else .char c :: pieces chosen rest
    | none => .char c :: pieces chosen rest
termination_by cs.length
decreasing_by
  all_goals
    simp only [List.length_cons] at *
    omega

section
variable {m : Type → Type} [Monad m] [MonadExceptOf NumeralError m]

/-- The text that takes the place of a piece. -/
def Piece.replaced (replace : Reference → m String) : Piece → m (List Char)
  | .char c => return [c]
  | .mention r => do return (← replace (← liftExcept r.reference)).toList

/-- A text with the references of a chosen kind replaced. -/
def substitute (chosen : Mention → Bool) (replace : Reference → m String) (text : String) :
    m String := do
  let parts ← (pieces chosen text.toList).mapM (Piece.replaced replace)
  return String.ofList parts.flatten

/-- A text with the values of stats put in the place of the references to them. -/
def substituteStatValues (value : Nat → m String) (text : String) : m String :=
  substitute Mention.isStatValue (fun r ↦ value r.id) text

/-- A text with every reference replaced. -/
def substituteReferences (replace : Reference → m String) (text : String) : m String :=
  substitute (fun _ ↦ true) replace text

end

/-- The pieces of a text make up the text. -/
theorem flatMap_source_pieces (chosen : Mention → Bool) (cs : List Char) :
    (pieces chosen cs).flatMap Piece.source = cs := by
  fun_induction pieces chosen cs with
  | case1 => rfl
  | case2 c rest m behind hm hlt hc ih =>
    rw [List.flatMap_cons, ih, Mention.eq_of_read? hm, Piece.source]
  | case3 c rest m behind hm hlt hc ih => simp [Piece.source, ih]
  | case4 c rest hm ih => simp [Piece.source, ih]

end CharacterSheet
