/-!
# Pieces of texts

A text is cut at every occurrence of a mark; with the marks put back it is the text again.
-/

namespace CharacterSheet.Text

/-- The pieces of a text between marks. -/
def cutAt (mark : Char) : List Char → List (List Char)
  | [] => [[]]
  | c :: cs =>
    if c = mark then [] :: cutAt mark cs
    else
      match cutAt mark cs with
      | piece :: rest => (c :: piece) :: rest
      | [] => [[c]]

/-- There is always a piece. -/
theorem cutAt_ne_nil (mark : Char) (cs : List Char) : cutAt mark cs ≠ [] := by
  cases cs with
  | nil => simp [cutAt]
  | cons c cs =>
    unfold cutAt
    split
    · simp
    · split <;> simp

/-- The pieces with marks between them are the text. -/
theorem intercalate_cutAt (mark : Char) (cs : List Char) :
    [mark].intercalate (cutAt mark cs) = cs := by
  induction cs with
  | nil => rfl
  | cons c cs ih =>
    unfold cutAt
    split
    · next h =>
      cases hp : cutAt mark cs with
      | nil => exact absurd hp (cutAt_ne_nil mark cs)
      | cons piece rest => simp [List.intercalate, hp, h] at ih ⊢; exact ih
    · cases hp : cutAt mark cs with
      | nil => exact absurd hp (cutAt_ne_nil mark cs)
      | cons piece rest =>
        cases rest <;> simp [List.intercalate, hp] at ih ⊢ <;> exact ih

/-- A text whose lines all end with a line feed alone, be they ended by a line feed, a carriage
return or both. -/
def withLineFeeds : List Char → List Char
  | '\r' :: '\n' :: cs => '\n' :: withLineFeeds cs
  | '\r' :: cs => '\n' :: withLineFeeds cs
  | c :: cs => c :: withLineFeeds cs
  | [] => []

/-- A text without carriage returns has its lines ended that way. -/
theorem withLineFeeds_of_notMem {cs : List Char} (h : '\r' ∉ cs) : withLineFeeds cs = cs := by
  fun_induction withLineFeeds cs with
  | case1 => simp at h
  | case2 => simp at h
  | case3 c cs _ _ ih => rw [ih fun hc ↦ h (List.mem_cons_of_mem _ hc)]
  | case4 => rfl

/-- A text with its lines ended by line feeds alone. -/
def lineFed (s : String) : String := String.ofList (withLineFeeds s.toList)

end CharacterSheet.Text
