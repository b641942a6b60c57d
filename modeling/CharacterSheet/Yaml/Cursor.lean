/-!
# Places in a YAML text

A cursor is what is left of a text, with the offset, the line and the column of its front.
-/

namespace CharacterSheet.Yaml

/-- Whether a character ends a line. -/
def isBreak (c : Char) : Bool := c = '\n' || c = '\u0085' || c = '\u2028' || c = '\u2029'

/-- A front of a text, where the columns are counted from the last line break. -/
structure Cursor where
  rest : List Char
  offset : Nat := 0
  line : Nat := 0
  column : Nat := 0
  deriving Repr

namespace Cursor

/-- The character so many places behind the front, if there is one. -/
def peek? (c : Cursor) (n : Nat := 0) : Option Char := c.rest[n]?

/-- Whether the character so many places behind the front is there and is of a kind. -/
def sees (c : Cursor) (p : Char → Bool) (n : Nat := 0) : Bool := (c.peek? n).any p

/-- Whether a blank, a line break or the end of the text is so many places behind the front. -/
def seesGap (c : Cursor) (n : Nat := 0) : Bool :=
  match c.peek? n with
  | some ch => ch = ' ' || ch = '\t' || isBreak ch
  | none => true

/-- The cursor behind one character. -/
def next (c : Cursor) : Cursor :=
  match c.rest with
  | [] => c
  | ch :: rest =>
    if isBreak ch then ⟨rest, c.offset + 1, c.line + 1, 0⟩
    else ⟨rest, c.offset + 1, c.line, c.column + 1⟩

/-- The cursor behind so many characters. -/
def skip : Nat → Cursor → Cursor
  | 0, c => c
  | n + 1, c => skip n c.next

/-- The characters of a kind at the front, and the cursor behind them. -/
def span (p : Char → Bool) (c : Cursor) : List Char × Cursor :=
  let run := c.rest.takeWhile p
  (run, c.skip run.length)

/-- The cursor behind the blanks at the front, and behind the comment that follows them. -/
def behindComment (c : Cursor) : Cursor :=
  let behind := (c.span (· = ' ')).2
  if behind.sees (· = '#') then (behind.span (!isBreak ·)).2 else behind

/-- Whether a line starts at the front with three times the same sign and a gap. -/
def seesMarker (sign : Char) (c : Cursor) : Bool :=
  c.column = 0 && c.rest.take 3 = [sign, sign, sign] && c.seesGap 3

/-- Whether a document starts or ends at the front. -/
def seesAnyMarker (c : Cursor) : Bool := c.seesMarker '-' || c.seesMarker '.'

/-- The line break at the front as it counts in a text, and the cursor behind it. -/
def lineBreak? (c : Cursor) : Option (Char × Cursor) :=
  match c.peek? with
  | some ch =>
    if isBreak ch then some (if ch = '\u0085' then '\n' else ch, c.next) else none
  | none => none

/-- A step leaves no more of the text. -/
theorem length_rest_next_le (c : Cursor) : c.next.rest.length ≤ c.rest.length := by
  unfold next
  split
  · exact Nat.le_refl _
  · next h => split <;> simp [h]

/-- A step from a character leaves less of the text. -/
theorem length_rest_next_lt {c : Cursor} {ch : Char} {rest : List Char} (h : c.rest = ch :: rest) :
    c.next.rest.length < c.rest.length := by
  unfold next
  split
  · simp_all
  · next h => split <;> simp [h]

/-- Steps leave no more of the text. -/
theorem length_rest_skip_le (n : Nat) (c : Cursor) : (c.skip n).rest.length ≤ c.rest.length := by
  induction n generalizing c with
  | zero => exact Nat.le_refl _
  | succ n ih => exact Nat.le_trans (ih c.next) (length_rest_next_le c)

/-- Steps from a character leave less of the text. -/
theorem length_rest_skip_lt {n : Nat} {c : Cursor} {ch : Char} {rest : List Char}
    (h : c.rest = ch :: rest) (hn : 0 < n) : (c.skip n).rest.length < c.rest.length := by
  cases n with
  | zero => omega
  | succ n => exact Nat.lt_of_le_of_lt (length_rest_skip_le n c.next) (length_rest_next_lt h)

/-- What is behind a span is no more of the text. -/
theorem length_rest_span_le (p : Char → Bool) (c : Cursor) :
    (c.span p).2.rest.length ≤ c.rest.length :=
  length_rest_skip_le _ _

/-- What is behind blanks and a comment is no more of the text. -/
theorem length_rest_behindComment_le (c : Cursor) :
    c.behindComment.rest.length ≤ c.rest.length := by
  have hb := length_rest_span_le (· = ' ') c
  unfold behindComment
  dsimp only
  split
  · exact Nat.le_trans (length_rest_span_le _ _) hb
  · exact hb

/-- What is behind a line break is less of the text. -/
theorem length_rest_lt_of_lineBreak? {c behind : Cursor} {b : Char}
    (h : c.lineBreak? = some (b, behind)) : behind.rest.length < c.rest.length := by
  obtain ⟨rest, offset, line, column⟩ := c
  cases rest with
  | nil => simp [lineBreak?, peek?] at h
  | cons ch rest =>
    simp only [lineBreak?, peek?, List.getElem?_cons_zero] at h
    split at h
    · simp only [Option.some.injEq, Prod.mk.injEq] at h
      rw [← h.2]
      exact length_rest_next_lt rfl
    · simp at h

end Cursor
end CharacterSheet.Yaml
