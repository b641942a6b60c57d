import CharacterSheet.Number.Numeral
import CharacterSheet.Yaml.Cursor

/-!
# Scalars that run over lines

Inside a scalar a line break counts as a blank, and each empty line as a line break. A scalar
is quoted, or it is plain and ends at a mark that may follow a scalar.
-/

namespace CharacterSheet.Yaml

/-- Why a text is no YAML document, or the document has no value. -/
inductive Error where
  /-- A character that the text may not hold. -/
  | unprintable
  /-- Something is no token. -/
  | scan
  /-- The tokens are in a wrong order. -/
  | parse
  /-- The tokens end too early. -/
  | unfinished
  /-- There are several documents. -/
  | severalDocuments
  /-- A plain scalar that stands for nothing where it is. -/
  | meaningless
  /-- A list or a mapping is a key. -/
  | compoundKey
  /-- What is to be merged into a mapping is none. -/
  | notMergeable
  /-- An escape of a number beyond the last character. -/
  | noSuchCharacter
  /-- An escape of a number of more than thirty-one bits. -/
  | hugeCharacter
  /-- An escape of a surrogate, which no text here can hold. -/
  | surrogate
  /-- An integer to some base without digits. -/
  | noDigits (base : Nat)
  /-- A number to base sixty with too many groups. -/
  | tooManyGroups
  | numeral (error : NumeralError)
  deriving Repr, DecidableEq

namespace Error

/-- The wording of an error. -/
def message : Error → String
  | .unprintable => "special characters are not allowed"
  | .scan => "found something that is no token"
  | .parse => "found a token that does not fit"
  | .unfinished => "the document ends too early"
  | .severalDocuments => "expected a single document"
  | .meaningless => "found a scalar without a value"
  | .compoundKey => "found a key that is no scalar"
  | .notMergeable => "expected a mapping or a list of mappings for merging"
  | .noSuchCharacter => "chr() arg not in range(0x110000)"
  | .hugeCharacter => "Python int too large to convert to C int"
  | .surrogate => "found an escape of a surrogate"
  | .noDigits base => "invalid literal for int() with base " ++ toString base ++ ": ''"
  | .tooManyGroups => "int too large to convert to float"
  | .numeral error => error.message

/-- Whether a text breaks the rules of documents, rather than that a scalar in it has no value
that can be told. -/
def isMalformed : Error → Bool
  | .noSuchCharacter | .hugeCharacter | .noDigits _ | .tooManyGroups | .numeral _ => false
  | _ => true

end Error

/-- The two kinds of quotation marks. -/
inductive Quote where
  | single
  | double
  deriving Repr, DecidableEq

/-- The mark of a kind. -/
def Quote.mark : Quote → Char
  | .single => '\''
  | .double => '"'

/-- The line breaks in front with the blanks before each, up to a document marker, and the
cursor behind them. -/
def lineBreaks (isBlank : Char → Bool) (found : List Char) (c : Cursor) : List Char × Cursor :=
  match h : (c.span isBlank).2.lineBreak? with
  | some (b, behind) =>
    have := Cursor.length_rest_lt_of_lineBreak? h
    have := Cursor.length_rest_span_le isBlank c
    if behind.seesAnyMarker then (found ++ [b], behind)
    else lineBreaks isBlank (found ++ [b]) behind
  | none => (found, (c.span isBlank).2)
termination_by c.rest.length

/-- What is behind line breaks is no more of the text. -/
theorem length_rest_lineBreaks_le (isBlank : Char → Bool) (found : List Char) (c : Cursor) :
    (lineBreaks isBlank found c).2.rest.length ≤ c.rest.length := by
  fun_induction lineBreaks isBlank found c with
  | case1 =>
    dsimp only
    omega
  | case2 => omega
  | case3 => exact Cursor.length_rest_span_le _ _

/-- What a line break and the empty lines behind it count as. -/
def folded (first : Char) (more : List Char) : List Char :=
  if first != '\n' then first :: more else if more.isEmpty then [' '] else more

/-- The characters that an escape of one letter stands for. -/
def escapes : List (Char × Char) := [
  ('0', '\x00'), ('a', '\x07'), ('b', '\x08'), ('t', '\t'), ('\t', '\t'), ('n', '\n'),
  ('v', '\x0b'), ('f', '\x0c'), ('r', '\r'), ('e', '\x1b'), (' ', ' '), ('"', '"'), ('\\', '\\'),
  ('/', '/'), ('N', '\u0085'), ('_', '\u00a0'), ('L', '\u2028'), ('P', '\u2029')]

/-- How many hexadecimal digits follow a letter. -/
def escapeLengths : List (Char × Nat) := [('x', 2), ('u', 4), ('U', 8)]

/-- The value of a hexadecimal digit. -/
def hexValue (c : Char) : Nat :=
  if c.isDigit then c.toNat - 0x30 else if c.isUpper then c.toNat - 0x37 else c.toNat - 0x57

/-- Whether a character is a hexadecimal digit. -/
def isHex (c : Char) : Bool :=
  c.isDigit || ('a' ≤ c && c ≤ 'f') || ('A' ≤ c && c ≤ 'F')

/-- Whether a character is a blank inside a line. -/
def isInnerBlank (c : Char) : Bool := c = ' ' || c = '\t'

/-- The character with a number. -/
def character (n : Nat) : Except Error Char :=
  if 0xD800 ≤ n ∧ n < 0xE000 then .error .surrogate
  else if n < 0x110000 then .ok (Char.ofNat n)
  else .error (if n < 2 ^ 31 then .noSuchCharacter else .hugeCharacter)

/-- What an escape stands for, behind its backslash, and the cursor behind it. -/
def readEscape (c : Cursor) : Except Error (List Char × Cursor) :=
  match c.peek? with
  | none => .error .scan
  | some ch =>
    match escapes.lookup ch, escapeLengths.lookup ch with
    | some meant, _ => .ok ([meant], c.next)
    | none, some length =>
      let digits := c.next.rest.take length
      if digits.length = length && digits.all isHex then
        (character (digits.foldl (fun n d ↦ 16 * n + hexValue d) 0)).map fun meant ↦
          ([meant], c.skip (length + 1))
      else .error .scan
    | none, none =>
      match c.lineBreak? with
      | some (_, behind) =>
        let (found, behind) := lineBreaks isInnerBlank [] behind
        if behind.seesAnyMarker then .error .scan else .ok (found, behind)
      | none => .error .scan

/-- The gap at the front of a quoted scalar as it counts, and the cursor behind it. -/
def readGap (c : Cursor) : Except Error (List Char × Cursor) :=
  let (blanks, behind) := c.span isInnerBlank
  match behind.lineBreak? with
  | some (b, behind) =>
    let (more, behind) := lineBreaks isInnerBlank [] behind
    if behind.seesAnyMarker then .error .scan else .ok (folded b more, behind)
  | none => if behind.rest.isEmpty then .error .scan else .ok (blanks, behind)

/-- One piece of a quoted scalar, and the cursor behind it. -/
def readQuotedPiece (q : Quote) (c : Cursor) : Except Error (List Char × Cursor) :=
  match c.rest with
  | [] => .error .scan
  | ch :: rest =>
    if isInnerBlank ch || isBreak ch then readGap c
    else if ch = '\\' && q = .double then readEscape c.next
    else if ch = '\'' && q = .single && rest.head? = some '\'' then .ok (['\''], c.skip 2)
    else .ok ([ch], c.next)

/-- What is behind an escape is no more of the text. -/
theorem length_rest_le_of_readEscape {c behind : Cursor} {meant : List Char}
    (h : readEscape c = .ok (meant, behind)) : behind.rest.length ≤ c.rest.length := by
  unfold readEscape at h
  split at h
  · simp at h
  · split at h
    · simp only [Except.ok.injEq, Prod.mk.injEq] at h
      rw [← h.2]
      exact Cursor.length_rest_next_le c
    · next length _ _ =>
      dsimp only at h
      split at h
      · generalize character _ = meant? at h
        cases meant? with
        | error e => simp [Except.map] at h
        | ok meant =>
          simp only [Except.map, Except.ok.injEq, Prod.mk.injEq] at h
          rw [← h.2]
          exact Cursor.length_rest_skip_le _ c
      · simp at h
    · split at h
      · next b after hb =>
        dsimp only at h
        split at h
        · simp at h
        · simp only [Except.ok.injEq, Prod.mk.injEq] at h
          rw [← h.2]
          exact Nat.le_trans (length_rest_lineBreaks_le _ _ after)
            (Nat.le_of_lt (Cursor.length_rest_lt_of_lineBreak? hb))
      · simp at h

/-- What is behind a gap is less of the text. -/
theorem length_rest_lt_of_readGap {c behind : Cursor} {counted : List Char} {ch : Char}
    {rest : List Char} (hc : c.rest = ch :: rest) (hg : (isInnerBlank ch || isBreak ch) = true)
    (h : readGap c = .ok (counted, behind)) : behind.rest.length < c.rest.length := by
  have hs := Cursor.length_rest_span_le isInnerBlank c
  unfold readGap at h
  dsimp only at h
  split at h
  · next b after hb =>
    split at h
    · simp at h
    · simp only [Except.ok.injEq, Prod.mk.injEq] at h
      rw [← h.2]
      have := length_rest_lineBreaks_le isInnerBlank [] after
      have := Cursor.length_rest_lt_of_lineBreak? hb
      omega
  · next hb =>
    split at h
    · simp at h
    · simp only [Except.ok.injEq, Prod.mk.injEq] at h
      rw [← h.2]
      by_cases hi : isInnerBlank ch = true
      · exact Cursor.length_rest_skip_lt hc (by simp [hc, hi])
      · have hn : (c.span isInnerBlank).2 = c := by simp [Cursor.span, hc, hi, Cursor.skip]
        have : isBreak ch = true := by simpa [hi] using hg
        rw [hn] at hb
        simp [Cursor.lineBreak?, Cursor.peek?, hc, this] at hb

/-- What is behind a piece is less of the text. -/
theorem length_rest_lt_of_readQuotedPiece {q : Quote} {c behind : Cursor} {piece : List Char}
    (h : readQuotedPiece q c = .ok (piece, behind)) : behind.rest.length < c.rest.length := by
  unfold readQuotedPiece at h
  split at h
  · simp at h
  · next ch rest hc =>
    split at h
    · next hg => exact length_rest_lt_of_readGap hc hg h
    · split at h
      · exact Nat.lt_of_le_of_lt (length_rest_le_of_readEscape h) (Cursor.length_rest_next_lt hc)
      · split at h
        · simp only [Except.ok.injEq, Prod.mk.injEq] at h
          rw [← h.2]
          exact Cursor.length_rest_skip_lt hc (by decide)
        · simp only [Except.ok.injEq, Prod.mk.injEq] at h
          rw [← h.2]
          exact Cursor.length_rest_next_lt hc

/-- Whether a quoted scalar ends at the front of what is left. -/
def endsQuoted (q : Quote) (c : Cursor) : Bool :=
  c.sees (· = q.mark) && !(q = .single && c.sees (· = '\'') 1)

/-- The rest of a quoted scalar behind the characters that were read, which are given in
reverse, and the cursor behind its closing mark. -/
def readQuoted (q : Quote) (read : List Char) (c : Cursor) : Except Error (String × Cursor) :=
  if endsQuoted q c then .ok (String.ofList read.reverse, c.next)
  else
    match h : readQuotedPiece q c with
    | .error e => .error e
    | .ok (piece, behind) =>
      have := length_rest_lt_of_readQuotedPiece h
      readQuoted q (piece.reverse ++ read) behind
termination_by c.rest.length

/-- Whether a plain scalar, inside or outside of brackets, cannot go on at the front. -/
def endsPlain (inFlow : Bool) (c : Cursor) : Bool :=
  c.seesGap ||
    (c.sees (· = ':') && (c.seesGap 1 || (inFlow && c.sees (",[]\x7b\x7d".contains ·) 1))) ||
    (inFlow && c.sees (",?[]\x7b\x7d".contains ·))

/-- The characters of a plain scalar up to a gap or its end, in reverse, and the cursor behind
them. -/
def readPlainRun (inFlow : Bool) (read : List Char) (c : Cursor) : List Char × Cursor :=
  match h : c.rest with
  | [] => (read, c)
  | ch :: _ =>
    have := Cursor.length_rest_next_lt h
    if endsPlain inFlow c then (read, c) else readPlainRun inFlow (ch :: read) c.next
termination_by c.rest.length

/-- The gap inside a plain scalar as it counts, whether a line ended in it, and the cursor
behind it. Nothing counts before a document marker. -/
def readPlainGap (c : Cursor) : List Char × Bool × Cursor :=
  let (blanks, behind) := c.span (· = ' ')
  match behind.lineBreak? with
  | some (b, behind) =>
    if behind.seesAnyMarker then ([], true, behind)
    else
      let (more, behind) := lineBreaks (· = ' ') [] behind
      (if behind.seesAnyMarker then [] else folded b more, true, behind)
  | none => (blanks, false, behind)

/-- What is behind a run is no more of the text. -/
theorem length_rest_readPlainRun_le (inFlow : Bool) (read : List Char) (c : Cursor) :
    (readPlainRun inFlow read c).2.rest.length ≤ c.rest.length := by
  fun_induction readPlainRun inFlow read c with
  | case1 => exact Nat.le_refl _
  | case2 => exact Nat.le_refl _
  | case3 => omega

/-- What is behind a run that is not empty is less of the text. -/
theorem length_rest_readPlainRun_lt {inFlow : Bool} {c : Cursor}
    (h : (readPlainRun inFlow [] c).1 ≠ []) :
    (readPlainRun inFlow [] c).2.rest.length < c.rest.length := by
  unfold readPlainRun at h ⊢
  split
  · next hc => split at h <;> simp_all
  · next ch rest hc =>
    split
    · split at h <;> simp_all
    · exact Nat.lt_of_le_of_lt (length_rest_readPlainRun_le _ _ _) (Cursor.length_rest_next_lt hc)

/-- What is behind a gap is no more of the text. -/
theorem length_rest_readPlainGap_le (c : Cursor) :
    (readPlainGap c).2.2.rest.length ≤ c.rest.length := by
  have hs := Cursor.length_rest_span_le (· = ' ') c
  unfold readPlainGap
  dsimp only
  split
  · next b behind hb =>
    have := Cursor.length_rest_lt_of_lineBreak? hb
    split
    · dsimp only
      omega
    · have := length_rest_lineBreaks_le (· = ' ') [] behind
      dsimp only
      omega
  · exact hs

/-- A plain scalar behind the characters that were read and a gap, both in reverse, with whether
a line ended in its last gap, and the cursor behind it. Outside of brackets the lines that
continue it are indented at least so much. -/
def readPlain (inFlow : Bool) (indent : Int) (read gap : List Char) (broken : Bool) (c : Cursor) :
    List Char × Bool × Cursor :=
  if c.sees (· = '#') then (read, broken, c)
  else if h : (readPlainRun inFlow [] c).1 = [] then (read, broken, c)
  else
    have := length_rest_readPlainRun_lt h
    have := length_rest_readPlainGap_le (readPlainRun inFlow [] c).2
    let run := readPlainRun inFlow [] c
    let all := run.1 ++ gap ++ read
    let ended := readPlainGap run.2
    if ended.1.isEmpty || ended.2.2.sees (· = '#') ||
        (!inFlow && (ended.2.2.column : Int) < indent) then
      (all, ended.2.1, ended.2.2)
    else readPlain inFlow indent all ended.1.reverse ended.2.1 ended.2.2
termination_by c.rest.length

end CharacterSheet.Yaml
