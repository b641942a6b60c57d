import CharacterSheet.Json.Reader

/-!
# Reading texts within bounds

A text that is read together with its validation may not nest values too deeply, nor have numbers
of too many digits. Of a key that stands in an object twice both entries are kept for the
validation. A refusal names its cause and one place, which is given by how much of the text is
left there; its notice counts the bytes of a line.
-/

namespace CharacterSheet.Json.Bounded
open Reader

/-- The parts of a text that its end can cut off. -/
inductive Part where
  | value
  | list
  | object
  | string
  deriving Repr, DecidableEq

/-- Why a text is refused. -/
inductive Cause where
  | ended (inside : Part)
  | expectedValue
  | badWord
  | badNumber
  | numberTooLong
  | expectedKey
  | expectedColon
  | expectedCommaInList
  | expectedCommaInObject
  | trailingComma
  | controlCharacter
  | badEscape
  | loneSurrogate
  | unfinishedSurrogate
  | nestedTooDeeply
  | trailingCharacters
  deriving Repr, DecidableEq

/-- A refusal: its cause, and how many characters are left at the fault. -/
structure Refusal where
  cause : Cause
  left : Nat
  deriving Repr, DecidableEq

/-- How deep lists and objects may be nested. -/
def maxNesting : Nat := 200

/-- A refusal at the front of `cs`. -/
def refuse {α : Type} (cause : Cause) (cs : List Char) : Except Refusal α :=
  .error ⟨cause, cs.length⟩

/-- A refusal where the text ends. -/
def endedIn {α : Type} (part : Part) : Except Refusal α := .error ⟨.ended part, 0⟩

/-- A refusal at the front of what is left, where something must stand. -/
def expected {α : Type} (part : Part) (cause : Cause) (cs : List Char) : Except Refusal α :=
  if cs.isEmpty then endedIn part else refuse cause cs

/-- The result of reading an item at the front of `cs`. -/
abbrev Step (cs : List Char) (α : Type) := Except Refusal (α × Rest cs)

/-- How many bytes characters take. -/
def byteCount (cs : List Char) : Nat := cs.foldl (fun n c ↦ n + c.utf8Size) 0

/-- The code unit of the four hexadecimal digits at the front of a text, with the rest. -/
def codeUnit (cs : List Char) : Except Refusal (Nat × List Char) :=
  if byteCount (cs.take 4) < 4 then endedIn .string
  else
    let fault := refuse .badEscape (cs.dropWhile fun c ↦ (hexValue? c).isSome)
    match cs with
    | a :: b :: c :: d :: rest =>
      match hexQuad? a b c d with
      | some n => .ok (n, rest)
      | none => fault
    | _ => fault

/-- The character whose code unit was read, where a first of two is completed by the second. -/
def completed (unit : Nat) (rest : List Char) : Except Refusal (Char × List Char) :=
  let lone (rest : List Char) : Except Refusal (Char × List Char) :=
    .error ⟨.loneSurrogate, rest.length + 1⟩
  if isTrailing unit then lone rest
  else if !isLeading unit then .ok (Char.ofNat unit, rest)
  else
    match rest with
    | '\\' :: 'u' :: more =>
      match codeUnit more with
      | .error e => .error e
      | .ok (low, rest) =>
        if isTrailing low then
          .ok (Char.ofNat (0x10000 + (unit - 0xD800) * 0x400 + (low - 0xDC00)), rest)
        else lone rest
    | '\\' :: more => expected .string .unfinishedSurrogate more
    | rest => expected .string .unfinishedSurrogate rest

/-- The character of an escape behind its backslash, with the rest. -/
def escape (cs : List Char) : Except Refusal (Char × List Char) :=
  match cs with
  | [] => endedIn .string
  | 'u' :: quad =>
    match codeUnit quad with
    | .error e => .error e
    | .ok (unit, rest) => completed unit rest
  | c :: rest =>
    match simpleEscape? c with
    | some meant => .ok (meant, rest)
    | none => refuse .badEscape (c :: rest)

theorem length_lt_of_codeUnit {cs rest : List Char} {n : Nat}
    (h : codeUnit cs = .ok (n, rest)) : rest.length < cs.length := by
  unfold codeUnit endedIn refuse at h
  split at h
  · simp at h
  · dsimp only at h
    split at h
    · split at h
      · obtain ⟨-, rfl⟩ := Prod.mk.inj (Except.ok.inj h)
        simp only [List.length_cons]
        omega
      · simp at h
    · simp at h

theorem expected_ne_ok {α : Type} {part : Part} {cause : Cause} {cs : List Char} {a : α} :
    expected part cause cs ≠ .ok a := by
  unfold expected endedIn refuse
  split <;> simp

theorem length_le_of_completed {unit : Nat} {c : Char} {cs rest : List Char}
    (h : completed unit cs = .ok (c, rest)) : rest.length ≤ cs.length := by
  unfold completed at h
  dsimp only at h
  split at h
  · simp at h
  · split at h
    · obtain ⟨-, rfl⟩ := Prod.mk.inj (Except.ok.inj h)
      exact Nat.le_refl _
    · split at h
      · split at h
        · simp at h
        · next hu =>
          have := length_lt_of_codeUnit hu
          split at h
          · obtain ⟨-, rfl⟩ := Prod.mk.inj (Except.ok.inj h)
            simp only [List.length_cons]
            omega
          · simp at h
      · exact absurd h expected_ne_ok
      · exact absurd h expected_ne_ok

/-- An escape takes characters away. -/
theorem length_lt_of_escape {c : Char} {cs rest : List Char} (h : escape cs = .ok (c, rest)) :
    rest.length < cs.length := by
  unfold escape at h
  split at h
  · simp [endedIn] at h
  · split at h
    · simp at h
    · next hu =>
      have := length_lt_of_codeUnit hu
      have := length_le_of_completed h
      simp only [List.length_cons]
      omega
  · split at h
    · obtain ⟨-, rfl⟩ := Prod.mk.inj (Except.ok.inj h)
      simp
    · simp [refuse] at h

/-- The rest of a text behind its opening mark, up to the closing one. The characters read so far
are given in reverse. -/
def string (read : List Char) (cs : List Char) : Step cs String :=
  match cs with
  | [] => endedIn .string
  | '"' :: rest => .ok (String.ofList read.reverse, ⟨rest, by simp⟩)
  | '\\' :: rest =>
    match h : escape rest with
    | .error e => .error e
    | .ok (c, behind) =>
      have := length_lt_of_escape h
      match string (c :: read) behind with
      | .error e => .error e
      | .ok (s, ⟨left, hl⟩) => .ok (s, ⟨left, by simp only [List.length_cons]; omega⟩)
  | c :: rest =>
    if c.toNat < 0x20 then refuse .controlCharacter (c :: rest)
    else
      match string (c :: read) rest with
      | .error e => .error e
      | .ok (s, ⟨left, hl⟩) => .ok (s, ⟨left, by simp only [List.length_cons]; omega⟩)
termination_by cs.length

/-- The digits at the front of a text, of which there is one at least, with the rest. -/
def digits (cs : List Char) : Except Refusal (List Char × List Char) :=
  if cs.head?.any Char.isDigit then .ok (cs.takeWhile Char.isDigit, cs.dropWhile Char.isDigit)
  else expected .value .badNumber cs

/-- The exponent at the front of a text, with the rest; none if there is no exponent. -/
def exponent (cs : List Char) : Except Refusal (List Char × List Char) :=
  match cs with
  | e :: more =>
    if e = 'e' || e = 'E' then
      let sign := (more.take 1).filter fun c ↦ c = '-' || c = '+'
      (digits (more.drop sign.length)).map fun (ds, rest) ↦ (sign ++ ds, rest)
    else .ok ([], cs)
  | [] => .ok ([], cs)

/-- The fraction at the front of a text, with the rest; none if there is no fraction. -/
def fraction (cs : List Char) : Except Refusal (List Char × List Char) :=
  match cs with
  | '.' :: more => digits more
  | _ => .ok ([], cs)

/-- The whole part of a number without its sign at the front of a text, with the rest. Behind a
nought no digit may follow. -/
def whole (cs : List Char) : Except Refusal (List Char × List Char) :=
  match cs with
  | '0' :: rest => if rest.head?.any Char.isDigit then refuse .badNumber rest else .ok (['0'], rest)
  | cs => digits cs

/-- The number at the front of a text, with the rest. The digits of its whole part are counted
with its sign. -/
def number (cs : List Char) : Except Refusal (Number × List Char) := do
  let sign := (cs.take 1).filter (· = '-')
  let (ds, rest) ← whole (cs.drop sign.length)
  if maxDigits < sign.length + ds.length then throw ⟨.numberTooLong, cs.length - (maxDigits + 1)⟩
  let (fraction, rest) ← fraction rest
  let (power, rest) ← exponent rest
  match numberOf (!sign.isEmpty) ds fraction power with
  | .ok n => return (n, rest)
  | .error _ => throw ⟨.numberTooLong, cs.length - (maxDigits + 1)⟩

/-- How much two texts have in common at the front. -/
def commonLength : List Char → List Char → Nat
  | a :: as, b :: bs => if a = b then commonLength as bs + 1 else 0
  | _, _ => 0

/-- A word that must stand at the front of a text, with the rest. -/
def word (w : List Char) (cs : List Char) : Except Refusal (List Char) :=
  let n := commonLength w cs
  if n = w.length then .ok (cs.drop n) else expected .value .badWord (cs.drop n)

/-- The words that are values, by the characters that they are told by. -/
def words : List (List Char × List Char × Json) := [
  (['n'], "null".toList, .null),
  (['t'], "true".toList, .bool true),
  (['f'], "false".toList, .bool false),
  (['N'], "NaN".toList, .number (.float Binary64.notANumber)),
  (['I'], "Infinity".toList, .number (.float (Binary64.infinity false))),
  (['-', 'I'], "-Infinity".toList, .number (.float (Binary64.infinity true)))]

/-- A word or a number at the front of a text, with the rest. -/
def scalar (cs : List Char) : Except Refusal (Json × List Char) :=
  match words.find? fun (mark, _) ↦ mark.isPrefixOf cs with
  | some (_, w, v) => (word w cs).map (v, ·)
  | none =>
    if cs.head?.any fun c ↦ c.isDigit || c = '-' then
      (number cs).map fun (n, rest) ↦ (.number n, rest)
    else expected .value .expectedValue cs

theorem length_lt_of_digits {cs ds rest : List Char} (h : digits cs = .ok (ds, rest)) :
    rest.length < cs.length := by
  unfold digits at h
  split at h
  · next hd =>
    obtain ⟨-, rfl⟩ := Prod.mk.inj (Except.ok.inj h)
    cases cs with
    | nil => simp at hd
    | cons c cs =>
      have hc : c.isDigit = true := by simpa using hd
      have := length_dropWhile_le Char.isDigit cs
      simp only [List.dropWhile_cons, hc, if_true, List.length_cons]
      omega
  · exact absurd h expected_ne_ok

/-- A mapped result that succeeds comes from a result. -/
theorem exists_of_map_eq_ok {ε α β : Type} {f : α → β} {r : Except ε α} {b : β}
    (h : r.map f = .ok b) : ∃ a, r = .ok a ∧ f a = b := by
  cases r with
  | error => simp [Except.map] at h
  | ok a => exact ⟨a, rfl, Except.ok.inj h⟩

theorem length_le_of_exponent {cs power rest : List Char} (h : exponent cs = .ok (power, rest)) :
    rest.length ≤ cs.length := by
  unfold exponent at h
  split at h
  · next e more =>
    split at h
    · obtain ⟨⟨ds, left⟩, hd, he⟩ := exists_of_map_eq_ok h
      obtain ⟨-, rfl⟩ := Prod.mk.inj he
      have := length_lt_of_digits hd
      simp only [List.length_drop, List.length_cons] at *
      omega
    · obtain ⟨-, rfl⟩ := Prod.mk.inj (Except.ok.inj h)
      exact Nat.le_refl _
  · obtain ⟨-, rfl⟩ := Prod.mk.inj (Except.ok.inj h)
    exact Nat.le_refl _

theorem length_le_of_fraction {cs ds rest : List Char} (h : fraction cs = .ok (ds, rest)) :
    rest.length ≤ cs.length := by
  unfold fraction at h
  split at h
  · have := length_lt_of_digits h
    simp only [List.length_cons]
    omega
  · obtain ⟨-, rfl⟩ := Prod.mk.inj (Except.ok.inj h)
    exact Nat.le_refl _

theorem length_lt_of_whole {cs ds rest : List Char} (h : whole cs = .ok (ds, rest)) :
    rest.length < cs.length := by
  unfold whole at h
  split at h
  · split at h
    · simp [refuse] at h
    · obtain ⟨-, rfl⟩ := Prod.mk.inj (Except.ok.inj h)
      simp
  · exact length_lt_of_digits h

/-- A number that was read leaves less text. -/
theorem length_lt_of_number {cs rest : List Char} {n : Number} (h : number cs = .ok (n, rest)) :
    rest.length < cs.length := by
  unfold number at h
  simp only [bind, Except.bind, pure, Except.pure, throw, throwThe, MonadExceptOf.throw] at h
  split at h
  · simp at h
  · next w hw =>
    have h1 := length_lt_of_whole hw
    split at h
    · simp at h
    · split at h
      · simp at h
      · next f hf =>
        have h2 := length_le_of_fraction hf
        split at h
        · simp at h
        · next e he =>
          have h3 := length_le_of_exponent he
          split at h
          · obtain ⟨-, rfl⟩ := Prod.mk.inj (Except.ok.inj h)
            simp only [List.length_drop] at h1
            omega
          · simp at h

/-- A word that was read leaves less text. -/
theorem length_lt_of_word {w cs rest : List Char} (hw : w ≠ []) (h : word w cs = .ok rest) :
    rest.length < cs.length := by
  unfold word at h
  dsimp only at h
  split at h
  · next hn =>
    obtain rfl := Except.ok.inj h
    cases w with
    | nil => exact absurd rfl hw
    | cons a w =>
      cases cs with
      | nil => simp [commonLength] at hn
      | cons c cs =>
        simp only [List.length_drop, List.length_cons] at *
        omega
  · exact absurd h expected_ne_ok

/-- A word or a number that was read leaves less text. -/
theorem length_lt_of_scalar {cs rest : List Char} {v : Json} (h : scalar cs = .ok (v, rest)) :
    rest.length < cs.length := by
  unfold scalar at h
  split at h
  · next mark w u hf =>
    obtain ⟨left, hl, he⟩ := exists_of_map_eq_ok h
    obtain ⟨-, rfl⟩ := Prod.mk.inj he
    have hm := List.mem_of_find?_eq_some hf
    have : w ≠ [] := by
      have all : ∀ entry ∈ words, entry.2.1 ≠ [] := by simp [words]
      exact all _ hm
    exact length_lt_of_word this hl
  · split at h
    · obtain ⟨⟨n, left⟩, hn, he⟩ := exists_of_map_eq_ok h
      obtain ⟨-, rfl⟩ := Prod.mk.inj he
      exact length_lt_of_number hn
    · exact absurd h expected_ne_ok

mutual

/-- A value at the front of a text that starts with no space. A list or an object in it stands so
deep. -/
def value (depth : Nat) (cs : List Char) : Step cs Json :=
  match cs with
  | '"' :: rest =>
    match string [] rest with
    | .error e => .error e
    | .ok (s, ⟨left, h⟩) => .ok (.string s, ⟨left, Nat.lt_succ_of_lt h⟩)
  | '[' :: rest =>
    have hs := length_skipSpace_le rest
    match h : skipSpace rest with
    | [] => endedIn .list
    | ']' :: left =>
      .ok (.array [], ⟨left, Nat.lt_succ_of_lt (length_lt_of_skipSpace h)⟩)
    | first :: more =>
      if maxNesting < depth then refuse .nestedTooDeeply (first :: more)
      else
        match items depth (skipSpace rest) with
        | .error e => .error e
        | .ok (xs, ⟨left, h⟩) =>
          .ok (.array xs, ⟨left, Nat.lt_succ_of_lt (Nat.lt_of_lt_of_le h hs)⟩)
  | '\x7b' :: rest =>
    have hs := length_skipSpace_le rest
    match h : skipSpace rest with
    | [] => endedIn .object
    | '\x7d' :: left =>
      .ok (.object [], ⟨left, Nat.lt_succ_of_lt (length_lt_of_skipSpace h)⟩)
    | _ =>
      match members depth (skipSpace rest) with
      | .error e => .error e
      | .ok (fs, ⟨left, h⟩) =>
        .ok (ofWritten fs, ⟨left, Nat.lt_succ_of_lt (Nat.lt_of_lt_of_le h hs)⟩)
  | cs =>
    match h : scalar cs with
    | .error e => .error e
    | .ok (v, rest) => .ok (v, ⟨rest, length_lt_of_scalar h⟩)
termination_by (cs.length, 0)

/-- The items of a list up to its closing bracket, of which there is at least one. -/
def items (depth : Nat) (cs : List Char) : Step cs (List Json) :=
  match value (depth + 1) cs with
  | .error e => .error e
  | .ok (x, ⟨rest, hr⟩) =>
    match h : skipSpace rest with
    | ']' :: left => .ok ([x], ⟨left, Nat.lt_trans (length_lt_of_skipSpace h) hr⟩)
    | ',' :: more =>
      have hm := Nat.lt_trans (length_skipSpace_lt h) hr
      match skipSpace more with
      | ']' :: left => refuse .trailingComma (']' :: left)
      | _ =>
        match items depth (skipSpace more) with
        | .error e => .error e
        | .ok (xs, ⟨left, hl⟩) => .ok (x :: xs, ⟨left, Nat.lt_trans hl hm⟩)
    | other => expected .list .expectedCommaInList other
termination_by (cs.length, 1)

/-- The fields of an object up to its closing brace, of which there is at least one. -/
def members (depth : Nat) (cs : List Char) : Step cs (List (String × Json)) :=
  match cs with
  | '"' :: rest =>
    match string [] rest with
    | .error e => .error e
    | .ok (key, ⟨afterKey, hk⟩) =>
      match h : skipSpace afterKey with
      | ':' :: more =>
        have hm := Nat.lt_trans (length_skipSpace_lt h) hk
        if maxNesting < depth then expected .value .nestedTooDeeply (skipSpace more)
        else
          match value (depth + 1) (skipSpace more) with
          | .error e => .error e
          | .ok (v, ⟨afterValue, hv⟩) =>
            have hv := Nat.lt_trans hv hm
            match h : skipSpace afterValue with
            | '\x7d' :: left =>
              .ok ([(key, v)],
                ⟨left, Nat.lt_succ_of_lt (Nat.lt_trans (length_lt_of_skipSpace h) hv)⟩)
            | ',' :: more =>
              have hm := Nat.lt_trans (length_skipSpace_lt h) hv
              match skipSpace more with
              | '\x7d' :: left => refuse .trailingComma ('\x7d' :: left)
              | _ =>
                match members depth (skipSpace more) with
                | .error e => .error e
                | .ok (fs, ⟨left, hl⟩) =>
                  .ok ((key, v) :: fs, ⟨left, Nat.lt_succ_of_lt (Nat.lt_trans hl hm)⟩)
            | other => expected .object .expectedCommaInObject other
      | other => expected .object .expectedColon other
  | other => expected .value .expectedKey other
termination_by (cs.length, 1)

end

/-- Read a document: a value with nothing but space around it. -/
def read (text : String) : Except Refusal Json :=
  match value 1 (skipSpace text.toList) with
  | .error e => .error e
  | .ok (v, ⟨rest, _⟩) =>
    let rest := skipSpace rest
    if rest.isEmpty then .ok v else refuse .trailingCharacters rest

/-- The wording of the part that a text ends in. -/
def Part.wording : Part → String
  | .value => "a value"
  | .list => "a list"
  | .object => "an object"
  | .string => "a string"

/-- The wording of a cause. -/
def Cause.wording : Cause → String
  | .ended part => "EOF while parsing " ++ part.wording
  | .expectedValue => "expected value"
  | .badWord => "expected ident"
  | .badNumber => "invalid number"
  | .numberTooLong => "number out of range"
  | .expectedKey => "key must be a string"
  | .expectedColon => "expected `:`"
  | .expectedCommaInList => "expected `,` or `]`"
  | .expectedCommaInObject => "expected `,` or `\x7d`"
  | .trailingComma => "trailing comma"
  | .controlCharacter => "control character (\\u0000-\\u001F) found while parsing a string"
  | .badEscape => "invalid escape"
  | .loneSurrogate => "lone leading surrogate in hex escape"
  | .unfinishedSurrogate => "unexpected end of hex escape"
  | .nestedTooDeeply => "recursion limit exceeded"
  | .trailingCharacters => "trailing characters"

namespace Refusal

/-- The line and the column of a fault. A column is the number of bytes of its line up to the end
of the character before and one more; a line feed counts as the nought of the next line, and the
end of the text as its last byte. -/
def place (text : List Char) (r : Refusal) : Nat × Nat :=
  let before := text.take (text.length - r.left)
  let bytes := byteCount (before.reverse.takeWhile (· != '\n'))
  let line := before.count '\n' + 1
  match text.drop before.length with
  | [] => (line, bytes)
  | c :: _ => if c = '\n' then (line + 1, 0) else (line, bytes + 1)

/-- The notice of a refusal: cause, line and column of the fault. -/
def message (text : String) (r : Refusal) : String :=
  let (line, column) := r.place text.toList
  r.cause.wording ++ " at line " ++ toString line ++ " column " ++ toString column

end Refusal
end CharacterSheet.Json.Bounded
