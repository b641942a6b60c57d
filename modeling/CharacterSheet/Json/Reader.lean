import CharacterSheet.Json

/-!
# Reading documents from text

A recursive descent over the characters. Each step returns what is left of the text with a
proof that it is shorter, so reading ends. A refusal names its cause and two places, both
given by how much of the text is left there: where the refused item starts and where the fault
was met. A text with an escape of a surrogate that stands alone is kept as its code points.
-/

namespace CharacterSheet.Json

/-- Why a text is no document. -/
inductive ReadCause where
  | byteOrderMark
  | expectedValue
  | expectedKey
  | expectedColon
  | expectedCommaInArray
  | expectedCommaInObject
  | trailingCommaInArray
  | trailingCommaInObject
  | unterminatedString
  | controlCharacter
  | badEscape
  | badUnicodeEscape
  /-- A key in which a surrogate stands alone. Keys are texts of characters here. -/
  | unpairedKey
  | numeral (error : NumeralError)
  | extraData
  deriving Repr, DecidableEq

/-- A refusal: its cause, what was left where the refused item starts, and what was left
where the fault was met. -/
structure ReadError where
  cause : ReadCause
  leftAtStart : Nat
  leftAtFault : Nat
  deriving Repr, DecidableEq

namespace Reader
open Text (CodePoint)

/-- A suffix that is shorter than the text `cs`. -/
abbrev Rest (cs : List Char) := { rest : List Char // rest.length < cs.length }

/-- The result of reading an item at the front of `cs`. -/
abbrev Step (cs : List Char) (α : Type) := Except ReadError (α × Rest cs)

/-- A refusal at the front of `cs`. -/
def refuse {α : Type} (cause : ReadCause) (cs : List Char) : Except ReadError α :=
  .error ⟨cause, cs.length, cs.length⟩

/-- Whether a character is insignificant between items. -/
def isSpace (c : Char) : Bool := c = ' ' || c = '\t' || c = '\n' || c = '\r'

/-- A text from its first significant character on. -/
def skipSpace (cs : List Char) : List Char := cs.dropWhile isSpace

theorem length_dropWhile_le (p : Char → Bool) (cs : List Char) :
    (cs.dropWhile p).length ≤ cs.length := by
  induction cs with
  | nil => simp
  | cons c cs ih =>
    simp only [List.dropWhile_cons]
    split
    · exact Nat.le_succ_of_le ih
    · exact Nat.le_refl _

/-- Skipping never lengthens a text. -/
theorem length_skipSpace_le (cs : List Char) : (skipSpace cs).length ≤ cs.length :=
  length_dropWhile_le _ _

/-- What follows the first significant character is shorter than the text. -/
theorem length_lt_of_skipSpace {cs rest : List Char} {c : Char} (h : skipSpace cs = c :: rest) :
    rest.length < cs.length := by
  have hs := length_skipSpace_le cs
  rw [h, List.length_cons] at hs
  exact hs

/-- So is what follows the space behind that character. -/
theorem length_skipSpace_lt {cs rest : List Char} {c : Char} (h : skipSpace cs = c :: rest) :
    (skipSpace rest).length < cs.length :=
  Nat.lt_of_le_of_lt (length_skipSpace_le rest) (length_lt_of_skipSpace h)

/-- The value of a hexadecimal digit. -/
def hexValue? (c : Char) : Option Nat :=
  if '0' ≤ c && c ≤ '9' then some (c.toNat - 0x30)
  else if 'a' ≤ c && c ≤ 'f' then some (c.toNat - 0x57)
  else if 'A' ≤ c && c ≤ 'F' then some (c.toNat - 0x37)
  else none

/-- The value of four hexadecimal digits. -/
def hexQuad? (a b c d : Char) : Option Nat := do
  return 4096 * (← hexValue? a) + 256 * (← hexValue? b) + 16 * (← hexValue? c) + (← hexValue? d)

/-- A code unit after which a second one follows. -/
def isLeading (n : Nat) : Bool := 0xD800 ≤ n && n < 0xDC00

/-- A code unit that follows another one. -/
def isTrailing (n : Nat) : Bool := 0xDC00 ≤ n && n < 0xE000

/-- The character of an escape of one letter. -/
def simpleEscape? (c : Char) : Option Char :=
  if c = '"' || c = '\\' || c = '/' then some c
  else if c = 'b' then some '\x08'
  else if c = 'f' then some '\x0c'
  else if c = 'n' then some '\n'
  else if c = 'r' then some '\r'
  else if c = 't' then some '\t'
  else none

/-- The code point of a code unit that is no part of a pair. -/
def codePoint (unit : Nat) : CodePoint :=
  if isLeading unit || isTrailing unit then .surrogate unit else .char (Char.ofNat unit)

/-- The code point of a numbered escape, whose digits are the front of `cs`; two code units in a
row make one character, and a surrogate that is no part of such a pair stays what it is. `letter`
is the text from the letter `u` on. -/
def numberedEscape (letter cs : List Char) : Except ReadError (CodePoint × List Char) :=
  match cs with
  | a :: b :: c :: d :: rest =>
    if rest.isEmpty then refuse .badUnicodeEscape letter
    else
      match hexQuad? a b c d with
      | none => refuse .badUnicodeEscape letter
      | some high =>
        let alone := .ok (codePoint high, rest)
        if isLeading high then
          match rest with
          | '\\' :: 'u' :: e :: f :: g :: h :: more =>
            match hexQuad? e f g h with
            | some low =>
              if isTrailing low && !more.isEmpty then
                .ok (.char (Char.ofNat (0x10000 + (high - 0xD800) * 0x400 + (low - 0xDC00))), more)
              else alone
            | none => alone
          | _ => alone
        else alone
  | _ => refuse .badUnicodeEscape letter

/-- A numbered escape takes characters away. -/
theorem numberedEscape_length {letter cs : List Char} {r : CodePoint × List Char}
    (h : numberedEscape letter cs = .ok r) : r.2.length < cs.length := by
  unfold numberedEscape refuse at h
  split at h
  · next a b c d rest =>
    split at h
    · simp at h
    · split at h
      · simp at h
      · have small : rest.length < (a :: b :: c :: d :: rest).length := by simp; omega
        dsimp only at h
        split at h
        · split at h
          · next e f g k more =>
            split at h
            · split at h
              · rw [← Except.ok.inj h]
                simp only [List.length_cons]
                omega
              · rw [← Except.ok.inj h]
                exact small
            · rw [← Except.ok.inj h]
              exact small
          · rw [← Except.ok.inj h]
            exact small
        · rw [← Except.ok.inj h]
          exact small
  · simp at h

/-- The rest of a text whose opening mark was the front of `start`, up to the closing mark. The
code points read so far are given in reverse. -/
def stringBody (start : Nat) (read : List CodePoint) (cs : List Char) :
    Except ReadError (List CodePoint × { rest : List Char // rest.length ≤ cs.length }) :=
  match cs with
  | [] => .error ⟨.unterminatedString, start, 0⟩
  | '"' :: rest => .ok (read.reverse, ⟨rest, by simp⟩)
  | '\\' :: rest =>
    match rest with
    | [] => .error ⟨.unterminatedString, start, 0⟩
    | 'u' :: quad =>
      match h : numberedEscape rest quad with
      | .error e => .error e
      | .ok (c, more) =>
        have := numberedEscape_length h
        match stringBody start (c :: read) more with
        | .error e => .error e
        | .ok (ps, ⟨tail, ht⟩) => .ok (ps, ⟨tail, by simp; simp at this; omega⟩)
    | e :: more =>
      match simpleEscape? e with
      | none => refuse .badEscape cs
      | some c =>
        match stringBody start (.char c :: read) more with
        | .error e => .error e
        | .ok (ps, ⟨tail, ht⟩) => .ok (ps, ⟨tail, by simp; omega⟩)
  | c :: rest =>
    if c.toNat < 0x20 then refuse .controlCharacter cs
    else
      match stringBody start (.char c :: read) rest with
      | .error e => .error e
      | .ok (ps, ⟨tail, ht⟩) => .ok (ps, ⟨tail, by simp; omega⟩)
termination_by cs.length
decreasing_by
  · simp only [List.length_cons]; simp only at this; omega
  · simp only [List.length_cons]; omega
  · simp only [List.length_cons]; omega

/-- The rest of a key whose opening mark was the front of `start`: of a text without surrogates. -/
def keyBody (start : Nat) (cs : List Char) :
    Except ReadError (String × { rest : List Char // rest.length ≤ cs.length }) :=
  match stringBody start [] cs with
  | .error e => .error e
  | .ok (ps, rest) =>
    match Text.ofPoints? ps with
    | some key => .ok (key, rest)
    | none => .error ⟨.unpairedKey, start, start⟩

/-- The longest numeral at the front of a text, in three parts with the rest: whole part with
its sign, fraction and exponent. -/
def splitNumber? (cs : List Char) : Option (Bool × List Char × List Char × List Char × List Char) :=
  let negative := cs.head? == some '-'
  let body := if negative then cs.drop 1 else cs
  let whole :=
    match body with
    | '0' :: _ => ['0']
    | _ => body.takeWhile Char.isDigit
  if whole.isEmpty then none
  else
    let rest := body.drop whole.length
    let fraction :=
      match rest with
      | '.' :: more => more.takeWhile Char.isDigit
      | _ => []
    let rest := if fraction.isEmpty then rest else rest.drop (fraction.length + 1)
    let power :=
      match rest with
      | e :: more =>
        if e = 'e' || e = 'E' then
          let sign := match more with
            | '+' :: _ => ['+']
            | '-' :: _ => ['-']
            | _ => []
          let ds := (more.drop sign.length).takeWhile Char.isDigit
          if ds.isEmpty then [] else sign ++ ds
        else []
      | [] => []
    let rest := if power.isEmpty then rest else rest.drop (power.length + 1)
    some (negative, whole, fraction, power, rest)

/-- The number of the parts of a numeral: an integer if there is neither fraction nor exponent. -/
def numberOf (negative : Bool) (whole fraction power : List Char) : Except NumeralError Number :=
  if fraction.isEmpty && power.isEmpty then
    (Numeral.readDigits whole).map fun n ↦ .int (Numeral.withSign negative n)
  else
    let (down, ds) := Numeral.splitSign power
    let e := Numeral.withSign down (Text.digitsValue ds)
    .ok (.float (Binary64.ofDecimal negative (Text.digitsValue (whole ++ fraction))
      (e - fraction.length)))

/-- The words that are values. -/
def words : List (List Char × Json) := [
  ("null".toList, .null),
  ("true".toList, .bool true),
  ("false".toList, .bool false),
  ("NaN".toList, .number (.float Binary64.notANumber)),
  ("Infinity".toList, .number (.float (Binary64.infinity false))),
  ("-Infinity".toList, .number (.float (Binary64.infinity true)))]

/-- A word or a number at the front of a text. -/
def scalar (cs : List Char) : Step cs Json :=
  match words.find? fun (word, _) ↦ word.isPrefixOf cs with
  | some (word, value) =>
    if h : (cs.drop word.length).length < cs.length then .ok (value, ⟨_, h⟩)
    else refuse .expectedValue cs
  | none =>
    match splitNumber? cs with
    | some (negative, whole, fraction, power, rest) =>
      match numberOf negative whole fraction power with
      | .error e => refuse (.numeral e) cs
      | .ok n => if h : rest.length < cs.length then .ok (.number n, ⟨rest, h⟩)
        else refuse .expectedValue cs
    | none => refuse .expectedValue cs

mutual

/-- A value at the front of a text that starts with no space. -/
def value (cs : List Char) : Step cs Json :=
  match cs with
  | [] => refuse .expectedValue []
  | '"' :: rest =>
    match stringBody (rest.length + 1) [] rest with
    | .error e => .error e
    | .ok (ps, ⟨tail, h⟩) => .ok (ofPoints ps, ⟨tail, Nat.lt_succ_of_le h⟩)
  | '[' :: rest =>
    have hs := length_skipSpace_le rest
    match h : skipSpace rest with
    | ']' :: tail =>
      .ok (.array [], ⟨tail, Nat.lt_succ_of_lt (length_lt_of_skipSpace h)⟩)
    | _ =>
      match items (skipSpace rest) with
      | .error e => .error e
      | .ok (xs, ⟨tail, ht⟩) =>
        .ok (.array xs, ⟨tail, Nat.lt_succ_of_lt (Nat.lt_of_lt_of_le ht hs)⟩)
  | '\x7b' :: rest =>
    have hs := length_skipSpace_le rest
    match h : skipSpace rest with
    | '\x7d' :: tail =>
      .ok (.object [], ⟨tail, Nat.lt_succ_of_lt (length_lt_of_skipSpace h)⟩)
    | _ =>
      match members (skipSpace rest) with
      | .error e => .error e
      | .ok (fs, ⟨tail, ht⟩) =>
        .ok (.object (Fields.ofEntries fs), ⟨tail, Nat.lt_succ_of_lt (Nat.lt_of_lt_of_le ht hs)⟩)
  | c :: rest => scalar (c :: rest)
termination_by 2 * cs.length

/-- The items of a list up to its closing bracket, of which there is at least one. -/
def items (cs : List Char) : Step cs (List Json) :=
  match value cs with
  | .error e => .error e
  | .ok (x, ⟨rest, hr⟩) =>
    match h : skipSpace rest with
    | ']' :: tail => .ok ([x], ⟨tail, Nat.lt_trans (length_lt_of_skipSpace h) hr⟩)
    | ',' :: more =>
      have hm := Nat.lt_trans (length_skipSpace_lt h) hr
      match skipSpace more with
      | ']' :: tail => refuse .trailingCommaInArray (']' :: tail)
      | _ =>
        match items (skipSpace more) with
        | .error e => .error e
        | .ok (xs, ⟨tail, ht⟩) => .ok (x :: xs, ⟨tail, Nat.lt_trans ht hm⟩)
    | other => refuse .expectedCommaInArray other
termination_by 2 * cs.length + 1

/-- The fields of an object up to its closing brace, of which there is at least one. -/
def members (cs : List Char) : Step cs (List (String × Json)) :=
  match cs with
  | '"' :: rest =>
    match keyBody (rest.length + 1) rest with
    | .error e => .error e
    | .ok (key, ⟨afterKey, hk⟩) =>
      match h : skipSpace afterKey with
      | ':' :: more =>
        have hm := Nat.lt_of_lt_of_le (length_skipSpace_lt h) hk
        match value (skipSpace more) with
        | .error e => .error e
        | .ok (v, ⟨afterValue, hv⟩) =>
          have hv := Nat.lt_trans hv hm
          match h : skipSpace afterValue with
          | '\x7d' :: tail =>
            .ok ([(key, v)],
              ⟨tail, Nat.lt_succ_of_lt (Nat.lt_trans (length_lt_of_skipSpace h) hv)⟩)
          | ',' :: more =>
            have hm := Nat.lt_trans (length_skipSpace_lt h) hv
            match skipSpace more with
            | '\x7d' :: tail => refuse .trailingCommaInObject ('\x7d' :: tail)
            | _ =>
              match members (skipSpace more) with
              | .error e => .error e
              | .ok (fs, ⟨tail, ht⟩) =>
                .ok ((key, v) :: fs, ⟨tail, Nat.lt_succ_of_lt (Nat.lt_trans ht hm)⟩)
          | other => refuse .expectedCommaInObject other
      | other => refuse .expectedColon other
  | other => refuse .expectedKey other
termination_by 2 * cs.length + 1

end

/-- The place of a fault: line, column and offset, the first two counted from one. -/
structure Place where
  line : Nat
  column : Nat
  offset : Nat

/-- The place in a text where so many characters are left. -/
def place (text : List Char) (left : Nat) : Place :=
  let before := text.take (text.length - left)
  let lastLine := (before.reverse.takeWhile (· != '\n')).length
  ⟨before.count '\n' + 1, lastLine + 1, before.length⟩

end Reader

open Reader

/-- Read a document: a value with nothing but space around it, however deep it is nested. -/
def read (text : String) : Except ReadError Json :=
  let cs := text.toList
  if cs.head? == some '\uFEFF' then refuse .byteOrderMark cs
  else
    match value (skipSpace cs) with
    | .error e => .error e
    | .ok (v, ⟨rest, _⟩) =>
      let rest := skipSpace rest
      if rest.isEmpty then .ok v else refuse .extraData rest

namespace ReadError

/-- The notice of a refusal: cause, line, column and offset of the refused item. -/
def message (text : String) (e : ReadError) : String :=
  let located (what : String) (left : Nat) : String :=
    let p := place text.toList left
    what ++ ": line " ++ toString p.line ++ " column " ++ toString p.column ++
      " (char " ++ toString p.offset ++ ")"
  match e.cause with
  | .byteOrderMark => located "Unexpected UTF-8 BOM (decode using utf-8-sig)" e.leftAtStart
  | .expectedValue | .trailingCommaInArray => located "Expecting value" e.leftAtStart
  | .expectedKey | .trailingCommaInObject =>
    located "Expecting property name enclosed in double quotes" e.leftAtFault
  | .expectedColon => located "Expecting ':' delimiter" e.leftAtFault
  | .expectedCommaInArray | .expectedCommaInObject =>
    located "Expecting ',' delimiter" e.leftAtFault
  | .unterminatedString => located "Unterminated string starting at" e.leftAtStart
  | .controlCharacter => located "Invalid control character at" e.leftAtFault
  | .badEscape => located "Invalid \\escape" e.leftAtFault
  | .badUnicodeEscape => located "Invalid \\uXXXX escape" e.leftAtFault
  | .unpairedKey => located "Unpaired surrogate in a property name" e.leftAtStart
  | .numeral error => error.message
  | .extraData => located "Extra data" e.leftAtFault

end ReadError
end CharacterSheet.Json
