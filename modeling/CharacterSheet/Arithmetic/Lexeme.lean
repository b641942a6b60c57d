import CharacterSheet.Arithmetic.Operator
import CharacterSheet.Text.Alphanumeric
import CharacterSheet.Text.Letter
import CharacterSheet.Text.Literal

/-!
# Lexemes of arithmetic expressions

The first rule that matches at the front of a text gives the lexeme: an operator or a comment,
a number, a quoted text, a bracket or comma, a constant, a word operator, a function, a
variable, a blank. Main statement: reading a lexeme shortens the text.
-/

namespace CharacterSheet.Arithmetic
open Text

/-- The parts that an expression is written with. -/
inductive Lexeme where
  | operator (op : Binary)
  | comment
  | number (n : Number)
  | text (s : String)
  | opening
  | closing
  | comma
  | constant (x : Float)
  /-- An operator word that no blank follows. -/
  | wordOperator (op : Binary)
  | function (op : Unary)
  | variable (name : String)
  | blank
  deriving Repr

/-- Why reading stops: a fault of form where so many characters are left, or another error. -/
inductive Refusal where
  | form (fault : FormFault) (left : Nat)
  | other (error : Error)
  deriving Repr, DecidableEq

namespace Lexeme

/-- The operators in the order in which they are tried. -/
def symbols : List (String × Binary) := [
  ("**", .power), ("^", .power), ("%", .modulo), ("/", .divide), ("∙", .multiply),
  ("•", .multiply), ("*", .multiply), ("+", .add), ("-", .subtract), ("||", .concatenate),
  ("==", .compare .eq), ("!=", .compare .ne), ("<=", .compare .le), (">=", .compare .ge),
  ("<", .compare .lt), (">", .compare .gt), ("in ", .member), ("not ", .negation),
  ("and ", .conjunction), ("xor ", .exclusive), ("or ", .disjunction)]

/-- The operator words that are read as functions when no blank follows. -/
def operatorWords : List (String × Binary) := [
  ("and", .conjunction), ("xor", .exclusive), ("or", .disjunction), ("in", .member),
  ("D", .dice)]

/-- The words for functions of one operand. -/
def functionWords : List (String × Unary) := [
  ("sin", .real .sin), ("cos", .real .cos), ("tan", .real .tan), ("asin", .real .asin),
  ("acos", .real .acos), ("atan", .real .atan), ("sind", .real .sinDegrees),
  ("cosd", .real .cosDegrees), ("tand", .real .tanDegrees), ("asind", .real .asinDegrees),
  ("acosd", .real .acosDegrees), ("atand", .real .atanDegrees), ("sqrt", .real .sqrt),
  ("abs", .absolute), ("ceil", .ceiling), ("floor", .floor), ("round", .round),
  ("not", .negation), ("exp", .real .exp)]

/-- The constants. -/
def constants : List (String × Float) := [("E", euler), ("PI", pi)]

/-- The operator at the front of a text, with the rest. -/
def readSymbol? (cs : List Char) : Option (Binary × List Char) :=
  symbols.findSome? fun (word, op) ↦ (after? word.toList cs).map (op, ·)

/-- What follows the first end of a comment. -/
def afterComment? : List Char → Option (List Char)
  | '*' :: '/' :: rest => some rest
  | _ :: rest => afterComment? rest
  | [] => none

/-- The first character of a text, if it is of a kind. -/
def optionalChar (p : Char → Bool) (cs : List Char) : List Char := (cs.take 1).filter p

/-- A numeral with an exponent at the front of a text, with the rest. -/
def scientific? (cs : List Char) : Option (List Char × List Char) :=
  let whole := cs.takeWhile Char.isDigit
  let rest := cs.dropWhile Char.isDigit
  let point := optionalChar (· = '.') rest
  let fraction := (rest.drop point.length).takeWhile Char.isDigit
  let rest := (rest.drop point.length).dropWhile Char.isDigit
  match rest with
  | e :: more =>
    if e = 'e' || e = 'E' then
      let sign := optionalChar (fun c ↦ c = '-' || c = '+') more
      let power := (more.drop sign.length).takeWhile Char.isDigit
      if power.isEmpty then none
      else
        some (whole ++ point ++ fraction ++ e :: sign ++ power,
          (more.drop sign.length).dropWhile Char.isDigit)
    else none
  | [] => none

/-- Whether a character belongs to a numeral without exponent. -/
def isNumeralChar (c : Char) : Bool := c.isDigit || c = '.'

/-- The number of a run of digits and points, which is refused at a second point. Without a
point it is an integer, unless it is too long for one. -/
def plainNumber (run : List Char) : Except NumeralError Number :=
  let run := if run.head? = some '.' then '0' :: run else run
  let whole := run.takeWhile (· != '.')
  match run.dropWhile (· != '.') with
  | [] =>
    .ok (if whole.length ≤ maxDigits then .int (digitsValue whole)
      else .float (Binary64.ofDecimal false (digitsValue whole) 0))
  | _ :: tail =>
    let fraction := tail.takeWhile (· != '.')
    if fraction.length = tail.length then
      .ok (.float (Binary64.ofDecimal false (digitsValue (whole ++ fraction)) (-fraction.length)))
    else .error (.notANumber (String.ofList (whole ++ '.' :: fraction ++ ['.'])))

/-- The number at the front of a text, with the rest. The letter `E` starts no number. -/
def readNumber (cs : List Char) : Except Refusal (Option (Number × List Char)) :=
  if cs.head? = some 'E' then .ok none
  else
    match scientific? cs with
    | some (numeral, rest) =>
      match Numeral.readFloat (String.ofList numeral) with
      | .ok x => .ok (some (.float x, rest))
      | .error e => .error (.other (.numeral e))
    | none =>
      let run := cs.takeWhile isNumeralChar
      if run.isEmpty then .ok none
      else
        match plainNumber run with
        | .ok n => .ok (some (n, cs.dropWhile isNumeralChar))
        | .error e => .error (.other (.numeral e))

/-- The characters up to a closing mark that no backslash precedes, with the rest behind it. -/
def quotedContent? (mark : Char) (escaped : Bool) : List Char → Option (List Char × List Char)
  | [] => none
  | c :: cs =>
    if c = mark && !escaped then some ([], cs)
    else (quotedContent? mark (c = '\\') cs).map fun (content, rest) ↦ (c :: content, rest)

/-- The characters that may follow a backslash, with what they stand for. -/
def escapes : List (Char × Char) := [
  ('\'', '\''), ('\\', '\\'), ('/', '/'), ('b', '\x08'), ('f', '\x0c'), ('n', '\n'),
  ('r', '\r'), ('t', '\t')]

/-- The text of quoted characters. It ends with the first escape. `left` is what is left of the
expression where the index of the characters would be nought. -/
def unescape (left : Nat) : List Char → Except Refusal (List Char)
  | [] => .ok []
  | '\\' :: c :: _ =>
    match escapes.lookup c with
    | some d => .ok [d]
    | none =>
      if c = 'u' then .error (.other .wrongType)
      else .error (.form (.illegalEscape c) (left - 1))
  | c :: cs => if c = '\\' then .ok [] else (unescape (left - 1) cs).map (c :: ·)

/-- Whether a character may go on a word of letters. -/
def isWordChar (c : Char) : Bool := isTwoCaseLetter c || c = '_' || c.isDigit

/-- The word of letters at the front of a text. -/
def wordOf (cs : List Char) : List Char :=
  match cs with
  | c :: _ => if isTwoCaseLetter c then cs.takeWhile isWordChar else []
  | [] => []

/-- How many characters of a text belong to the name of a variable; between quotation marks
every character does. -/
def nameLength (inQuotes : Bool) : List Char → Nat
  | [] => 0
  | c :: cs =>
    if isWordChar c || c = '.' || c = '"' || inQuotes then
      nameLength (if c = '"' then !inQuotes else inQuotes) cs + 1
    else 0

/-- The name at the front of a text, with the rest. -/
def readName? (cs : List Char) : Option (List Char × List Char) :=
  match cs with
  | c :: _ =>
    if isTwoCaseLetter c || c = '"' then
      let n := nameLength false cs
      some (cs.take n, cs.drop n)
    else none
  | [] => none

/-- The constant at the front of a text, with the rest; no letter or digit may follow it. -/
def readConstant? (cs : List Char) : Option (Float × List Char) :=
  constants.findSome? fun (word, x) ↦
    match after? word.toList cs with
    | some rest =>
      match rest.head? with
      | some c => if isAlphanumeric c || c = '_' then none else some (x, rest)
      | none => some (x, rest)
    | none => none

/-- The lexeme at the front of a text that starts with neither operator nor number nor quoted
text, with the rest. -/
def readMark (cs : List Char) : Except Refusal (Lexeme × List Char) :=
  match cs with
  | [] => .error (.other .textEnded)
  | c :: rest =>
    if c = '(' then .ok (.opening, rest)
    else if c = ')' then .ok (.closing, rest)
    else if c = ',' then .ok (.comma, rest)
    else
      match readConstant? cs with
      | some (x, rest) => .ok (.constant x, rest)
      | none =>
        let word := String.ofList (wordOf cs)
        match operatorWords.lookup word with
        | some op => .ok (.wordOperator op, cs.drop (wordOf cs).length)
        | none =>
          match functionWords.lookup word with
          | some op => .ok (.function op, cs.drop (wordOf cs).length)
          | none =>
            match readName? cs with
            | some (name, rest) => .ok (.variable (String.ofList name), rest)
            | none =>
              if isBlank c then .ok (.blank, rest)
              else .error (.form .unknownCharacter cs.length)

/-- The lexeme at the front of a text, with the rest. -/
def read (cs : List Char) : Except Refusal (Lexeme × List Char) :=
  match readSymbol? cs with
  | some (op, rest) =>
    if op = .divide then
      match rest with
      | [] => .error (.other .textEnded)
      | '*' :: _ =>
        match afterComment? rest with
        | some behind => .ok (.comment, behind)
        | none => .error (.other .unclosedComment)
      | _ => .ok (.operator op, rest)
    else .ok (.operator op, rest)
  | none =>
    match readNumber cs with
    | .error e => .error e
    | .ok (some (n, rest)) => .ok (.number n, rest)
    | .ok none =>
      match cs with
      | c :: inner =>
        if c = '\'' || c = '"' then
          match quotedContent? c false inner with
          | none => .error (.other .textEnded)
          | some (content, rest) =>
            (unescape cs.length content).map fun s ↦ (.text (String.ofList s), rest)
        else readMark cs
      | [] => readMark cs

theorem length_dropWhile_le (p : Char → Bool) (cs : List Char) :
    (cs.dropWhile p).length ≤ cs.length := by
  have := congrArg List.length (List.takeWhile_append_dropWhile (p := p) (l := cs))
  simp only [List.length_append] at this
  omega

/-- An operator that was read is followed by the rest. -/
theorem length_lt_of_readSymbol? {cs rest : List Char} {op : Binary}
    (h : readSymbol? cs = some (op, rest)) : rest.length < cs.length := by
  obtain ⟨before, ⟨word, o⟩, after, hs, ht, -⟩ := List.findSome?_eq_some_iff.mp h
  obtain ⟨r, hr, he⟩ := Option.map_eq_some_iff.mp ht
  obtain ⟨rfl, rfl⟩ := Prod.mk.inj he
  have hw : ∀ entry ∈ symbols, 0 < entry.1.toList.length := by decide
  have : 0 < word.toList.length := hw (word, o) (by rw [hs]; simp)
  have hl := congrArg List.length (after?_eq_some_iff.mp hr)
  simp only [List.length_append] at hl
  omega

theorem length_lt_of_afterComment? {cs rest : List Char} (h : afterComment? cs = some rest) :
    rest.length < cs.length := by
  fun_induction afterComment? cs with
  | case1 r =>
    obtain rfl := Option.some.inj h
    simp only [List.length_cons]
    omega
  | case2 c r _ ih =>
    have := ih h
    simp only [List.length_cons]
    omega
  | case3 => simp at h

theorem length_lt_of_scientific? {cs numeral rest : List Char}
    (h : scientific? cs = some (numeral, rest)) : rest.length < cs.length := by
  unfold scientific? at h
  dsimp only at h
  split at h
  · next e more he =>
    split at h
    · split at h
      · simp at h
      · have h1 := length_dropWhile_le Char.isDigit cs
        generalize optionalChar (· = '.') (cs.dropWhile Char.isDigit) = point at he
        have h2 := length_dropWhile_le Char.isDigit ((cs.dropWhile Char.isDigit).drop point.length)
        rw [he] at h2
        simp only [List.length_drop, List.length_cons] at h2
        obtain ⟨-, rfl⟩ := Prod.mk.inj (Option.some.inj h)
        generalize optionalChar (fun c ↦ c = '-' || c = '+') more = sign
        have h3 := length_dropWhile_le Char.isDigit (more.drop sign.length)
        simp only [List.length_drop] at h3
        omega
    · simp at h
  · simp at h

theorem length_lt_of_readNumber {cs rest : List Char} {n : Number}
    (h : readNumber cs = .ok (some (n, rest))) : rest.length < cs.length := by
  unfold readNumber at h
  split at h
  · simp at h
  · split at h
    · next hs =>
      split at h
      · simp only [Except.ok.injEq, Option.some.injEq, Prod.mk.injEq] at h
        obtain ⟨-, rfl⟩ := h
        exact length_lt_of_scientific? hs
      · simp at h
    · dsimp only at h
      split at h
      · simp at h
      · next hr =>
        split at h
        · simp only [Except.ok.injEq, Option.some.injEq, Prod.mk.injEq] at h
          obtain ⟨-, rfl⟩ := h
          have := congrArg List.length
            (List.takeWhile_append_dropWhile (p := isNumeralChar) (l := cs))
          have hp : 0 < (cs.takeWhile isNumeralChar).length := by
            cases hc : cs.takeWhile isNumeralChar with
            | nil => simp [hc] at hr
            | cons => simp
          simp only [List.length_append] at this
          omega
        · simp at h

theorem length_le_of_quotedContent? {mark : Char} {escaped : Bool} {cs content rest : List Char}
    (h : quotedContent? mark escaped cs = some (content, rest)) : rest.length ≤ cs.length := by
  induction cs generalizing escaped content with
  | nil => simp [quotedContent?] at h
  | cons c cs ih =>
    unfold quotedContent? at h
    split at h
    · obtain ⟨-, rfl⟩ := Prod.mk.inj (Option.some.inj h)
      simp
    · obtain ⟨⟨d, r⟩, hr, he⟩ := Option.map_eq_some_iff.mp h
      obtain ⟨-, rfl⟩ := Prod.mk.inj he
      have := ih hr
      simp only [List.length_cons]
      omega

theorem length_lt_of_readConstant? {cs rest : List Char} {x : Float}
    (h : readConstant? cs = some (x, rest)) : rest.length < cs.length := by
  obtain ⟨before, ⟨word, y⟩, after, hs, ht, -⟩ := List.findSome?_eq_some_iff.mp h
  have hw : 0 < word.toList.length := by
    have : (word, y) ∈ constants := by rw [hs]; simp
    simp only [constants, List.mem_cons, Prod.mk.injEq, List.not_mem_nil, or_false] at this
    rcases this with ⟨rfl, -⟩ | ⟨rfl, -⟩ <;> decide
  have shorter {r : List Char} (hr : after? word.toList cs = some r) : r.length < cs.length := by
    rw [after?_eq_some_iff.mp hr, List.length_append]
    omega
  dsimp only at ht
  split at ht
  · next r hr =>
    split at ht
    · split at ht
      · simp at ht
      · obtain ⟨-, rfl⟩ := Prod.mk.inj (Option.some.inj ht)
        exact shorter hr
    · obtain ⟨-, rfl⟩ := Prod.mk.inj (Option.some.inj ht)
      exact shorter hr
  · simp at ht

/-- A word that is looked up among words that are not empty is not empty itself. -/
theorem wordOf_ne_nil {α : Type} {entries : List (String × α)} {cs : List Char} {a : α}
    (hw : entries.lookup "" = none) (h : entries.lookup (String.ofList (wordOf cs)) = some a) :
    0 < (wordOf cs).length := by
  cases hc : wordOf cs with
  | nil =>
    rw [hc] at h
    rw [show String.ofList [] = "" from rfl, hw] at h
    simp at h
  | cons => simp

theorem length_wordOf_le (cs : List Char) : (wordOf cs).length ≤ cs.length := by
  unfold wordOf
  split
  · split
    · exact (List.takeWhile_prefix _).length_le
    · simp
  · simp

theorem length_lt_of_readName? {cs name rest : List Char}
    (h : readName? cs = some (name, rest)) : rest.length < cs.length := by
  unfold readName? at h
  split at h
  · next c tail =>
    split at h
    · next hc =>
      obtain ⟨-, rfl⟩ := Prod.mk.inj (Option.some.inj h)
      have : 0 < nameLength false (c :: tail) := by
        have : isWordChar c || c = '.' || c = '"' || false := by
          simp only [Bool.or_eq_true] at hc
          rcases hc with hc | hc <;> simp [isWordChar, hc]
        simp only [nameLength, this, ↓reduceIte]
        omega
      simp only [List.length_drop, List.length_cons]
      omega
    · simp at h
  · simp at h

theorem length_lt_of_readMark {cs rest : List Char} {l : Lexeme}
    (h : readMark cs = .ok (l, rest)) : rest.length < cs.length := by
  unfold readMark at h
  split at h
  · simp at h
  · next c tail =>
    have single {m : Lexeme} (h : (.ok (m, tail) : Except Refusal (Lexeme × List Char)) =
        .ok (l, rest)) : rest.length < (c :: tail).length := by
      obtain ⟨-, rfl⟩ := Prod.mk.inj (Except.ok.inj h)
      simp
    split at h
    · exact single h
    · split at h
      · exact single h
      · split at h
        · exact single h
        · split at h
          · next hk =>
            obtain ⟨-, rfl⟩ := Prod.mk.inj (Except.ok.inj h)
            exact length_lt_of_readConstant? hk
          · dsimp only at h
            have hle := length_wordOf_le (c :: tail)
            split at h
            · next hk =>
              obtain ⟨-, rfl⟩ := Prod.mk.inj (Except.ok.inj h)
              have := wordOf_ne_nil (by decide) hk
              simp only [List.length_drop]
              omega
            · split at h
              · next hk =>
                obtain ⟨-, rfl⟩ := Prod.mk.inj (Except.ok.inj h)
                have := wordOf_ne_nil (by decide) hk
                simp only [List.length_drop]
                omega
              · split at h
                · next hk =>
                  obtain ⟨-, rfl⟩ := Prod.mk.inj (Except.ok.inj h)
                  exact length_lt_of_readName? hk
                · split at h
                  · exact single h
                  · simp at h

/-- Reading a lexeme shortens the text. -/
theorem length_lt_of_read {cs rest : List Char} {l : Lexeme} (h : read cs = .ok (l, rest)) :
    rest.length < cs.length := by
  unfold read at h
  split at h
  · next op r hs =>
    have hr := length_lt_of_readSymbol? hs
    have single {m : Lexeme} (h : (.ok (m, r) : Except Refusal (Lexeme × List Char)) =
        .ok (l, rest)) : rest.length < cs.length := by
      obtain ⟨-, rfl⟩ := Prod.mk.inj (Except.ok.inj h)
      exact hr
    split at h
    · split at h
      · simp at h
      · split at h
        · next hc =>
          obtain ⟨-, rfl⟩ := Prod.mk.inj (Except.ok.inj h)
          have := length_lt_of_afterComment? hc
          omega
        · simp at h
      · exact single h
    · exact single h
  · split at h
    · simp at h
    · next hn =>
      obtain ⟨-, rfl⟩ := Prod.mk.inj (Except.ok.inj h)
      exact length_lt_of_readNumber hn
    · cases cs with
      | nil => exact length_lt_of_readMark h
      | cons c inner =>
        dsimp only at h
        split at h
        · split at h
          · simp at h
          · next content r hq =>
            cases hu : unescape (c :: inner).length content with
            | error e =>
              rw [hu] at h
              simp [Except.map] at h
            | ok s =>
              rw [hu] at h
              obtain ⟨-, rfl⟩ := Prod.mk.inj (Except.ok.inj h)
              have := length_le_of_quotedContent? hq
              simp only [List.length_cons]
              omega
        · exact length_lt_of_readMark h

end Lexeme
end CharacterSheet.Arithmetic
