import CharacterSheet.Arithmetic.Lists
import CharacterSheet.Number.Places
import CharacterSheet.Text.Literal

/-!
# Templates

The remainder of a text is the text with its placeholders filled in. A placeholder is a percent
sign, perhaps a key between brackets, flags, a width, a precision, a length mark without meaning,
and a letter for the way in which the argument is written. There is one argument: a placeholder
without a key takes it whole and only the first can, a key takes an entry of it. Main statement:
a placeholder that was read leaves less text.
-/

namespace CharacterSheet.Arithmetic

/-- The ways to write an argument. -/
inductive Conversion where
  | display
  | spelling
  | ascii
  | decimal
  | octal
  | hexadecimal (upper : Bool)
  | styled (style : Decimal.Style) (upper : Bool)
  | character
  deriving Repr, DecidableEq

namespace Conversion

/-- The conversions by their letters. -/
def letters : List (Char × Conversion) := [
  ('s', .display), ('r', .spelling), ('a', .ascii), ('d', .decimal), ('i', .decimal),
  ('u', .decimal), ('o', .octal), ('x', .hexadecimal false), ('X', .hexadecimal true),
  ('e', .styled .scientific false), ('E', .styled .scientific true), ('f', .styled .fixed false),
  ('F', .styled .fixed true), ('g', .styled .general false), ('G', .styled .general true),
  ('c', .character)]

/-- Whether the argument is written as a text, of which a precision keeps the beginning. -/
def isTextual : Conversion → Bool
  | .display | .spelling | .ascii => true
  | _ => false

/-- Whether the argument is written as a number, with a sign and noughts in front. -/
def isNumeric : Conversion → Bool
  | .decimal | .octal | .hexadecimal _ | .styled .. => true
  | _ => false

end Conversion

/-- What a placeholder says besides its conversion. -/
structure Layout where
  /-- The argument stands at the left of its width. -/
  left : Bool := false
  /-- A number that is not negative has a plus. -/
  plus : Bool := false
  /-- A number that is not negative has a space for its sign. -/
  space : Bool := false
  /-- Bases are named and points are kept. -/
  alternative : Bool := false
  /-- The width of a number is filled with noughts. -/
  noughts : Bool := false
  width : Option Nat := none
  precision : Option Nat := none
  deriving Repr, DecidableEq

/-- The argument of a template while its placeholders are filled in. -/
structure Supply where
  /-- The argument as a whole. -/
  whole : Value
  /-- The argument that no placeholder has taken yet. -/
  rest : Option Value
  deriving Repr

namespace Supply

/-- The argument of a template, before any placeholder. -/
def start (v : Value) : Supply := ⟨v, some v⟩

/-- Whether keys have a meaning. -/
def isKeyed (s : Supply) : Bool :=
  match s.whole with
  | .list _ | .object _ => true
  | _ => false

/-- The argument that is left, with nothing left behind it. -/
def take (s : Supply) : Except Error (Value × Supply) :=
  match s.rest with
  | some v => .ok (v, { s with rest := none })
  | none => .error .wrongType

/-- The entry under a key is what is left. -/
def choose (s : Supply) (key : String) : Except Error Supply :=
  match s.whole with
  | .object fields =>
    match fields.lookup key with
    | some v => .ok { s with rest := some v }
    | none => .error (.template (.missingKey key))
  | _ => .error .wrongType

end Supply

namespace Template

/-- The greatest width. -/
def maxWidth : Nat := 2 ^ 63 - 1

/-- The greatest precision. -/
def maxPrecision : Nat := 2 ^ 31 - 1

/-- The greatest number of characters that there is room for. -/
def room : Nat := 2 ^ 27

/-- The key before the bracket that closes it, with what follows the bracket. Brackets inside are
in pairs. -/
def key? (inner : Nat) : List Char → Option (List Char × List Char)
  | [] => none
  | c :: cs =>
    if c = ')' then
      if inner = 0 then some ([], cs)
      else (key? (inner - 1) cs).map fun (key, rest) ↦ (c :: key, rest)
    else (key? (if c = '(' then inner + 1 else inner) cs).map fun (key, rest) ↦ (c :: key, rest)

/-- A key at the front of a placeholder chooses its argument. -/
def readKey (s : Supply) (cs : List Char) : Except Error (Supply × List Char) :=
  match cs with
  | '(' :: inner =>
    if !s.isKeyed then .error .wrongType
    else
      match key? 0 inner with
      | none => .error (.template .unclosedKey)
      | some (key, rest) => (s.choose (String.ofList key)).map (·, rest)
  | _ => .ok (s, cs)

/-- The characters of flags. -/
def isFlag (c : Char) : Bool := c = '-' || c = '+' || c = ' ' || c = '#' || c = '0'

/-- The layout that flags ask for. -/
def layoutOf (flags : List Char) : Layout where
  left := flags.contains '-'
  plus := flags.contains '+'
  space := flags.contains ' '
  alternative := flags.contains '#'
  noughts := flags.contains '0'

/-- A number of digits, or a star for the argument, at the front of a text. -/
def readCount (s : Supply) (cs : List Char) (greatest : Nat) (tooLarge : TemplateFault)
    (beyond : TemplateFault) : Except Error (Option Int × Supply × List Char) :=
  match cs with
  | '*' :: rest => do
    let (v, s) ← s.take
    match v.int? with
    | none => throw .wrongType
    | some n =>
      if n < -greatest - 1 ∨ (greatest : Int) < n then throw (.template beyond)
      else return (some n, s, rest)
  | _ =>
    let ds := cs.takeWhile Char.isDigit
    if ds.isEmpty then .ok (none, s, cs)
    else if greatest < Text.digitsValue ds then .error (.template tooLarge)
    else .ok (some (Text.digitsValue ds), s, cs.dropWhile Char.isDigit)

/-- A width at the front of a text. A negative one puts the argument at the left. -/
def readWidth (layout : Layout) (s : Supply) (cs : List Char) :
    Except Error (Layout × Supply × List Char) :=
  (readCount s cs maxWidth .widthTooLarge .widthBeyondWords).map fun (width, s, rest) ↦
    match width with
    | none => (layout, s, rest)
    | some n => ({ layout with width := some n.natAbs, left := layout.left || n < 0 }, s, rest)

/-- A precision at the front of a text: a point and a number, which is nought when it is left out
or negative. -/
def readPrecision (layout : Layout) (s : Supply) (cs : List Char) :
    Except Error (Layout × Supply × List Char) :=
  match cs with
  | '.' :: rest =>
    (readCount s rest maxPrecision .precisionTooLarge .precisionBeyondWords).map
      fun (count, s, rest) ↦ ({ layout with precision := some (count.getD 0).toNat }, s, rest)
  | _ => .ok (layout, s, cs)

/-- What follows a length mark. -/
def afterLength : List Char → List Char
  | c :: cs => if c = 'h' || c = 'l' || c = 'L' then cs else c :: cs
  | [] => []

/-- Copies of a character, if there is room for them. -/
def copies (n : Nat) (c : Char) : Except Error (List Char) :=
  if n ≤ room then .ok (List.replicate n c) else .error .noRoom

/-- A text in its width. The noughts stand between the sign and the base on one side and the
digits on the other, the spaces around all of them. -/
def padded (layout : Layout) (noughts : Bool) (head body : List Char) :
    Except Error (List Char) := do
  let fill := layout.width.getD 0 - (head.length + body.length)
  if layout.left then return head ++ body ++ (← copies fill ' ')
  else if noughts then return head ++ (← copies fill '0') ++ body
  else return (← copies fill ' ') ++ head ++ body

/-- The sign of a number. -/
def signOf (layout : Layout) (negative : Bool) : List Char :=
  if negative then ['-'] else if layout.plus then ['+'] else if layout.space then [' '] else []

/-- A text that a conversion made, in the layout. -/
def textual (layout : Layout) (conversion : Conversion) (s : String) : Except Error (List Char) :=
  let cs := s.toList
  let shown :=
    match layout.precision with
    | some n => if conversion.isTextual then cs.take n else cs
    | none => cs
  padded layout false [] shown

/-- The digits of an integer in a base, with noughts in front up to the precision. -/
def integral (layout : Layout) (base : Nat) (mark : List Char) (upper : Bool) (n : Int) :
    Except Error (List Char) := do
  let least := layout.precision.getD 0
  if maxPrecision - 3 < least then throw (.template .tooManyDigits)
  if base = 10 && 10 ^ maxDigits ≤ n.natAbs then throw (.numeral .tooLargeToWrite)
  let ds := Nat.toDigits base n.natAbs
  let ds := if upper then ds.map Char.toUpper else ds
  let ds := (← copies (least - ds.length) '0') ++ ds
  let named := if layout.alternative then mark else []
  padded layout layout.noughts (signOf layout (n < 0) ++ named) ds

/-- The integer that an argument is written as. Only where fractions are dropped may it be a
double. -/
def integerOf (v : Value) (dropsFraction : Bool) : Except Error Int :=
  match v.number? with
  | some (.int n) => .ok n
  | some (.float x) =>
    if !dropsFraction then .error .wrongType
    else
      match Binary64.truncate? x with
      | some n => .ok n
      | none => .error (if x.isNaN then .notANumberAsInteger else .infinityAsInteger)
  | none => .error .wrongType

/-- The spelling of a text in ASCII, in which any other character is written by its code. -/
def asciiOnly (s : String) : String :=
  String.ofList (s.toList.flatMap fun c ↦
    if c.toNat < 0x80 then [c]
    else if c.toNat < 0x100 then '\\' :: 'x' :: Text.hexText 2 c.toNat
    else if c.toNat < 0x10000 then '\\' :: 'u' :: Text.hexText 4 c.toNat
    else '\\' :: 'U' :: Text.hexText 8 c.toNat)

/-- The character that an argument is written as: the only one of a text, or the one with a
code. -/
def characterOf : Value → Except Error Char
  | .text s =>
    match s.toList with
    | [c] => .ok c
    | _ => .error .wrongType
  | v =>
    match v.int? with
    | some n =>
      if n < 0 ∨ 0x110000 ≤ n then .error (.template .noCharacter) else .ok (Char.ofNat n.toNat)
    | none => .error .wrongType

/-- An argument as a placeholder writes it. -/
def written (lists : Lists) (layout : Layout) (conversion : Conversion) (v : Value) :
    Except Error (List Char) :=
  match conversion with
  | .display => do textual layout conversion (← v.display lists)
  | .spelling => do textual layout conversion (← v.spelling lists)
  | .ascii => do textual layout conversion (asciiOnly (← v.spelling lists))
  | .character => do textual layout conversion (String.singleton (← characterOf v))
  | .decimal => do integral layout 10 [] false (← integerOf v true)
  | .octal => do integral layout 8 ['0', 'o'] false (← integerOf v false)
  | .hexadecimal upper => do
    integral layout 16 ['0', if upper then 'X' else 'x'] upper (← integerOf v false)
  | .styled style upper => do
    let x ← v.asFloat
    let count := layout.precision.getD 6
    if room < count then throw .noRoom
    let cs := Decimal.styled style layout.alternative count x
    let negative := Binary64.isNegative x && !x.isNaN
    padded layout layout.noughts (signOf layout negative)
      (if upper then cs.map Char.toUpper else cs)

/-- What the letter of a placeholder at an index is filled with, and what is left of the
argument. -/
def filled (lists : Lists) (layout : Layout) (s : Supply) (c : Char) (index : Nat) :
    Except Error (List Char × Supply) := do
  let (v, s) ← s.take
  match Conversion.letters.lookup c with
  | none => throw (.template (.unknownConversion c index))
  | some conversion => return (← written lists layout conversion v, s)

/-- The placeholder behind a percent sign: what it is filled with, what is left of the argument,
and the text that follows. `size` is how many characters the whole template has. -/
def fill (lists : Lists) (size : Nat) (s : Supply) (cs : List Char) :
    Except Error (List Char × Supply × List Char) := do
  let (s, cs) ← readKey s cs
  let (layout, s, cs) ← readWidth (layoutOf (cs.takeWhile isFlag)) s (cs.dropWhile isFlag)
  let (layout, s, cs) ← readPrecision layout s cs
  match afterLength cs with
  | [] => throw (.template .unfinished)
  | c :: rest =>
    (filled lists layout s c (size - rest.length - 1)).map fun (shown, s) ↦ (shown, s, rest)

theorem length_lt_of_key? {inner : Nat} {cs key rest : List Char}
    (h : key? inner cs = some (key, rest)) : rest.length < cs.length := by
  induction cs generalizing inner key with
  | nil => simp [key?] at h
  | cons c cs ih =>
    unfold key? at h
    split at h
    · split at h
      · obtain ⟨-, rfl⟩ := Prod.mk.inj (Option.some.inj h)
        simp
      · obtain ⟨⟨k, r⟩, hr, he⟩ := Option.map_eq_some_iff.mp h
        obtain ⟨-, rfl⟩ := Prod.mk.inj he
        have := ih hr
        simp only [List.length_cons]
        omega
    · obtain ⟨⟨k, r⟩, hr, he⟩ := Option.map_eq_some_iff.mp h
      obtain ⟨-, rfl⟩ := Prod.mk.inj he
      have := ih hr
      simp only [List.length_cons]
      omega

/-- A mapped result that succeeds comes from a result. -/
theorem map_eq_ok {ε α β : Type} {f : α → β} {r : Except ε α} {b : β} (h : r.map f = .ok b) :
    ∃ a, r = .ok a ∧ f a = b := by
  cases r with
  | error => simp [Except.map] at h
  | ok a => exact ⟨a, rfl, Except.ok.inj h⟩

/-- A bound result that succeeds comes from two. -/
theorem bind_eq_ok {ε α β : Type} {f : α → Except ε β} {r : Except ε α} {b : β}
    (h : (r >>= f) = .ok b) : ∃ a, r = .ok a ∧ f a = .ok b := by
  cases r with
  | error => simp [bind, Except.bind] at h
  | ok a => exact ⟨a, rfl, h⟩

theorem length_dropWhile_le (p : Char → Bool) (cs : List Char) :
    (cs.dropWhile p).length ≤ cs.length := (List.dropWhile_suffix p).length_le

theorem length_le_of_readKey {s t : Supply} {cs rest : List Char}
    (h : readKey s cs = .ok (t, rest)) : rest.length ≤ cs.length := by
  unfold readKey at h
  split at h
  · split at h
    · simp at h
    · split at h
      · simp at h
      · next hk =>
        obtain ⟨u, -, he⟩ := map_eq_ok h
        obtain ⟨-, rfl⟩ := Prod.mk.inj he
        have := length_lt_of_key? hk
        simp only [List.length_cons]
        omega
  · obtain ⟨-, rfl⟩ := Prod.mk.inj (Except.ok.inj h)
    exact Nat.le_refl _

theorem length_le_of_readCount {s t : Supply} {cs rest : List Char} {greatest : Nat}
    {tooLarge beyond : TemplateFault} {n : Option Int}
    (h : readCount s cs greatest tooLarge beyond = .ok (n, t, rest)) :
    rest.length ≤ cs.length := by
  unfold readCount at h
  split at h
  · obtain ⟨⟨v, u⟩, -, h⟩ := bind_eq_ok h
    dsimp only at h
    split at h
    · simp [throw, throwThe, MonadExceptOf.throw] at h
    · split at h
      · simp [throw, throwThe, MonadExceptOf.throw] at h
      · simp only [pure, Except.pure, Except.ok.injEq, Prod.mk.injEq] at h
        obtain ⟨-, -, rfl⟩ := h
        simp
  · dsimp only at h
    split at h
    · simp only [Except.ok.injEq, Prod.mk.injEq] at h
      obtain ⟨-, -, rfl⟩ := h
      exact Nat.le_refl _
    · split at h
      · simp at h
      · simp only [Except.ok.injEq, Prod.mk.injEq] at h
        obtain ⟨-, -, rfl⟩ := h
        exact length_dropWhile_le ..

theorem length_le_of_readWidth {layout made : Layout} {s t : Supply} {cs rest : List Char}
    (h : readWidth layout s cs = .ok (made, t, rest)) : rest.length ≤ cs.length := by
  obtain ⟨⟨n, u, r⟩, hc, he⟩ := map_eq_ok h
  have := length_le_of_readCount hc
  cases n <;>
    · simp only [Prod.mk.injEq] at he
      obtain ⟨-, -, rfl⟩ := he
      exact this

theorem length_le_of_readPrecision {layout made : Layout} {s t : Supply} {cs rest : List Char}
    (h : readPrecision layout s cs = .ok (made, t, rest)) : rest.length ≤ cs.length := by
  unfold readPrecision at h
  split at h
  · obtain ⟨⟨n, u, r⟩, hc, he⟩ := map_eq_ok h
    obtain ⟨-, -, rfl⟩ := he
    have := length_le_of_readCount hc
    simp only [List.length_cons]
    omega
  · simp only [Except.ok.injEq, Prod.mk.injEq] at h
    obtain ⟨-, -, rfl⟩ := h
    exact Nat.le_refl _

theorem length_afterLength_le (cs : List Char) : (afterLength cs).length ≤ cs.length := by
  unfold afterLength
  split
  · split <;> simp
  · exact Nat.le_refl _

/-- A placeholder that was read leaves less text. -/
theorem length_lt_of_fill {lists : Lists} {size : Nat} {s t : Supply} {cs shown rest : List Char}
    (h : fill lists size s cs = .ok (shown, t, rest)) : rest.length < cs.length := by
  obtain ⟨⟨s1, cs1⟩, h1, h⟩ := bind_eq_ok h
  obtain ⟨⟨l2, s2, cs2⟩, h2, h⟩ := bind_eq_ok h
  obtain ⟨⟨l3, s3, cs3⟩, h3, h⟩ := bind_eq_ok h
  have k1 := length_le_of_readKey h1
  have k2 := length_le_of_readWidth h2
  have k3 := length_le_of_readPrecision h3
  have k4 := length_afterLength_le cs3
  have k5 := length_dropWhile_le isFlag cs1
  dsimp only at h k1 k2 k3
  split at h
  · simp [throw, throwThe, MonadExceptOf.throw] at h
  · next c behind he =>
    obtain ⟨⟨text, s4⟩, -, he'⟩ := map_eq_ok h
    simp only [Prod.mk.injEq] at he'
    obtain ⟨-, -, rfl⟩ := he'
    rw [he] at k4
    simp only [List.length_cons] at k4
    omega

/-- A template with its placeholders filled in, and what is left of the argument. Two percent
signs stand for one. -/
def expand (lists : Lists) (size : Nat) (s : Supply) (cs : List Char) :
    Except Error (List Char × Supply) :=
  let plain := cs.takeWhile (· != '%')
  match hd : cs.dropWhile (· != '%') with
  | [] => .ok (plain, s)
  | _ :: '%' :: behind =>
    have : behind.length < cs.length := by
      have := length_dropWhile_le (· != '%') cs
      rw [hd] at this
      simp only [List.length_cons] at this
      omega
    (expand lists size s behind).map fun (more, s) ↦ (plain ++ '%' :: more, s)
  | _ :: rest =>
    match h : fill lists size s rest with
    | .error e => .error e
    | .ok (shown, t, behind) =>
      have : behind.length < cs.length := by
        have := length_dropWhile_le (· != '%') cs
        have := length_lt_of_fill h
        simp only [hd, List.length_cons] at *
        omega
      (expand lists size t behind).map fun (more, s) ↦ (plain ++ shown ++ more, s)
termination_by cs.length

end Template

/-- The text of a template for an argument, which must be taken unless it is a collection. -/
def filledTemplate (lists : Lists) (template : String) (v : Value) : Except Error Value := do
  let cs := template.toList
  let (shown, s) ← Template.expand lists cs.length (.start v) cs
  if !s.isKeyed && s.rest.isSome then throw .wrongType
  return .text (String.ofList shown)

end CharacterSheet.Arithmetic
