import CharacterSheet.Yaml.Quoted

/-!
# Tokens of YAML texts

Indentation opens and closes collections. Whether a scalar is a key shows only at the colon
behind it, so a spot is left before everything that may be a key, and it is filled once the
colon is found: with a key, and with the start of a mapping if one starts there.
-/

namespace CharacterSheet.Yaml

/-- The marks, brackets and scalars of a text. -/
inductive Token where
  | documentStart
  | documentEnd
  | blockSequence
  | blockMapping
  | blockEnd
  | flowSequence
  | flowSequenceEnd
  | flowMapping
  | flowMappingEnd
  | blockEntry
  | flowEntry
  | key
  | value
  | scalar (text : String) (plain : Bool)
  /-- A place where a key may start. -/
  | spot (n : Nat)
  deriving Repr, DecidableEq

/-- Something that may turn out to be a key. -/
structure PossibleKey where
  spot : Nat
  /-- Whether a colon must follow. -/
  required : Bool
  start : Cursor

/-- A scan on its way through a text. -/
structure Scanner where
  cursor : Cursor
  /-- How many brackets are open. -/
  depth : Int := 0
  /-- The column of the innermost block. -/
  indent : Int := -1
  /-- The columns of the blocks around it. -/
  outer : List Int := []
  /-- Whether a key may start here. -/
  allowsKey : Bool := true
  /-- What may be a key, by the number of brackets around it. -/
  keys : List (Int × PossibleKey) := []
  /-- The tokens so far, the last one first. -/
  found : List Token := []
  spots : Nat := 0
  /-- What the spots turned out to be. -/
  filled : List (Nat × List Token) := []

namespace Scanner

/-- Whether the scan is outside of brackets. -/
def inBlock (s : Scanner) : Bool := s.depth = 0

/-- A token is found. -/
def emit (s : Scanner) (t : Token) : Scanner := { s with found := t :: s.found }

/-- The scan goes on behind so many characters. -/
def skip (n : Nat) (s : Scanner) : Scanner := { s with cursor := s.cursor.skip n }

/-- Blanks, comments and line breaks are passed over. Outside of brackets a key may start on
every line. -/
def skipGaps (inBlock : Bool) (allowsKey : Bool) (c : Cursor) : Cursor × Bool :=
  match h : c.behindComment.lineBreak? with
  | some (_, next) =>
    have : next.rest.length < c.rest.length :=
      Nat.lt_of_lt_of_le (Cursor.length_rest_lt_of_lineBreak? h) c.length_rest_behindComment_le
    skipGaps inBlock (allowsKey || inBlock) next
  | none => (c.behindComment, allowsKey)
termination_by c.rest.length

/-- Whether a possible key is on an earlier line, or too far back. -/
def isStale (s : Scanner) (k : PossibleKey) : Bool :=
  k.start.line != s.cursor.line || s.cursor.offset - k.start.offset > 1024

/-- Stale keys are keys no more. -/
def dropStale (s : Scanner) : Except Error Scanner :=
  if s.keys.any fun (_, k) ↦ s.isStale k && k.required then .error .scan
  else .ok { s with keys := s.keys.filter fun (_, k) ↦ !s.isStale k }

/-- Blocks that are indented further than a column come to their end. -/
def unwindFrom (column : Int) (found : List Token) (indent : Int) :
    List Int → List Token × Int × List Int
  | [] => (found, indent, [])
  | wider :: outer =>
    if column < indent then unwindFrom column (.blockEnd :: found) wider outer
    else (found, indent, wider :: outer)

/-- Outside of brackets, blocks that are indented further than a column come to their end. -/
def unwind (column : Int) (s : Scanner) : Scanner :=
  if s.inBlock then
    let (found, indent, outer) := unwindFrom column s.found s.indent s.outer
    { s with found, indent, outer }
  else s

/-- A block starts at a column unless it is open already; it starts with a token. -/
def openBlock (column : Nat) (t : Token) (s : Scanner) : Scanner :=
  if s.indent < column then
    { s with indent := column, outer := s.indent :: s.outer, found := t :: s.found }
  else s

/-- What may be a key at this depth is none; a required key must not be given up. -/
def dropKey (s : Scanner) : Except Error Scanner :=
  match s.keys.lookup s.depth with
  | some k =>
    if k.required then .error .scan
    else .ok { s with keys := s.keys.filter (·.1 != s.depth) }
  | none => .ok s

/-- What starts here may be a key. -/
def saveKey (s : Scanner) : Except Error Scanner := do
  if !s.allowsKey then return s
  let s ← s.dropKey
  let k : PossibleKey := ⟨s.spots, s.inBlock && s.indent = s.cursor.column, s.cursor⟩
  return { s with
    keys := (s.depth, k) :: s.keys
    found := .spot s.spots :: s.found
    spots := s.spots + 1 }

/-- A document starts or ends. -/
def marker (s : Scanner) (t : Token) : Except Error Scanner := do
  let s ← (s.unwind (-1)).dropKey
  return ({ s with allowsKey := false }.emit t).skip 3

/-- A bracket opens. -/
def opening (s : Scanner) (t : Token) : Except Error Scanner := do
  let s ← s.saveKey
  return ({ s with depth := s.depth + 1, allowsKey := true }.emit t).skip 1

/-- A bracket closes. -/
def closing (s : Scanner) (t : Token) : Except Error Scanner := do
  let s ← s.dropKey
  return ({ s with depth := s.depth - 1, allowsKey := false }.emit t).skip 1

/-- A comma. -/
def comma (s : Scanner) : Except Error Scanner := do
  let s ← { s with allowsKey := true }.dropKey
  return (s.emit .flowEntry).skip 1

/-- A dash before an item. -/
def dash (s : Scanner) : Except Error Scanner := do
  if s.inBlock && !s.allowsKey then throw .scan
  let s := if s.inBlock then s.openBlock s.cursor.column .blockSequence else s
  let s ← { s with allowsKey := true }.dropKey
  return (s.emit .blockEntry).skip 1

/-- A question mark before a key. -/
def questionMark (s : Scanner) : Except Error Scanner := do
  if s.inBlock && !s.allowsKey then throw .scan
  let s := if s.inBlock then s.openBlock s.cursor.column .blockMapping else s
  let s ← { s with allowsKey := s.inBlock }.dropKey
  return (s.emit .key).skip 1

/-- A colon behind a key. -/
def colon (s : Scanner) : Except Error Scanner := do
  match s.keys.lookup s.depth with
  | some k =>
    let starts := s.inBlock && s.indent < k.start.column
    let filling := if starts then [.blockMapping, .key] else [.key]
    let s := { s with
      keys := s.keys.filter (·.1 != s.depth)
      filled := (k.spot, filling) :: s.filled
      indent := if starts then k.start.column else s.indent
      outer := if starts then s.indent :: s.outer else s.outer
      allowsKey := false }
    return (s.emit .value).skip 1
  | none =>
    if s.inBlock && !s.allowsKey then throw .scan
    let s := if s.inBlock then s.openBlock s.cursor.column .blockMapping else s
    let s ← { s with allowsKey := s.inBlock }.dropKey
    return (s.emit .value).skip 1

/-- A quoted scalar. -/
def quoted (s : Scanner) (q : Quote) : Except Error Scanner := do
  let s ← s.saveKey
  let (text, behind) ← readQuoted q [] s.cursor.next
  return { s with cursor := behind, allowsKey := false }.emit (.scalar text false)

/-- A plain scalar. -/
def plain (s : Scanner) : Except Error Scanner := do
  let s ← s.saveKey
  let (read, broken, behind) := readPlain (!s.inBlock) (s.indent + 1) [] [] false s.cursor
  return { s with cursor := behind, allowsKey := broken }.emit
    (.scalar (String.ofList read.reverse) true)

/-- Whether a plain scalar may start at a character. -/
def startsPlain (s : Scanner) (ch : Char) : Bool :=
  !"-?:,[]\x7b\x7d#&*!|>'\"%@\x60 \t".contains ch && !isBreak ch ||
    !s.cursor.seesGap 1 && (ch = '-' || (s.inBlock && (ch = '?' || ch = ':')))

/-- The next token, which starts with a character. -/
def step (s : Scanner) (ch : Char) : Except Error Scanner :=
  let c := s.cursor
  if c.seesMarker '-' then s.marker .documentStart
  else if c.seesMarker '.' then s.marker .documentEnd
  else if ch = '[' then s.opening .flowSequence
  else if ch = '\x7b' then s.opening .flowMapping
  else if ch = ']' then s.closing .flowSequenceEnd
  else if ch = '\x7d' then s.closing .flowMappingEnd
  else if ch = ',' then s.comma
  else if ch = '-' && c.seesGap 1 then s.dash
  else if ch = '?' && (!s.inBlock || c.seesGap 1) then s.questionMark
  else if ch = ':' && (!s.inBlock || c.seesGap 1) then s.colon
  else if ch = '\'' then s.quoted .single
  else if ch = '"' then s.quoted .double
  else if s.startsPlain ch then s.plain
  else .error .scan

/-- The scan at the next token, behind the gap before it. -/
def atToken (s : Scanner) : Except Error Scanner := do
  let (cursor, allowsKey) := skipGaps s.inBlock s.allowsKey s.cursor
  let s ← { s with cursor, allowsKey }.dropStale
  return s.unwind cursor.column

/-- Tokens, the last one first, with the spots among them filled. -/
def filling (s : Scanner) (found : List Token) : List Token :=
  found.reverse.flatMap fun
    | .spot n => (s.filled.lookup n).getD []
    | t => [t]

/-- The tokens of a scan that has come to the end. -/
def tokens (s : Scanner) : List Token := s.filling s.found

/-- Whether the colon behind a key that starts at a spot may still come. -/
def awaits (s : Scanner) (n : Nat) : Bool := s.keys.any fun (_, k) ↦ k.spot = n

/-- The tokens of a scan that stand fast: those before the first possible key. -/
def settled (s : Scanner) : List Token :=
  s.filling (s.found.reverse.takeWhile fun
    | .spot n => !s.awaits n
    | _ => true).reverse

/-- All tokens of a text of some size up to its end, or up to where an error shows. An error shows
once the first token is asked for that does not stand fast, as it takes a scan beyond that token.
A scan goes on as long as it gets on in the text. -/
def run (size : Nat) (s : Scanner) : List Token × Option Error :=
  match s.atToken with
  | .error e => (s.settled, some e)
  | .ok next =>
    match next.cursor.peek? with
    | none =>
      match (next.unwind (-1)).dropKey with
      | .error e => (s.settled, some e)
      | .ok last => (last.tokens, none)
    | some ch =>
      match (next.step ch).bind dropStale with
      | .error e => (s.settled, some e)
      | .ok after =>
        if s.cursor.offset < size ∧ s.cursor.offset < after.cursor.offset then run size after
        else (s.settled, some .scan)
termination_by size - s.cursor.offset
decreasing_by omega

end Scanner

/-- Whether a text may hold a character. -/
def isPrintable (c : Char) : Bool :=
  let n := c.toNat
  c = '\t' || c = '\n' || c = '\r' || (0x20 ≤ n && n ≤ 0x7e) || n = 0x85 ||
    (0xa0 ≤ n && n ≤ 0xd7ff) || (0xe000 ≤ n && n ≤ 0xfffd) || 0x10000 ≤ n

/-- The tokens of a text up to its end, or up to where an error shows. A byte order mark in front
does not count. -/
def scanTokens (text : String) : List Token × Option Error :=
  let cs := text.toList
  let body := if cs.head? = some '\ufeff' then cs.drop 1 else cs
  if cs.all isPrintable then Scanner.run body.length { cursor := { rest := body } }
  else ([], some .unprintable)

end CharacterSheet.Yaml
