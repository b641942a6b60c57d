import CharacterSheet.Yaml.Node
import CharacterSheet.Yaml.Token

/-!
# Reading YAML documents

A document is a block of items or of fields, a collection in brackets, or a scalar. An error among
the tokens counts once reading comes to it.
-/

namespace CharacterSheet.Yaml
namespace Reader

/-- A list of tokens that is no longer than another. -/
abbrev Rest (ts : List Token) := { rest : List Token // rest.length ≤ ts.length }

/-- A list of tokens that is shorter than another. -/
abbrev Less (ts : List Token) := { rest : List Token // rest.length < ts.length }

/-- What was read from the front of some tokens, and what is left of them. -/
abbrev Step (ts : List Token) (α : Type) := Except Error (α × Rest ts)

/-- What was read from the front of some tokens, of which fewer are left. -/
abbrev Advance (ts : List Token) (α : Type) := Except Error (α × Less ts)

/-- Whether a token comes next. -/
def sees (wanted : List Token) (ts : List Token) : Bool :=
  match ts with
  | t :: _ => wanted.contains t
  | [] => false

/-- The error of tokens that do not go on as they must. -/
def misplaced (ts : List Token) : Error := if ts.isEmpty then .unfinished else .parse

/-- A result whose rest is seen from a longer list. -/
def widen {α : Type} {ts us : List Token} (h : us.length ≤ ts.length) : Step us α → Step ts α
  | .ok (a, ⟨rest, hr⟩) => .ok (a, ⟨rest, Nat.le_trans hr h⟩)
  | .error e => .error e

mutual

/-- A node. In a block it may be a block of its own; as the value of a field also items that
are not indented. -/
def node (inBlock unindented : Bool) (ts : List Token) : Advance ts Node :=
  match ts with
  | .scalar text plain :: rest => .ok (.scalar text plain, ⟨rest, by simp⟩)
  | .flowSequence :: rest =>
    match flowItems true rest with
    | .ok (items, ⟨left, h⟩) => .ok (.list items, ⟨left, by simp only [List.length_cons]; omega⟩)
    | .error e => .error e
  | .flowMapping :: rest =>
    match flowFields true rest with
    | .ok (fs, ⟨left, h⟩) =>
      .ok (.mapping fs, ⟨left, by simp only [List.length_cons]; omega⟩)
    | .error e => .error e
  | .blockSequence :: rest =>
    if inBlock then
      match blockItems rest with
      | .ok (items, ⟨left, h⟩) => .ok (.list items, ⟨left, by simp only [List.length_cons]; omega⟩)
      | .error e => .error e
    else .error (misplaced ts)
  | .blockMapping :: rest =>
    if inBlock then
      match blockFields rest with
      | .ok (fs, ⟨left, h⟩) =>
        .ok (.mapping fs, ⟨left, by simp only [List.length_cons]; omega⟩)
      | .error e => .error e
    else .error (misplaced ts)
  | .blockEntry :: rest =>
    if inBlock && unindented then
      match looseItem rest with
      | .ok (v, ⟨left, h⟩) =>
        match looseItems left with
        | .ok (items, ⟨left, h⟩) =>
          .ok (.list (v :: items), ⟨left, by simp only [List.length_cons]; omega⟩)
        | .error e => .error e
      | .error e => .error e
    else .error (misplaced ts)
  | ts => .error (misplaced ts)
termination_by (ts.length, 0)

/-- A value that is left out before one of some tokens. -/
def nodeUnless (ends : List Token) (inBlock unindented : Bool) (ts : List Token) : Step ts Node :=
  if sees ends ts then .ok (.nothing, ⟨ts, Nat.le_refl _⟩)
  else
    match node inBlock unindented ts with
    | .ok (v, ⟨left, h⟩) => .ok (v, ⟨left, Nat.le_of_lt h⟩)
    | .error e => .error e
termination_by (ts.length, 1)

/-- The items of a block up to its end. -/
def blockItems (ts : List Token) : Step ts (List Node) :=
  match ts with
  | .blockEntry :: rest =>
    match nodeUnless [.blockEntry, .blockEnd] true false rest with
    | .ok (v, ⟨left, h⟩) =>
      match blockItems left with
      | .ok (items, ⟨left, h⟩) => .ok (v :: items, ⟨left, by simp only [List.length_cons]; omega⟩)
      | .error e => .error e
    | .error e => .error e
  | .blockEnd :: rest => .ok ([], ⟨rest, by simp⟩)
  | ts => .error (misplaced ts)
termination_by (ts.length, 2)

/-- An item that is not indented, behind its dash. -/
def looseItem (ts : List Token) : Step ts Node :=
  nodeUnless [.blockEntry, .key, .value, .blockEnd] true false ts
termination_by (ts.length, 2)

/-- More items that are not indented. -/
def looseItems (ts : List Token) : Step ts (List Node) :=
  match ts with
  | .blockEntry :: rest =>
    match looseItem rest with
    | .ok (v, ⟨left, h⟩) =>
      match looseItems left with
      | .ok (items, ⟨left, h⟩) => .ok (v :: items, ⟨left, by simp only [List.length_cons]; omega⟩)
      | .error e => .error e
    | .error e => .error e
  | ts => .ok ([], ⟨ts, Nat.le_refl _⟩)
termination_by (ts.length, 3)

/-- The fields of a block up to its end. -/
def blockFields (ts : List Token) : Step ts (List (Node × Node)) :=
  match ts with
  | .key :: rest =>
    match nodeUnless [.key, .value, .blockEnd] true true rest with
    | .ok (k, ⟨left, h⟩) =>
      match blockValue left with
      | .ok (v, ⟨left, h⟩) =>
        match blockFields left with
        | .ok (fs, ⟨left, h⟩) =>
          .ok ((k, v) :: fs, ⟨left, by simp only [List.length_cons]; omega⟩)
        | .error e => .error e
      | .error e => .error e
    | .error e => .error e
  | .blockEnd :: rest => .ok ([], ⟨rest, by simp⟩)
  | ts => .error (misplaced ts)
termination_by (ts.length, 3)

/-- The value of a field in a block. -/
def blockValue (ts : List Token) : Step ts Node :=
  match ts with
  | .value :: rest =>
    widen (by simp) (nodeUnless [.key, .value, .blockEnd] true true rest)
  | ts => .ok (.nothing, ⟨ts, Nat.le_refl _⟩)
termination_by (ts.length, 2)

/-- The items in brackets up to the closing one. -/
def flowItems (isFirst : Bool) (ts : List Token) : Step ts (List Node) :=
  match ts with
  | .flowSequenceEnd :: rest => .ok ([], ⟨rest, by simp⟩)
  | .flowEntry :: rest =>
    if isFirst then .error .parse
    else
      match rest with
      | .flowSequenceEnd :: left => .ok ([], ⟨left, by simp only [List.length_cons]; omega⟩)
      | rest =>
        match flowItem rest with
        | .ok (v, ⟨left, h⟩) =>
          match flowItems false left with
          | .ok (items, ⟨left, h⟩) =>
            .ok (v :: items, ⟨left, by simp only [List.length_cons]; omega⟩)
          | .error e => .error e
        | .error e => .error e
  | ts =>
    if isFirst then
      match flowItem ts with
      | .ok (v, ⟨left, h⟩) =>
        match flowItems false left with
        | .ok (items, ⟨left, h⟩) => .ok (v :: items, ⟨left, by omega⟩)
        | .error e => .error e
      | .error e => .error e
    else .error (misplaced ts)
termination_by (ts.length, 3)

/-- An item in brackets: a value, or a single field. -/
def flowItem (ts : List Token) : Advance ts Node :=
  match ts with
  | .key :: rest =>
    match nodeUnless [.value, .flowEntry, .flowSequenceEnd] false false rest with
    | .ok (k, ⟨left, h⟩) =>
      match flowValue [.flowEntry, .flowSequenceEnd] left with
      | .ok (v, ⟨left, h⟩) =>
        .ok (.mapping [(k, v)], ⟨left, by simp only [List.length_cons]; omega⟩)
      | .error e => .error e
    | .error e => .error e
  | ts => node false false ts
termination_by (ts.length, 2)

/-- The value of a field in brackets, which ends before some tokens. -/
def flowValue (ends : List Token) (ts : List Token) : Step ts Node :=
  match ts with
  | .value :: rest => widen (by simp) (nodeUnless ends false false rest)
  | ts => .ok (.nothing, ⟨ts, Nat.le_refl _⟩)
termination_by (ts.length, 2)

/-- The fields in brackets up to the closing one. -/
def flowFields (isFirst : Bool) (ts : List Token) : Step ts (List (Node × Node)) :=
  match ts with
  | .flowMappingEnd :: rest => .ok ([], ⟨rest, by simp⟩)
  | .flowEntry :: rest =>
    if isFirst then .error .parse
    else
      match rest with
      | .flowMappingEnd :: left => .ok ([], ⟨left, by simp only [List.length_cons]; omega⟩)
      | rest =>
        match flowField rest with
        | .ok (f, ⟨left, h⟩) =>
          match flowFields false left with
          | .ok (fs, ⟨left, h⟩) => .ok (f :: fs, ⟨left, by simp only [List.length_cons]; omega⟩)
          | .error e => .error e
        | .error e => .error e
  | ts =>
    if isFirst then
      match flowField ts with
      | .ok (f, ⟨left, h⟩) =>
        match flowFields false left with
        | .ok (fs, ⟨left, h⟩) => .ok (f :: fs, ⟨left, by omega⟩)
        | .error e => .error e
      | .error e => .error e
    else .error (misplaced ts)
termination_by (ts.length, 3)

/-- A field in brackets. -/
def flowField (ts : List Token) : Advance ts (Node × Node) :=
  match ts with
  | .key :: rest =>
    match nodeUnless [.value, .flowEntry, .flowMappingEnd] false false rest with
    | .ok (k, ⟨left, h⟩) =>
      match flowValue [.flowEntry, .flowMappingEnd] left with
      | .ok (v, ⟨left, h⟩) =>
        .ok ((k, v), ⟨left, by simp only [List.length_cons]; omega⟩)
      | .error e => .error e
    | .error e => .error e
  | ts =>
    match node false false ts with
    | .ok (k, left) => .ok ((k, .nothing), left)
    | .error e => .error e
termination_by (ts.length, 2)

end

/-- A value that stands for a whole document: what is behind it must end or mark the end. -/
def alone (v : Node) (rest : List Token) : Except Error Node :=
  match rest.dropWhile (· = .documentEnd) with
  | [] => .ok v
  | .documentStart :: _ => .error .severalDocuments
  | _ => .error .parse

/-- The document in some tokens. -/
def document (ts : List Token) : Except Error Node :=
  let content (ts : List Token) : Except Error Node :=
    match node true false ts with
    | .ok (v, ⟨rest, _⟩) => alone v rest
    | .error e => .error e
  match ts with
  | [] => .ok .nothing
  | .documentStart :: rest =>
    if rest.isEmpty || sees [.documentStart, .documentEnd] rest then alone .nothing rest
    else content rest
  | ts => content ts

end Reader

/-- The document in a text. An error among the tokens counts unless reading meets another before
it. -/
def readNode (text : String) : Except Error Node :=
  let (ts, failure) := scanTokens text
  match Reader.document ts, failure with
  | .ok v, none => .ok v
  | .ok _, some e => .error e
  | .error .unfinished, failure => .error (failure.getD .parse)
  | .error e, _ => .error e

end CharacterSheet.Yaml
