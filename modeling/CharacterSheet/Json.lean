import CharacterSheet.Number
import CharacterSheet.Text.CodePoint

/-!
# Document values

A document is a JSON value: null, truth values, numbers, texts, lists and objects. The fields
of an object keep their order; a repeated key keeps its first place and its last value.

Where documents come from there may be entries that are no fields yet: their keys are no texts, or
stand there more than once. Main statement: once settled, entries with texts as keys are fields.
-/

namespace CharacterSheet

/-- The key of an entry. -/
inductive Key where
  | null
  | bool (b : Bool)
  | number (n : Number)
  | text (s : String)
  deriving Repr, Inhabited

namespace Key

/-- The number that a key denotes; truth values count as one and nought. -/
def toNumber? : Key → Option Number
  | .number n => some n
  | .bool b => some (.int (if b then 1 else 0))
  | _ => none

/-- Whether two keys are one. Numbers of both kinds and truth values compare as numbers, and all
that is no number is one. -/
def same : Key → Key → Bool
  | .null, .null => true
  | .text s, .text t => s == t
  | k, l =>
    match k.toNumber?, l.toNumber? with
    | some m, some n => Number.compare .eq m n || (m.isNaN && n.isNaN)
    | _, _ => false

/-- The text of a key, if it is one. -/
def text? : Key → Option String
  | .text s => some s
  | _ => none

/-- The display text of a key. -/
def display : Key → String
  | .null => "None"
  | .bool b => if b then "True" else "False"
  | .number n => n.spelling
  | .text s => s

/-- The spelling of a key inside a message. -/
def spelling : Key → String
  | .text s => Text.quote s
  | key => key.display

/-- The text that a key becomes in a document. -/
def written : Key → String
  | .bool b => if b then "true" else "false"
  | .number n => if n.isFinite then n.spelling else "None"
  | key => key.display

end Key

/-- A value of a document. -/
inductive Json where
  | null
  | bool (b : Bool)
  | number (n : Number)
  | string (s : String)
  /-- A text in which surrogates stand alone. -/
  | unpaired (points : List Text.CodePoint)
  | array (items : List Json)
  | object (fields : List (String × Json))
  /-- Entries as they were given, of which a later one overrides an earlier one. -/
  | table (entries : List (Key × Json))
  deriving Repr, Inhabited

namespace Json

/-- The fields of an object, in order. -/
abbrev Fields := List (String × Json)

namespace Fields

/-- The value under a key. -/
def get? (key : String) : Fields → Option Json
  | [] => none
  | (k, v) :: fs => if k = key then some v else get? key fs

/-- The fields with a value put under a key: in the place of the key, or at the end. -/
def set (key : String) (value : Json) : Fields → Fields
  | [] => [(key, value)]
  | (k, v) :: fs => if k = key then (k, value) :: fs else (k, v) :: set key value fs

/-- The fields of a list of entries, in which a later entry overrides an earlier one. -/
def ofEntries (entries : List (String × Json)) : Fields :=
  entries.foldl (fun fs (k, v) ↦ set k v fs) []

/-- The keys in order. -/
def keys (fs : Fields) : List String := fs.map (·.1)

/-- Whether no key stands there more than once. -/
def areDistinct : Fields → Bool
  | [] => true
  | (key, _) :: fs => (get? key fs).isNone && areDistinct fs

/-- A key that was set holds its value. -/
theorem get?_set_self (key : String) (value : Json) (fs : Fields) :
    (fs.set key value).get? key = some value := by
  induction fs with
  | nil => simp [set, get?]
  | cons f fs ih =>
    obtain ⟨k, v⟩ := f
    by_cases h : k = key <;> simp [set, get?, h, ih]

/-- Setting a key does not touch the others. -/
theorem get?_set_of_ne {key other : String} (h : other ≠ key) (value : Json) (fs : Fields) :
    (fs.set key value).get? other = fs.get? other := by
  induction fs with
  | nil => simp [set, get?, h.symm]
  | cons f fs ih =>
    obtain ⟨k, v⟩ := f
    by_cases hk : k = key
    · simp [set, get?, hk, h.symm]
    · simp [set, get?, hk, ih]

end Fields

/-- The entries whose keys are texts, as fields. -/
def fieldsOf (entries : List (Key × Json)) : Fields :=
  Fields.ofEntries (entries.filterMap fun (key, v) ↦ key.text?.map (·, v))

/-- The fields of an object, and those among entries. -/
def fields? : Json → Option Fields
  | .object fs => some fs
  | .table entries => some (fieldsOf entries)
  | _ => none

/-- The entries of an object, or of a table. -/
def entries? : Json → Option (List (Key × Json))
  | .object fs => some (fs.map fun (key, v) ↦ (.text key, v))
  | .table entries => some entries
  | _ => none

/-- Entries with a value put under a key: in the place of the key, or at the end. -/
def setEntry (key : Key) (value : Json) : List (Key × Json) → List (Key × Json)
  | [] => [(key, value)]
  | (k, v) :: es => if k.same key then (k, value) :: es else (k, v) :: setEntry key value es

/-- The value of entries whose keys may be of any kind. -/
def ofEntries (entries : List (Key × Json)) : Json :=
  let single := entries.foldl (fun es (key, v) ↦ setEntry key v es) []
  if single.all (·.1.text?.isSome) then .object (fieldsOf single) else .table single

/-- The value of fields as they stand in a text. -/
def ofWritten (fs : Fields) : Json :=
  if fs.areDistinct then .object fs else .table (fs.map fun (key, v) ↦ (.text key, v))

/-- The value of the code points of a text. -/
def ofPoints (ps : List Text.CodePoint) : Json :=
  match Text.ofPoints? ps with
  | some s => .string s
  | none => .unpaired ps

/-- An integer of a document. -/
def int (n : Int) : Json := .number (.int n)

/-- The value under a key of an object. -/
def get? (key : String) (v : Json) : Option Json := v.fields?.bind (Fields.get? key)

/-- Whether a value counts as present: null, false, zero and whatever is empty do not. -/
def isTruthy : Json → Bool
  | .null => false
  | .bool b => b
  | .number n => !n.isZero
  | .string s => !s.isEmpty
  | .unpaired ps => !ps.isEmpty
  | .array xs => !xs.isEmpty
  | .object fs => !fs.isEmpty
  | .table entries => !entries.isEmpty

/-- Whether a value is null. -/
def isNull : Json → Bool
  | .null => true
  | _ => false

/-- The number that a value denotes; truth values count as one and nought. -/
def toNumber? : Json → Option Number
  | .number n => some n
  | .bool b => some (.int (if b then 1 else 0))
  | _ => none

/-- A key as a value. -/
def ofKey : Key → Json
  | .null => .null
  | .bool b => .bool b
  | .number n => .number n
  | .text s => .string s

mutual

/-- Equality by value: numbers of both kinds and truth values compare as numbers, objects
regardless of the order of their fields. -/
def same : Json → Json → Bool
  | .null, .null => true
  | .string s, .string t => s == t
  | .unpaired ps, .unpaired qs => ps == qs
  | .array xs, .array ys => sameItems xs ys
  | .object fs, .object gs => fs.length == gs.length && sameFields fs gs
  | .table es, .table gs => es.length == gs.length && sameEntries es gs
  | a, b =>
    match toNumber? a, toNumber? b with
    | some m, some n => Number.compare .eq m n
    | _, _ => false

/-- Equality of lists, item by item. -/
def sameItems : List Json → List Json → Bool
  | [], [] => true
  | x :: xs, y :: ys => same x y && sameItems xs ys
  | _, _ => false

/-- Whether every field is found with an equal value among the others. -/
def sameFields : List (String × Json) → List (String × Json) → Bool
  | [], _ => true
  | (k, v) :: fs, gs =>
    (match Fields.get? k gs with
      | some w => same v w
      | none => false) && sameFields fs gs

/-- Whether every entry is found with an equal value among the others. -/
def sameEntries : List (Key × Json) → List (Key × Json) → Bool
  | [], _ => true
  | (k, v) :: es, gs =>
    (match gs.find? (k.same ·.1) with
      | some (_, w) => same v w
      | none => false) && sameEntries es gs

end

mutual

/-- The spelling of a value inside a message. -/
def spelling : Json → String
  | .null => "None"
  | .bool b => if b then "True" else "False"
  | .number n => n.spelling
  | .string s => Text.quote s
  | .unpaired ps => Text.quotePoints ps
  | .array xs => "[" ++ ", ".intercalate (itemSpellings xs) ++ "]"
  | .object fs => "\x7b" ++ ", ".intercalate (fieldSpellings fs) ++ "\x7d"
  | .table entries => "\x7b" ++ ", ".intercalate (entrySpellings entries) ++ "\x7d"

/-- The spellings of the items of a list. -/
def itemSpellings : List Json → List String
  | [] => []
  | x :: xs => spelling x :: itemSpellings xs

/-- The spellings of the fields of an object. -/
def fieldSpellings : List (String × Json) → List String
  | [] => []
  | (k, v) :: fs => (Text.quote k ++ ": " ++ spelling v) :: fieldSpellings fs

/-- The spellings of entries. -/
def entrySpellings : List (Key × Json) → List String
  | [] => []
  | (k, v) :: es => (k.spelling ++ ": " ++ spelling v) :: entrySpellings es

end

/-- The display text of a value: a text stands for itself, any other value for its spelling. -/
def display : Json → String
  | .string s => s
  | .unpaired ps => Text.shownText ps
  | value => spelling value

mutual

/-- The numbers in a value, at every depth. -/
def numbers : Json → List Number
  | .number n => [n]
  | .array xs => itemNumbers xs
  | .object fs => fieldNumbers fs
  | .table entries => entryNumbers entries
  | _ => []

/-- The numbers in items. -/
def itemNumbers : List Json → List Number
  | [] => []
  | x :: xs => numbers x ++ itemNumbers xs

/-- The numbers in the values of fields. -/
def fieldNumbers : List (String × Json) → List Number
  | [] => []
  | (_, v) :: fs => numbers v ++ fieldNumbers fs

/-- The numbers in entries, among them those that are keys. -/
def entryNumbers : List (Key × Json) → List Number
  | [] => []
  | (k, v) :: es => k.toNumber?.toList ++ numbers v ++ entryNumbers es

end

/-- The integers in a value, at every depth. -/
def integers (v : Json) : List Int := v.numbers.filterMap Number.int?

/-- Write the display text of a value; nothing is written of one with an integer that has too many
digits. -/
def writeText (v : Json) : Except NumeralError String :=
  if v.integers.all Numeral.isWritable then .ok v.display else .error .tooLargeToWrite

/-- A text is written as it is. -/
@[simp]
theorem writeText_string (s : String) : writeText (.string s) = .ok s := rfl

mutual

/-- A value in which entries whose keys are texts are fields. -/
def settled : Json → Json
  | .array xs => .array (settledItems xs)
  | .object fs => .object (settledFields fs)
  | .table entries => ofEntries (settledEntries entries)
  | value => value

/-- Items that are settled. -/
def settledItems : List Json → List Json
  | [] => []
  | x :: xs => settled x :: settledItems xs

/-- Fields with values that are settled. -/
def settledFields : List (String × Json) → List (String × Json)
  | [] => []
  | (k, v) :: fs => (k, settled v) :: settledFields fs

/-- Entries with values that are settled. -/
def settledEntries : List (Key × Json) → List (Key × Json)
  | [] => []
  | (k, v) :: es => (k, settled v) :: settledEntries es

end

mutual

/-- A value as a document shows it: with texts as keys, and with null for the doubles that are not
finite. -/
def written : Json → Json
  | .number n => if n.isFinite then .number n else .null
  | .array xs => .array (writtenItems xs)
  | .object fs => .object (writtenFields fs)
  | .table entries => .object (Fields.ofEntries (writtenEntries entries))
  | value => value

/-- Items as a document shows them. -/
def writtenItems : List Json → List Json
  | [] => []
  | x :: xs => written x :: writtenItems xs

/-- Fields as a document shows them. -/
def writtenFields : List (String × Json) → List (String × Json)
  | [] => []
  | (k, v) :: fs => (k, written v) :: writtenFields fs

/-- Entries as a document shows them. -/
def writtenEntries : List (Key × Json) → List (String × Json)
  | [] => []
  | (k, v) :: es => (k.written, written v) :: writtenEntries es

end

/-- A table whose keys are all texts is settled as fields, in which every key has its last
value. -/
theorem settled_table {entries : List (Key × Json)}
    (h : ((settledEntries entries).foldl (fun es (key, v) ↦ setEntry key v es) []).all
      (·.1.text?.isSome)) :
    ∃ fs, settled (.table entries) = .object fs := by
  simp only [settled, ofEntries, h]
  exact ⟨_, rfl⟩

end Json
end CharacterSheet
