import CharacterSheet.Arithmetic.Value

/-!
# The lists of an evaluation

A list can be extended, and then it is longer wherever its value was taken to. So a list is a
place, and an evaluation carries along what its places hold. Comparison and spelling look into
the places; a list may even hold itself, so both go only so deep.
-/

namespace CharacterSheet.Arithmetic

/-- What the places of an evaluation hold. -/
structure Lists where
  /-- The items in each place. -/
  places : Array (List Value) := #[]
  deriving Repr, Inhabited

/-- A step of an evaluation, which may fail, and may add or extend lists. -/
abbrev Evaluating := StateT Lists (Except Error)

namespace Lists

/-- The items in a place. -/
def items (lists : Lists) (place : Nat) : List Value := (lists.places[place]?).getD []

/-- The value of a new list, with the lists after it was added. -/
def add (lists : Lists) (xs : List Value) : Value × Lists :=
  (.list lists.places.size, ⟨lists.places.push xs⟩)

/-- The lists after one was extended by a value. -/
def extend (lists : Lists) (place : Nat) (v : Value) : Lists :=
  ⟨lists.places.modify place (· ++ [v])⟩

/-- A list that was added holds its items. -/
theorem items_add (lists : Lists) (xs : List Value) :
    (lists.add xs).2.items lists.places.size = xs := by
  simp [items, add]

/-- Adding a list leaves the others alone. -/
theorem items_add_of_lt {lists : Lists} {place : Nat} (xs : List Value)
    (h : place < lists.places.size) : (lists.add xs).2.items place = lists.items place := by
  simp [items, add, Array.getElem?_push, Nat.ne_of_lt h]

/-- A list that was extended has one more item. -/
theorem items_extend {lists : Lists} {place : Nat} (v : Value) (h : place < lists.places.size) :
    (lists.extend place v).items place = lists.items place ++ [v] := by
  simp [items, extend, h, Array.getElem_modify]

end Lists

/-- The value of a new list. -/
def newList (xs : List Value) : Evaluating Value := modifyGet (·.add xs)

/-- The items in a place. -/
def itemsOf (place : Nat) : Evaluating (List Value) := return (← get).items place

namespace Value

/-- How deep values are looked into. -/
def maxDepth : Nat := 960

/-- Whether a value holds as a condition. -/
def isTruthy (lists : Lists) : Value → Bool
  | .null => false
  | .number n => !n.isZero
  | .truth b => b
  | .text s => !s.isEmpty
  | .list place => !(lists.items place).isEmpty
  | .object fields => !fields.isEmpty
  | .complex z => !z.isZero
  | .unordered | .function _ => true

/-- Whether two values are one and the same, which equality does not ask into. -/
def isSelf : Value → Value → Bool
  | .list p, .list q => p == q
  | .unordered, .unordered => true
  | _, _ => false

/-- How a search for a difference between two lists ends. -/
inductive Difference where
  | equal
  | shorter
  | longer
  | at (v w : Value)

/-- The first difference between two lists, by a test for equality. -/
def difference (equal : Value → Value → Except Error Bool) :
    List Value → List Value → Except Error Difference
  | [], [] => .ok .equal
  | [], _ :: _ => .ok .shorter
  | _ :: _, [] => .ok .longer
  | v :: vs, w :: ws => do
    if v.isSelf w || (← equal v w) then difference equal vs ws else return .at v w

/-- Equality by value. Lists are equal when their items are, and objects when they have the same
keys with equal values. The first argument says how deep values are looked into. -/
def sameTo (lists : Lists) : Nat → Value → Value → Except Error Bool
  | 0, _, _ => .error .comparisonTooDeep
  | depth + 1, v, w =>
    match v, w with
    | .null, .null => .ok true
    | .text s, .text t => .ok (s == t)
    | .list p, .list q =>
      let vs := lists.items p
      let ws := lists.items q
      if p == q then .ok true
      else if vs.length != ws.length then .ok false
      else do
        match ← difference (sameTo lists depth) vs ws with
        | .equal => return true
        | _ => return false
    | .object fs, .object gs =>
      if fs.length != gs.length then .ok false
      else
        fs.allM fun (key, v) ↦
          match gs.lookup key with
          | none => .ok false
          | some w => if v.isSelf w then .ok true else sameTo lists depth v w
    | .function f, .function g => .ok (f == g)
    | .complex z, .complex u => .ok (z.same u)
    | .complex z, v | v, .complex z =>
      .ok (z.im == 0 && v.number?.any (Number.compare .eq (.float z.re)))
    | v, w =>
      match v.number?, w.number? with
      | some m, some n => .ok (Number.compare .eq m n)
      | _, _ => .ok false

/-- Equality by value. -/
def same (lists : Lists) (v w : Value) : Except Error Bool := sameTo lists maxDepth v w

/-- Compare two values for their order: numbers by size, texts by their characters, and lists
by their first items that differ. -/
def orderedTo (lists : Lists) (c : Comparison) : Nat → Value → Value → Except Error Bool
  | 0, _, _ => .error .comparisonTooDeep
  | depth + 1, v, w =>
    match v, w with
    | .text s, .text t => .ok (c.accepts (some (compare s t)))
    | .list p, .list q =>
      if p == q then .ok (c.accepts (some .eq))
      else do
        match ← difference (sameTo lists depth) (lists.items p) (lists.items q) with
        | .equal => return c.accepts (some .eq)
        | .shorter => return c.accepts (some .lt)
        | .longer => return c.accepts (some .gt)
        | .at v w => orderedTo lists c depth v w
    | v, w =>
      match v.number?, w.number? with
      | some m, some n => .ok (Number.compare c m n)
      | _, _ => .error .wrongType

/-- Compare two values. Only the order of values can be of the wrong type. -/
def compareBy (lists : Lists) (c : Comparison) (v w : Value) : Except Error Bool :=
  match c with
  | .eq => same lists v w
  | .ne => (same lists v w).map (!·)
  | _ => orderedTo lists c maxDepth v w

/-- The spelling of a value. A list that is being spelled already is left out inside itself. -/
def spellingTo (lists : Lists) : Nat → List Nat → Value → Except Error String
  | 0, _, _ => .error .spellingTooDeep
  | depth + 1, around, v =>
    match v with
    | .null => .ok "None"
    | .number (.int n) => (Numeral.writeInteger n).mapError .numeral
    | .number (.float x) => .ok (Decimal.text x)
    | .unordered => .ok (Decimal.text Binary64.notANumber)
    | .truth b => .ok (if b then "True" else "False")
    | .text s => .ok (Text.quote s)
    | .list place =>
      if around.contains place then .ok "[...]"
      else do
        let parts ← (lists.items place).mapM (spellingTo lists depth (place :: around))
        return "[" ++ ", ".intercalate parts ++ "]"
    | .object fields => do
      let parts ← fields.mapM fun (key, v) ↦
        return Text.quote key ++ ": " ++ (← spellingTo lists depth around v)
      return "\x7b" ++ ", ".intercalate parts ++ "\x7d"
    | .complex z => .ok z.text
    | .function f => .ok ("<built-in function " ++ f.name ++ ">")

/-- The spelling of a value, as a list shows its items. -/
def spelling (lists : Lists) (v : Value) : Except Error String := spellingTo lists maxDepth [] v

/-- The text of a value: a text stands for itself, any other value for its spelling. -/
def display (lists : Lists) : Value → Except Error String
  | .text s => .ok s
  | v => v.spelling lists

end Value
end CharacterSheet.Arithmetic
