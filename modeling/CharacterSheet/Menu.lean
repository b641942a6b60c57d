import CharacterSheet.DiceUse
import CharacterSheet.Schema.Reader

/-!
# The menu of references

An author picks a reference from a menu: first a category, then a stat or a section, then a
property. The same references can be searched for by name or id.
-/

namespace CharacterSheet

/-- An entry of the menu: it inserts a text or opens a further level. -/
inductive MenuItem where
  | leaf (label value icon : String)
  | branch (label icon : String) (children : List (String × MenuItem))
  deriving Repr, Inhabited

/-- One level of the menu: its entries by key. -/
abbrev MenuLevel := List (String × MenuItem)

namespace MenuItem

/-- The level that an entry opens; a leaf opens an empty one. -/
def children : MenuItem → MenuLevel
  | .leaf .. => []
  | .branch _ _ children => children

end MenuItem

/-- The level at the end of a path of keys. -/
def MenuLevel.descend (level : MenuLevel) : List String → MenuLevel
  | [] => level
  | key :: path => descend (((level.lookup key).map MenuItem.children).getD []) path

/-- The text of a reference that is offered. -/
def offeredText (subject : Subject) (id : Int) (p : Property) : String :=
  "<" ++ subject.word ++ ":" ++ toString id ++ ":" ++ p.word ++ ">"

/-- The properties that are offered for a stat or a section. -/
def Subject.offered : Subject → List Property
  | .stat => [.name, .value, .emoji]
  | .sheetSection => [.name, .emoji]

/-- The label of a property. -/
def Property.label : Property → String
  | .name => "Name"
  | .value => "Value"
  | .emoji => "Emoji"

/-- The icon of a property. -/
def Property.icon : Property → String
  | .name => "🏷️"
  | .value => "🔢"
  | .emoji => "😀"

/-- The name of a stat in the menu. -/
def Stat.label (s : Stat) : String :=
  if s.name.default.isEmpty then "Stat " ++ toString s.id else s.name.default

/-- The name of a section in the menu. -/
def SheetSection.label (s : SheetSection) : String :=
  if s.name.default.isEmpty then "Section " ++ toString s.id else s.name.default

/-- The properties of a stat or a section as a level of the menu. -/
def propertyLevel (subject : Subject) (id : Int) : MenuLevel :=
  subject.offered.map fun p ↦ (p.word, .leaf p.label (offeredText subject id p) p.icon)

/-- The entries for items with ids. An id that occurs again keeps its first place and takes the
last item. -/
def itemLevel {α : Type} (subject : Subject) (icon : String) (id : α → Int) (label : α → String)
    (items : List α) : MenuLevel :=
  (items.foldl (fun found a ↦ insertEntry (id a) a found) []).map fun (n, a) ↦
    (toString n, .branch (label a) icon (propertyLevel subject n))

/-- What is inserted to open the editor for arithmetic. -/
def mathEditor : String := "__MATH_EDITOR__"

/-- What is inserted to open the editor for dice. -/
def diceEditor : String := "__DICE_EDITOR__"

/-- The menu. -/
def referenceMenu (stats : List Stat) (sections : List SheetSection) : MenuLevel := [
  ("stats", .branch "Stats" "📊" (itemLevel .stat "⚡" Stat.id Stat.label stats)),
  ("sections",
    .branch "Sections" "📄"
      (itemLevel .sheetSection "📋" SheetSection.id SheetSection.label sections)),
  ("math", .leaf "Math expression" mathEditor "🧮"),
  ("dice", .leaf "Dice" diceEditor "🎲")]

/-- The references to an item with a label and an id that a search finds. -/
def foundReferences (subject : Subject) (icon label : String) (id : Int) (term : String) :
    MenuLevel :=
  if holdsTerm term label || Text.occursIn term.toList (toString id).toList then
    subject.offered.map fun p ↦
      (subject.word ++ "-" ++ toString id ++ "-" ++ p.word,
        .leaf (icon ++ " " ++ label ++ " → " ++ p.label) (offeredText subject id p) p.icon)
  else []

/-- The references whose name or id has a text in it, regardless of case, and the editors. -/
def searchReferences (stats : List Stat) (sections : List SheetSection) (query : String) :
    MenuLevel :=
  let term := Text.lower query
  let editor (word key : String) (item : MenuItem) : MenuLevel :=
    if Text.occursIn term.toList word.toList then [(key, item)] else []
  (stats.flatMap fun s ↦ foundReferences .stat "📊" s.label s.id term) ++
    (sections.flatMap fun s ↦ foundReferences .sheetSection "📄" s.label s.id term) ++
    editor "math" "math-editor"
      (.leaf "🧮 Math expression → Open editor" mathEditor "✏️") ++
    editor "dice" "dice-editor" (.leaf "🎲 Dice → Open editor" diceEditor "🎯")

/-- Whether the ids of all stats and sections can be written. -/
def idsAreWritable (stats : List Stat) (sections : List SheetSection) : Bool :=
  stats.all (Numeral.isWritable ·.id) && sections.all (Numeral.isWritable ·.id)

/-- The menu, in which every id is written. -/
def buildMenu (stats : List Stat) (sections : List SheetSection) :
    Except NumeralError MenuLevel :=
  if idsAreWritable stats sections then .ok (referenceMenu stats sections)
  else .error .tooLargeToWrite

/-- The references that a search finds, for which every id is written. -/
def findReferences (stats : List Stat) (sections : List SheetSection) (query : String) :
    Except NumeralError MenuLevel :=
  if idsAreWritable stats sections then .ok (searchReferences stats sections query)
  else .error .tooLargeToWrite

end CharacterSheet
