import CharacterSheet.Schema.Reader

/-!
# Drafts

A draft is a schema that may be wrong in places. What could be read of it is there, with the
faults of what could not. Drafts come from documents and from schemas that were read before.
-/

namespace CharacterSheet

/-- An item of a list that may be wrong. -/
structure Entry (α : Type) where
  /-- The item, if it could be read. -/
  item : Option α
  /-- The id of the item, or what looks like one when the item could not be read. -/
  id : Option Int
  faults : List Fault
  deriving Repr

namespace Entry

/-- An item that was read before. -/
def ofItem {α : Type} (id : α → Int) (a : α) : Entry α := ⟨some a, some (id a), []⟩

/-- The id of an item that cannot be read. -/
def rawId? (v : Json) : Option Int :=
  match v.get? "id" with
  | some (.number (.int n)) => some n
  | _ => none

/-- Read an item. -/
def read {α : Type} (id : α → Int) (read : Json → Checked α) (v : Json) : Entry α :=
  match read v with
  | .ok a => ofItem id a
  | .bad faults => ⟨none, rawId? v, faults⟩

end Entry

/-- What counts of the head of a draft. -/
structure DraftHead where
  hasId : Bool
  hasName : Bool
  deriving Repr, DecidableEq

/-- A schema that may be wrong in places. -/
structure Draft where
  /-- The head, if there is one. -/
  head : Option DraftHead
  /-- The stats, if they are a list. -/
  stats : Option (List (Entry Stat))
  /-- The sections, if they are a list. -/
  sections : Option (List (Entry SheetSection))
  integrations : Checked (Option Integrations)

namespace Draft

/-- The draft of a schema. -/
def ofSystem (s : GameSystem) : Draft where
  head := some ⟨s.config.id.isSome, !s.config.name.default.isEmpty⟩
  stats := some (s.stats.map (Entry.ofItem Stat.id))
  sections := some (s.sections.map (Entry.ofItem SheetSection.id))
  integrations := .ok s.integrations

/-- Whether a field of an object counts as present. -/
def hasField (key : String) (v : Json) : Bool :=
  match v.get? key with
  | some v => v.isTruthy
  | none => false

/-- The head in a document. -/
def readHead (v : Json) : Option DraftHead :=
  v.fields?.map fun fs ↦ {
    hasId := ((Json.Fields.get? "id" fs).map (!·.isNull)).getD false
    hasName := ((Json.Fields.get? "name" fs).map (hasField "default")).getD false }

/-- The list in a document. -/
def readEntries {α : Type} (id : α → Int) (read : Json → Checked α) :
    Json → Option (List (Entry α))
  | .array items => some (items.map (Entry.read id read))
  | _ => none

/-- The draft in a document; nothing when the document is no object. -/
def read (v : Json) : Option Draft :=
  v.fields?.map fun fs ↦
    let field (key : String) : Json := (Json.Fields.get? key fs).getD .null
    {
      head := readHead (field "config")
      stats := readEntries Stat.id Stat.read (field "stats")
      sections := readEntries SheetSection.id SheetSection.read (field "sections")
      integrations := Checked.nullable Integrations.read (field "integrations") }

/-- The stats that could be read. -/
def readStats (d : Draft) : List Stat := (d.stats.getD []).filterMap (·.item)

/-- The ids of the sections that could be read. -/
def sectionIds (d : Draft) : List Int :=
  ((d.sections.getD []).filterMap (·.item)).map (·.id)

/-- All stats of a schema that was read before can be read. -/
theorem readStats_ofSystem (s : GameSystem) : (ofSystem s).readStats = s.stats := by
  simp [readStats, ofSystem, Entry.ofItem, List.filterMap_map, Function.comp_def]

end Draft
end CharacterSheet
