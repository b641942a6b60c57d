import CharacterSheet.Yaml.Quoted

/-!
# Nodes of YAML documents

A document says how scalars stand in lists and mappings. What they stand for shows only once the
whole document is read.
-/

namespace CharacterSheet.Yaml

/-- A part of a document. -/
inductive Node where
  /-- A text, which may stand for something else when it is plain. -/
  | scalar (text : String) (plain : Bool)
  | list (items : List Node)
  | mapping (fields : List (Node × Node))
  deriving Repr, Inhabited

namespace Node

/-- What is left out. -/
def nothing : Node := .scalar "" true

/-- Whether a key merges other mappings into the one that it stands in. -/
def isMerge : Node → Bool
  | .scalar text plain => plain && text = "<<"
  | _ => false

end Node
end CharacterSheet.Yaml
