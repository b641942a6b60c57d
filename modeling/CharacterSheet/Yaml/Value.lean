import CharacterSheet.Yaml.Reader
import CharacterSheet.Yaml.Scalar

/-!
# Values of YAML documents

Collections are filled from the outside to the inside: the scalars of a collection have their
values before any collection in it is looked into. So of all the errors of a document the one counts
that lies in the fewest collections, and of several such the first.

A mapping may merge others into itself. Their fields stand before its own, which override them; of
several mappings in a list the first overrides the others.
-/

namespace CharacterSheet.Yaml

/-- Why a node has no value: an error, and in how many collections it lies. -/
structure Fault where
  depth : Nat
  error : Error
  deriving Repr, DecidableEq

/-- What a node stands for, or why it has no value. -/
abbrev Outcome (α : Type) := Except Fault α

namespace Outcome

/-- The outcome of a scalar. -/
def direct {α : Type} (r : Except Error α) : Outcome α := r.mapError (⟨0, ·⟩)

/-- An outcome inside one more collection. -/
def inside {α : Type} (x : Outcome α) : Outcome α :=
  x.mapError fun f ↦ { f with depth := f.depth + 1 }

/-- Both of two outcomes. Of two faults the one in fewer collections counts, or else the first. -/
def both {α β : Type} : Outcome α → Outcome β → Outcome (α × β)
  | .ok a, .ok b => .ok (a, b)
  | .error f, .ok _ => .error f
  | .ok _, .error g => .error g
  | .error f, .error g => .error (if g.depth < f.depth then g else f)

/-- All outcomes of a list. -/
def all {α : Type} : List (Outcome α) → Outcome (List α)
  | [] => .ok []
  | x :: xs => (both x (all xs)).map fun (a, as) ↦ a :: as

/-- The fault of a list is one of those in it. -/
theorem mem_of_all_eq_error {α : Type} {xs : List (Outcome α)} {f : Fault}
    (h : all xs = .error f) : .error f ∈ xs := by
  induction xs with
  | nil => simp [all] at h
  | cons x xs ih =>
    rw [List.mem_cons]
    cases hx : x <;> cases hs : all xs <;> simp only [all, hx, hs, both, Except.map] at h
    · split at h
      · exact .inr (ih (hs.trans (by simpa using h)))
      · exact .inl (by simpa using h.symm)
    · exact .inl (by simpa using h.symm)
    · exact .inr (ih (hs.trans h))
    · simp at h

/-- A list with a fault in it has a fault, which lies in no more collections. -/
theorem exists_all_eq_error {α : Type} {xs : List (Outcome α)} {g : Fault}
    (hg : .error g ∈ xs) : ∃ f, all xs = .error f ∧ f.depth ≤ g.depth := by
  induction xs with
  | nil => simp at hg
  | cons x xs ih =>
    simp only [List.mem_cons] at hg
    rcases hg with rfl | hg
    · cases hs : all xs with
      | ok as => exact ⟨g, by simp [all, hs, both, Except.map], Nat.le_refl _⟩
      | error f =>
        refine ⟨if f.depth < g.depth then f else g, by simp [all, hs, both, Except.map], ?_⟩
        split <;> omega
    · obtain ⟨f, hf, hle⟩ := ih hg
      cases x with
      | ok a => exact ⟨f, by simp [all, hf, both, Except.map], hle⟩
      | error e =>
        refine ⟨if f.depth < e.depth then f else e, by simp [all, hf, both, Except.map], ?_⟩
        split <;> omega

end Outcome

namespace Node

/-- The key that a node is. -/
def key : Node → Outcome Key
  | .scalar text plain =>
    .direct (if plain && text != "=" then plainValue text else .ok (.text text))
  | _ => .error ⟨0, .compoundKey⟩

mutual

/-- The value of a node. -/
def value : Node → Outcome Json
  | .scalar text plain =>
    .direct (if plain then Json.ofKey <$> plainValue text else .ok (.string text))
  | .list items => .inside ((Outcome.all (values items)).map .array)
  | .mapping fields =>
    match merged fields with
    | .ok more => .inside ((Outcome.all (more ++ own fields)).map Json.ofEntries)
    | .error e => .error ⟨1, e⟩

/-- The values of nodes. -/
def values : List Node → List (Outcome Json)
  | [] => []
  | x :: xs => value x :: values xs

/-- The entries that the fields of a mapping say themselves. -/
def own : List (Node × Node) → List (Outcome (Key × Json))
  | [] => []
  | (k, v) :: fields =>
    if k.isMerge then own fields else .both k.key (value v) :: own fields

/-- The entries that are merged into a mapping with some fields. -/
def merged : List (Node × Node) → Except Error (List (Outcome (Key × Json)))
  | [] => .ok []
  | (k, v) :: fields =>
    if k.isMerge then do
      let first ← entries v
      let more ← merged fields
      return first ++ more
    else merged fields

/-- The entries of a mapping, or of all mappings in a list, the last one first. -/
def entries : Node → Except Error (List (Outcome (Key × Json)))
  | .scalar .. => .error .notMergeable
  | .list items => listed items
  | .mapping fields => do
    return (← merged fields) ++ own fields

/-- The entries of the mappings in a list, the last one first. -/
def listed : List Node → Except Error (List (Outcome (Key × Json)))
  | [] => .ok []
  | .mapping fields :: items => do
    let first ← merged fields
    let more ← listed items
    return more ++ (first ++ own fields)
  | _ :: _ => .error .notMergeable

end

end Node

/-- The value of a YAML text, however deep it is nested. -/
def read (text : String) : Except Error Json := do
  let node ← readNode text
  node.value.mapError (·.error)

end CharacterSheet.Yaml
