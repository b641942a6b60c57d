import CharacterSheet.Schema
import CharacterSheet.Token.References

/-!
# Dependencies of formulas

A formula depends on the stats whose values it asks for. Among the stats of a system only the
calculated ones have dependencies, and the first stat with an id counts.
-/

namespace CharacterSheet

/-- The ids that a formula depends on, in order of first occurrence. -/
def dependencies (formula : String) : Except NumeralError (List Int) :=
  (statValueIds formula).map fun ids ↦ ids.map Int.ofNat

/-- The formula of the stat with an id, if that stat is calculated. -/
def storedFormula? (stats : List Stat) (id : Int) : Option String :=
  (findStat stats id).bind Stat.formula?

/-- The calculated stats with their formulas, without those whose id occurred before among
them. -/
def distinctCalculated (stats : List Stat) : List (Stat × String) :=
  let all := stats.filterMap fun s ↦ s.formula?.map fun f ↦ (s, f)
  all.foldl (fun seen (s, f) ↦
    if seen.any (·.1.id == s.id) then seen else seen ++ [(s, f)]) []

/-- The dependencies of every calculated stat, in order. -/
def dependencyGraph (stats : List Stat) : Except NumeralError (List (Int × List Int)) :=
  (distinctCalculated stats).mapM fun (s, f) ↦ (dependencies f).map fun deps ↦ (s.id, deps)

/-- A stat with a stored formula is one of the list. -/
theorem mem_of_storedFormula? {stats : List Stat} {id : Int} {f : String}
    (h : storedFormula? stats id = some f) : id ∈ stats.map (·.id) := by
  obtain ⟨s, hs, -⟩ := Option.bind_eq_some_iff.mp h
  exact List.mem_map.mpr ⟨s, mem_of_findStat hs, id_of_findStat hs⟩

end CharacterSheet
