import CharacterSheet.Proofs.Editing.Acyclicity
import CharacterSheet.Proofs.Validation.IssuePaths

/-!
# Issues that tell of cycles

Of all the checks of a schema only that of a formula finds cycles, and it finds for each calculated
stat what is found from the stat when nothing else is looked at. Main statement: the issues of a
schema that tell of cycles are those of the cycles of its stats, in the order of the stats, whether
validation is strict or not.
-/

namespace CharacterSheet
open Validation

open Arithmetic.Template (bind_eq_ok)
open Json.Bounded (exists_of_map_eq_ok)

/-! ### Cycles of stats -/

/-- The cycle that is found from a stat with its own formula, if any is. -/
def Stat.cycle? (stats : List Stat) (s : Stat) : Option (List Int) :=
  s.formula?.bind fun f ↦ (findCycle stats s.id f).toOption.join

/-- The cycles that are found from the stats of a schema, each with the index of its stat. -/
def GameSystem.cycles (s : GameSystem) : List (Nat × List Int) :=
  s.stats.zipIdx.filterMap fun (stat, i) ↦ (stat.cycle? s.stats).map (i, ·)

/-- The path of the cycle that is the cause of an issue, if one is. -/
def IssueCause.cycle? : IssueCause → Option (List Int)
  | .cycle path => some path
  | _ => none

/-- The place and the path of the cycle that an issue tells of, if it tells of one. -/
def Issue.cycle? (i : Issue) : Option (String × List Int) := i.cause.cycle?.map (i.path, ·)

section
variable {stats : List Stat} {s : Stat}

theorem Stat.cycle?_of_formula? {f : String} (hf : s.formula? = some f) :
    s.cycle? stats = (findCycle stats s.id f).toOption.join := by
  rw [cycle?, hf]
  rfl

theorem Stat.cycle?_of_not_calculated (hf : s.formula? = none) : s.cycle? stats = none := by
  rw [cycle?, hf]
  rfl

/-- From an empty formula no cycle is found. -/
theorem findCycle_empty (stats : List Stat) (id : Int) : findCycle stats id "" = .ok none :=
  findCycle_eq_none_iff.mpr (.node formulaAt_target dependencies_empty (by simp))

end

namespace Validation

/-! ### Issues that tell of none -/

/-- None of some issues tells of a cycle. -/
def NoCycles (issues : List Issue) : Prop := ∀ i ∈ issues, i.cycle? = none

namespace NoCycles
variable {path : String} {xs ys : List Issue}

theorem nil : NoCycles [] := List.forall_mem_nil _

theorem append (hx : NoCycles xs) (hy : NoCycles ys) : NoCycles (xs ++ ys) :=
  List.forall_mem_append.mpr ⟨hx, hy⟩

theorem of_foundBelow (h : FoundBelow path (· != .circularDependency) xs) : NoCycles xs := by
  rintro ⟨place, cause⟩ hi
  obtain ⟨-, hk⟩ := h _ hi
  cases cause <;> first | rfl | contradiction

/-- What is found by looking at one thing after the other tells of no cycle. -/
theorem of_common (h : FoundBelow path IssueKind.isCommon xs) : NoCycles xs :=
  of_foundBelow (h.mono fun k hk ↦ by cases k <;> first | rfl | contradiction)

/-- What tells of no cycle adds nothing to the cycles that issues tell of. -/
theorem filterMap_eq_nil (h : NoCycles xs) : xs.filterMap Issue.cycle? = [] :=
  List.filterMap_eq_nil_iff.mpr h

end NoCycles

theorem noCycles_entryIssues {α : Type} {collection : String} {before : List (Option Int)}
    {e : Entry α} : NoCycles (entryIssues collection before e) :=
  .append (.of_common (foundBelow_faults _ _)) (.of_foundBelow foundBelow_duplicateIssues)

theorem noCycles_allSectionIssues {d : Draft} {strict : Bool} {before : List (Option Int)}
    {entries : List (Entry SheetSection)} {issues : List Issue}
    (h : allSectionIssues d strict before entries = .ok issues) : NoCycles issues := by
  induction entries generalizing before issues with
  | nil =>
    cases h
    exact .nil
  | cons e rest ih =>
    obtain ⟨entry, he, h⟩ := bind_eq_ok h
    obtain ⟨own, hown, h⟩ : ∃ own, NoCycles own ∧ (do
        let others ← allSectionIssues d strict (before ++ [e.id]) rest
        return entry ++ own ++ others : Findings) = .ok issues := by
      dsimp only at h
      split at h
      · obtain ⟨own, ho, h⟩ := bind_eq_ok h
        exact ⟨own, .of_common (foundBelow_sectionIssues ho), h⟩
      · exact ⟨[], .nil, h⟩
    obtain ⟨others, hr, h⟩ := bind_eq_ok h
    cases h
    rw [← eq_of_worded he]
    exact (noCycles_entryIssues.append hown).append (ih hr)

/-! ### The check that finds them -/

section
variable {stats : List Stat} {checker next : CycleChecker} {strict : Bool} {path : String}
  {found : List Issue}

/-- The check of a formula tells of the cycle that is found from it, if any is. -/
theorem cycles_of_formulaIssues (hc : checker.Serves stats) {id : Int} {formula : String}
    (h : formulaIssues stats strict path id formula checker = .ok (found, next)) :
    found.filterMap Issue.cycle? =
      ((findCycle stats id formula).toOption.join.map (path ++ ".formula", ·)).toList ∧
      next.Serves stats := by
  unfold formulaIssues at h
  split at h
  · next he =>
    cases h
    rw [String.isEmpty_iff.mp he, findCycle_empty]
    exact ⟨rfl, hc⟩
  · obtain ⟨hfind, hnext⟩ := hc.answers id formula
    obtain ⟨answer, (ha : (checker.find id formula).1 = .ok answer), h⟩ := bind_eq_ok h
    obtain ⟨cycles, hcycles, h⟩ := bind_eq_ok h
    obtain ⟨references, hr, h⟩ := bind_eq_ok h
    obtain ⟨form, hform, h⟩ : ∃ form, NoCycles form ∧
        Except.ok (cycles ++ references ++ form, (checker.find id formula).2) =
          (.ok (found, next) : Except NumeralError _) := by
      dsimp only at h
      split at h
      · obtain ⟨form, hf, h⟩ := bind_eq_ok h
        exact ⟨form, .of_common (foundBelow_formIssues hf), h⟩
      · exact ⟨[], .nil, h⟩
    cases h
    refine ⟨?_, hnext⟩
    have hreferences : NoCycles references := .of_common (foundBelow_textIssues hr)
    rw [List.filterMap_append, List.filterMap_append, hform.filterMap_eq_nil,
      hreferences.filterMap_eq_nil, ← eq_of_worded hcycles, ← hfind, ha]
    cases answer <;> rfl

/-- The checks of what belongs to the kind of a stat tell of the cycle of the stat, if it has
one. -/
theorem cycles_of_detailIssues (hc : checker.Serves stats) {s : Stat}
    (h : detailIssues stats strict path s checker = .ok (found, next)) :
    found.filterMap Issue.cycle? = ((s.cycle? stats).map (path ++ ".formula", ·)).toList ∧
      next.Serves stats := by
  have of_worded {xs : List Issue} (hw : (worded xs).map (·, checker) = .ok (found, next))
      (hx : NoCycles xs) (hf : s.formula? = none) :
      found.filterMap Issue.cycle? = ((s.cycle? stats).map (path ++ ".formula", ·)).toList ∧
        next.Serves stats := by
    obtain ⟨issues, hi, he⟩ := exists_of_map_eq_ok hw
    cases he
    rw [← eq_of_worded hi, hx.filterMap_eq_nil, Stat.cycle?_of_not_calculated hf]
    exact ⟨rfl, hc⟩
  unfold detailIssues at h
  cases hd : s.detail with
  | numeric min max rolls =>
    rw [hd] at h
    exact of_worded h (.of_common foundBelow_boundIssues) (by simp [Stat.formula?, hd])
  | enumeration source rolls =>
    rw [hd] at h
    exact of_worded h (.of_common foundBelow_sourceIssues) (by simp [Stat.formula?, hd])
  | calculated formula rolls =>
    rw [hd] at h
    rw [Stat.cycle?_of_formula? (f := formula) (by simp [Stat.formula?, hd])]
    exact cycles_of_formulaIssues hc h
  | boolean rolls =>
    rw [hd] at h
    exact of_worded (show (worded []).map (·, checker) = _ from h) .nil
      (by simp [Stat.formula?, hd])
  | text low high =>
    rw [hd] at h
    exact of_worded (show (worded []).map (·, checker) = _ from h) .nil
      (by simp [Stat.formula?, hd])

/-- The checks of a stat tell of its cycle, if it has one. -/
theorem cycles_of_statIssues {d : Draft} (hc : checker.Serves d.readStats) {s : Stat}
    (h : statIssues d strict path s checker = .ok (found, next)) :
    found.filterMap Issue.cycle? =
        ((s.cycle? d.readStats).map (path ++ ".formula", ·)).toList ∧
      next.Serves d.readStats := by
  obtain ⟨⟨detail, after⟩, hd, h⟩ := bind_eq_ok h
  obtain ⟨hcycle, hnext⟩ := cycles_of_detailIssues hc hd
  have hname : NoCycles (issueIf s.name.default.isEmpty (path ++ ".name.default")
    (.required "name.default")) := .of_common (.issueIf rfl)
  obtain ⟨more, hmore, h⟩ : ∃ more, NoCycles more ∧
      Except.ok (issueIf s.name.default.isEmpty (path ++ ".name.default")
        (.required "name.default") ++ detail ++ more, after) =
        (.ok (found, next) : Except NumeralError _) := by
    dsimp only at h
    split at h
    · obtain ⟨more, hm, h⟩ := bind_eq_ok h
      exact ⟨more, .of_common (foundBelow_strictStatIssues hm), h⟩
    · exact ⟨[], .nil, h⟩
  cases h
  refine ⟨?_, hnext⟩
  rw [List.filterMap_append, List.filterMap_append, hname.filterMap_eq_nil,
    hmore.filterMap_eq_nil, hcycle, List.nil_append, List.append_nil]

end
end Validation

namespace GameSystem
variable {s : GameSystem} {strict : Bool} {found : List Issue}

/-- The checks of the stats from an index on tell of the cycles of these stats. -/
theorem cycles_of_allStatIssues {n : Nat} {before : List (Option Int)} {rest : List Stat}
    {checker : CycleChecker} (hn : before.length = n) (hc : checker.Serves s.stats)
    (h : allStatIssues (.ofSystem s) strict before checker (rest.map (Entry.ofItem Stat.id)) =
      .ok found) :
    found.filterMap Issue.cycle? =
      ((rest.zipIdx n).filterMap fun (stat, i) ↦ (stat.cycle? s.stats).map (i, ·)).map
        fun (i, path) ↦ (itemPath "stats" i ++ ".formula", path) := by
  induction rest generalizing n before checker found with
  | nil =>
    cases h
    rfl
  | cons stat rest ih =>
    obtain ⟨entry, he, h⟩ := bind_eq_ok h
    obtain ⟨⟨own, next⟩, ho, h⟩ := bind_eq_ok h
    obtain ⟨others, hr, h⟩ := bind_eq_ok h
    cases h
    rw [← Draft.readStats_ofSystem s] at hc
    obtain ⟨hown, hnext⟩ := cycles_of_statIssues hc ho
    rw [Draft.readStats_ofSystem] at hown hnext
    have hothers := ih (n := n + 1) (by simp [hn]) hnext hr
    rw [List.filterMap_append, List.filterMap_append, ← eq_of_worded he,
      noCycles_entryIssues.filterMap_eq_nil, hown, hothers, hn, List.zipIdx_cons,
      List.filterMap_cons]
    dsimp only
    cases stat.cycle? s.stats <;> rfl

/-- Where validation lists issues, those that tell of cycles are those of the cycles of the stats,
in the order of the stats. -/
theorem cycles_of_issues (h : s.issues strict = .ok found) :
    found.filterMap Issue.cycle? =
      s.cycles.map fun (i, path) ↦ (itemPath "stats" i ++ ".formula", path) := by
  obtain ⟨stats, hs, h⟩ := bind_eq_ok h
  obtain ⟨sections, ht, h⟩ := bind_eq_ok h
  obtain ⟨integrations, hi, h⟩ := bind_eq_ok h
  cases h
  have hserves := CycleChecker.serves_new s.stats
  rw [Draft.readStats_ofSystem] at hs
  have hstats := cycles_of_allStatIssues (n := 0) rfl hserves hs
  have hhead : NoCycles (headIssues (Draft.ofSystem s).head ++
      issueIf (Draft.ofSystem s).stats.isNone "stats" (.notAList "stats") ++
      issueIf (Draft.ofSystem s).sections.isNone "sections" (.notAList "sections")) :=
    ((NoCycles.of_common (foundBelow_headIssues _)).append (.of_common (.issueIf rfl))).append
      (.of_common (.issueIf rfl))
  have hintegrations : NoCycles integrations := .of_common (foundBelow_integrationIssues hi)
  rw [List.filterMap_append, List.filterMap_append, List.filterMap_append,
    hhead.filterMap_eq_nil, hstats, (noCycles_allSectionIssues ht).filterMap_eq_nil,
    hintegrations.filterMap_eq_nil, List.append_nil, List.append_nil]
  rfl

end GameSystem
end CharacterSheet
