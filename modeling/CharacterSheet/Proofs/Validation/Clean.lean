import CharacterSheet.Proofs.Editing.Acyclicity
import CharacterSheet.Proofs.Validation.Exactness
import CharacterSheet.Proofs.Validation.Links

/-!
# Schemas without issues

A schema is clean when each of its parts is in order by itself, no id occurs twice, formulas ask
for stats that hold values only, and every way along formulas ends. Main statement: plain
validation lists no issues exactly of clean schemas.
-/

namespace CharacterSheet
open Validation

open Arithmetic.Template (bind_eq_ok)
open Json.Bounded (exists_of_map_eq_ok)

/-! ### Clean schemas -/

/-- What a stat has of its own is in order. -/
structure Stat.IsTidy (s : Stat) : Prop where
  name : s.name.default ≠ ""
  bounds : ∀ low high rolls, s.detail = .numeric (some low) (some high) rolls →
    Number.compare .gt low high = false
  options : ∀ options ∈ s.ownOptions?, options.length ≤ maxOptions ∧
    (options.map (·.value)).Nodup ∧ ∀ o ∈ options, o.name.default ≠ ""
  formula : s.formula? ≠ some ""

/-- What a section has of its own is in order. -/
structure SheetSection.IsTidy (s : SheetSection) : Prop where
  name : s.name.default ≠ ""
  kind : s.preview.kind ≠ none

/-- The parts of a schema are in order, by themselves and together. -/
structure GameSystem.IsClean (s : GameSystem) : Prop where
  headId : s.config.id ≠ none
  headName : s.config.name.default ≠ ""
  stats : ∀ stat ∈ s.stats, stat.IsTidy
  sections : ∀ sec ∈ s.sections, sec.IsTidy
  statIds : s.HasDistinctIds
  sectionIds : (s.sections.map (·.id)).Nodup
  references : ∀ stat ∈ s.stats, ∀ f ∈ stat.formula?, AsksForValues s.stats f
  grounded : ∀ id, Grounded (storedFormula? s.stats) id

/-! ### Formulas that were looked at -/

/-- Dependencies were found only where the ids of a formula can be read. -/
theorem readableIds_of_dependencies {formula : String} {deps : List Int}
    (h : dependencies formula = .ok deps) : ReadableIds formula := by
  obtain ⟨ids, hi, -⟩ := exists_of_map_eq_ok h
  exact readableIds_of_statValueIds hi

/-- The dependencies that were found are the stats whose values the formula asks for. -/
theorem mem_dependencies_iff {formula : String} {deps : List Int}
    (h : dependencies formula = .ok deps) (id : Int) : id ∈ deps ↔ AsksFor formula id := by
  obtain ⟨_, hd, -, hm⟩ := exists_dependencies (readableIds_of_dependencies h)
  cases h.symm.trans hd
  exact hm id

namespace Validation
variable {strict : Bool} {path : String} {checker : CycleChecker}

/-- The ids in a formula that was looked at can be read. -/
theorem readableIds_of_detailIssues {stats : List Stat} {s : Stat}
    {found : List Issue × CycleChecker} (h : detailIssues stats strict path s checker = .ok found) :
    ∀ f ∈ s.formula?, ReadableIds f := by
  intro f hf
  obtain ⟨rolls, hd⟩ := Stat.detail_of_formula? hf
  simp only [detailIssues, hd, formulaIssues] at h
  split at h
  · next he =>
    rw [String.isEmpty_iff.mp he]
    exact readableIds_of_length_le (by decide)
  · obtain ⟨answer, -, h⟩ := bind_eq_ok h
    obtain ⟨cycles, -, h⟩ := bind_eq_ok h
    obtain ⟨references, ht, h⟩ := bind_eq_ok h
    obtain ⟨ids, hi, -⟩ := exists_of_map_eq_ok ht
    exact readableIds_of_statValueIds hi

/-- The ids in all formulas that were looked at can be read. -/
theorem readableIds_of_allStatIssues {d : Draft} {before : List (Option Int)}
    {entries : List (Entry Stat)} {found : List Issue}
    (h : allStatIssues d strict before checker entries = .ok found) :
    ∀ e ∈ entries, ∀ s ∈ e.item, ∀ f ∈ s.formula?, ReadableIds f := by
  induction entries generalizing before checker found with
  | nil => simp
  | cons e rest ih =>
    obtain ⟨entry, -, h⟩ := bind_eq_ok h
    dsimp only at h
    split at h
    · next s hs =>
      obtain ⟨⟨own, next⟩, ho, h⟩ := bind_eq_ok h
      obtain ⟨others, hr, -⟩ := bind_eq_ok h
      obtain ⟨⟨detail, _⟩, hd, -⟩ := bind_eq_ok ho
      refine List.forall_mem_cons.mpr ⟨?_, ih hr⟩
      rw [hs]
      rintro _ ⟨⟩
      exact readableIds_of_detailIssues hd
    · next hs =>
      obtain ⟨_, ho, h⟩ := bind_eq_ok h
      obtain ⟨others, hr, -⟩ := bind_eq_ok h
      exact List.forall_mem_cons.mpr ⟨by simp [hs], ih hr⟩

end Validation

namespace GameSystem
variable {s : GameSystem}

/-- Where validation lists issues, the ids in formulas can be read. -/
theorem hasReadableFormulas_of_issues {strict : Bool} {found : List Issue}
    (h : s.issues strict = .ok found) : s.HasReadableFormulas := by
  obtain ⟨stats, hs, -⟩ := bind_eq_ok h
  exact fun stat hm ↦
    readableIds_of_allStatIssues hs _ (List.mem_map_of_mem hm) stat rfl

/-- Nothing is listed exactly when all formulas can be read and nothing is violated. -/
theorem issues_eq_nil_iff :
    s.issues false = .ok [] ↔ s.HasReadableFormulas ∧ ∀ x, ¬ s.Violates x := by
  constructor
  · intro h
    have hr := hasReadableFormulas_of_issues h
    obtain ⟨issues, hi, hm⟩ := found_issues hr
    have : issues = [] := eq_of_worded (hm.symm.trans h)
    exact ⟨hr, hi.eq_nil_iff.mp this⟩
  · rintro ⟨hr, hv⟩
    obtain ⟨issues, hi, hm⟩ := found_issues hr
    rw [hm, hi.eq_nil_iff.mpr hv]
    rfl

end GameSystem

/-! ### What is violated in no place -/

/-- No image of an item occurs among those before it exactly when none occurs twice. -/
theorem nodup_map_iff {α β : Type} {f : α → β} {as : List α} :
    (as.map f).Nodup ↔ ∀ i, ∀ a ∈ as[i]?, f a ∉ (as.take i).map f := by
  constructor
  · intro h i a ha hm
    obtain ⟨hi, rfl⟩ := List.getElem?_eq_some_iff.mp ha
    obtain ⟨b, hb, he⟩ := List.mem_map.mp hm
    obtain ⟨j, hj, rfl⟩ := List.mem_take_iff_getElem.mp hb
    have hi' : i < (as.map f).length := by simpa using hi
    have hj' : j < (as.map f).length := by omega
    have hsame : (as.map f)[j] = (as.map f)[i] := by simpa using he
    have := (List.getElem_inj h).mp hsame
    omega
  · intro h
    refine List.pairwise_iff_getElem.mpr fun i j hi hj hlt he ↦ ?_
    rw [List.length_map] at hi hj
    rw [List.getElem_map, List.getElem_map] at he
    refine h j as[j] (List.getElem?_eq_getElem hj) (List.mem_map.mpr ⟨as[i], ?_, he⟩)
    exact List.mem_take_iff_getElem.mpr ⟨i, by omega, rfl⟩

/-- Where the ids in formulas can be read, a stat is grounded exactly when no cycle is reached. -/
theorem grounded_iff {stats : List Stat} {target : Int} {formula : String}
    (h : ReadableFormulas (formulaAt stats target formula)) :
    Grounded (formulaAt stats target formula) target ↔
      ¬ ReachesCycle (DependsOn (formulaAt stats target formula)) target := by
  rw [← findCycle_eq_none_iff]
  rcases findCycle_cases h with ⟨hp, hn⟩ | ⟨path, hp, hl⟩
  · exact iff_of_true hp hn
  · exact iff_of_false (by simp [hp]) (not_not_intro hl.reachesCycle)

namespace GameSystem
variable {s : GameSystem}

/-- With distinct ids, the graph with the formula of a stat put at its id is the stored one. -/
theorem formulaAt_of_mem (hd : s.HasDistinctIds) {stat : Stat} {f : String} (hm : stat ∈ s.stats)
    (hf : stat.formula? = some f) :
    formulaAt s.stats stat.id f = storedFormula? s.stats :=
  formulaAt_of_stored ((storedFormula?_eq_some_iff hd).mpr ⟨stat, hm, rfl, hf⟩)

theorem isTidy_of_not_violates {stat : Stat} (h : ∀ x, ¬ s.Violates x) (hm : stat ∈ s.stats) :
    stat.IsTidy := by
  obtain ⟨i, hs⟩ := List.getElem?_of_mem hm
  refine ⟨fun he ↦ h (.statName i) ⟨stat, hs, he⟩, fun low high rolls hd ↦ ?_,
    fun options ho ↦ ⟨?_, ?_, ?_⟩, fun he ↦ h (.formula i) ⟨stat, hs, he⟩⟩
  · exact eq_false_of_ne_true fun hgt ↦
      h (.bounds i) ⟨stat, hs, low, high, rolls, hd, hgt⟩
  · exact Nat.le_of_not_lt fun hgt ↦ h (.optionCount i) ⟨stat, hs, options, ho, hgt⟩
  · exact nodup_map_iff.mpr fun j o hj hv ↦
      h (.optionValue i j) ⟨stat, hs, options, ho, o, hj, hv⟩
  · intro o hmem he
    obtain ⟨j, hj⟩ := List.getElem?_of_mem hmem
    exact h (.optionName i j) ⟨stat, hs, options, ho, o, hj, he⟩

theorem isClean_of_not_violates (hr : s.HasReadableFormulas) (h : ∀ x, ¬ s.Violates x) :
    s.IsClean := by
  have hids : s.HasDistinctIds := nodup_map_iff.mpr fun i stat hs hm ↦
    h (.statId i) ⟨stat, hs, hm⟩
  refine {
    headId := h .headId
    headName := h .headName
    stats := fun stat hm ↦ isTidy_of_not_violates h hm
    sections := fun sec hm ↦ ?_
    statIds := hids
    sectionIds := nodup_map_iff.mpr fun i sec hs hm ↦ h (.sectionId i) ⟨sec, hs, hm⟩
    references := fun stat hm f hf id ha ↦ ?_
    grounded := fun id ↦ ?_ }
  · obtain ⟨i, hs⟩ := List.getElem?_of_mem hm
    exact ⟨fun he ↦ h (.sectionName i) ⟨sec, hs, he⟩, fun he ↦ h (.previewKind i) ⟨sec, hs, he⟩⟩
  · obtain ⟨i, hs⟩ := List.getElem?_of_mem hm
    by_contra hn
    refine h (.reference i id) ⟨stat, hs, f, hf, ha, fun other ho ↦ ?_⟩
    exact eq_true_of_ne_false fun ht ↦ hn ⟨other, ho, ht⟩
  · cases hf : storedFormula? s.stats id with
    | none => exact .leaf hf
    | some f =>
      obtain ⟨stat, hm, rfl, hs⟩ := (storedFormula?_eq_some_iff hids).mp hf
      obtain ⟨i, hi⟩ := List.getElem?_of_mem hm
      rw [← formulaAt_of_mem hids hm hs, grounded_iff]
      · exact fun hc ↦ h (.cycle i) ⟨stat, hi, f, hs, hc⟩
      · exact readableFormulas_formulaAt (hr stat hm f hs) hr

namespace IsClean

/-- The ids in the formulas of a clean schema can be read. -/
theorem hasReadableFormulas (h : s.IsClean) : s.HasReadableFormulas := by
  intro stat hm f hf
  have hstored := (storedFormula?_eq_some_iff h.statIds).mpr ⟨stat, hm, rfl, hf⟩
  obtain ⟨deps, hd, -⟩ := (h.grounded stat.id).exists_dependencies hstored
  exact readableIds_of_dependencies hd

/-- In a clean schema nothing is violated. -/
theorem not_violates (h : s.IsClean) (x : Site) : ¬ s.Violates x := by
  have stat_of {i : Nat} {stat : Stat} (hs : s.stats[i]? = some stat) : stat.IsTidy :=
    h.stats stat (List.mem_of_getElem? hs)
  cases x with
  | headId => exact h.headId
  | headName => exact h.headName
  | statName i =>
    rintro ⟨stat, hs, he⟩
    exact (stat_of hs).name he
  | sectionName i =>
    rintro ⟨sec, hs, he⟩
    exact (h.sections sec (List.mem_of_getElem? hs)).name he
  | optionName i j =>
    rintro ⟨stat, hs, options, ho, o, hj, he⟩
    exact ((stat_of hs).options options ho).2.2 o (List.mem_of_getElem? hj) he
  | statId i =>
    rintro ⟨stat, hs, hm⟩
    exact nodup_map_iff.mp h.statIds i stat hs hm
  | sectionId i =>
    rintro ⟨sec, hs, hm⟩
    exact nodup_map_iff.mp h.sectionIds i sec hs hm
  | bounds i =>
    rintro ⟨stat, hs, low, high, rolls, hd, hgt⟩
    exact absurd hgt (by simp [(stat_of hs).bounds low high rolls hd])
  | optionCount i =>
    rintro ⟨stat, hs, options, ho, hgt⟩
    exact Nat.not_lt.mpr ((stat_of hs).options options ho).1 hgt
  | optionValue i j =>
    rintro ⟨stat, hs, options, ho, o, hj, hm⟩
    exact nodup_map_iff.mp ((stat_of hs).options options ho).2.1 j o hj hm
  | formula i =>
    rintro ⟨stat, hs, he⟩
    exact (stat_of hs).formula he
  | cycle i =>
    rintro ⟨stat, hs, f, hf, hc⟩
    have hm := List.mem_of_getElem? hs
    have hr : ReadableFormulas (formulaAt s.stats stat.id f) :=
      readableFormulas_formulaAt (h.hasReadableFormulas stat hm f hf) h.hasReadableFormulas
    refine (grounded_iff hr).mp ?_ hc
    rw [formulaAt_of_mem h.statIds hm hf]
    exact h.grounded stat.id
  | reference i id =>
    rintro ⟨stat, hs, f, hf, ha, htext⟩
    obtain ⟨other, ho, ht⟩ := h.references stat (List.mem_of_getElem? hs) f hf id ha
    exact absurd (htext other ho) (by simp [ht])
  | previewKind i =>
    rintro ⟨sec, hs, he⟩
    exact (h.sections sec (List.mem_of_getElem? hs)).kind he

end IsClean

/-- Plain validation lists no issues exactly of clean schemas. -/
theorem issues_eq_nil_iff_isClean : s.issues false = .ok [] ↔ s.IsClean := by
  rw [issues_eq_nil_iff]
  exact ⟨fun ⟨hr, h⟩ ↦ isClean_of_not_violates hr h,
    fun h ↦ ⟨h.hasReadableFormulas, h.not_violates⟩⟩

/-! ### A stat that is calculated from another -/

/-- The first stat of a schema that has a stat beside it. -/
def firstStat (detail : StatDetail) : Stat := { id := 1, name := { default := "A" }, detail }

/-- A schema with a stat and, beside it, one that is calculated by a formula. -/
def calculatedBeside (detail : StatDetail) (formula : String) : GameSystem where
  config := { id := some 1, name := { default := "S" } }
  stats := [firstStat detail,
    { id := 2, name := { default := "B" }, detail := .calculated formula {} }]

/-- The formula leads to the first stat, which has none. -/
theorem isClean_calculatedBeside {detail : StatDetail} {formula : String}
    (hdeps : dependencies formula = .ok [1]) (hne : formula ≠ "")
    (htidy : (firstStat detail).IsTidy) (hvalue : (firstStat detail).isText = false)
    (hleaf : (firstStat detail).formula? = none) : (calculatedBeside detail formula).IsClean := by
  have hids : (calculatedBeside detail formula).HasDistinctIds := (by decide : [(1 : Int), 2].Nodup)
  refine {
    headId := nofun
    headName := (by decide : "S" ≠ "")
    stats := fun stat hm ↦ ?_
    sections := fun sec hm ↦ absurd hm List.not_mem_nil
    statIds := hids
    sectionIds := List.nodup_nil
    references := fun stat hm f hf id ha ↦ ?_
    grounded := fun id ↦ ?_ }
  · obtain rfl | rfl := List.mem_pair.mp hm
    · exact htidy
    · exact ⟨(by decide : "B" ≠ ""), nofun, nofun, fun he ↦ hne (Option.some.inj he)⟩
  · obtain rfl | rfl := List.mem_pair.mp hm
    · rw [hleaf] at hf
      cases hf
    · cases hf
      obtain rfl := List.mem_singleton.mp ((mem_dependencies_iff hdeps id).mpr ha)
      exact ⟨_, rfl, hvalue⟩
  · cases hf : storedFormula? (calculatedBeside detail formula).stats id with
    | none => exact .leaf hf
    | some f =>
      obtain ⟨stat, hm, rfl, hsf⟩ := (storedFormula?_eq_some_iff hids).mp hf
      obtain rfl | rfl := List.mem_pair.mp hm
      · rw [hleaf] at hsf
        cases hsf
      · cases hsf
        have hfirst : storedFormula? (calculatedBeside detail formula).stats 1 = none := hleaf
        exact .node hf hdeps (List.forall_mem_singleton.mpr (.leaf hfirst))

end GameSystem
end CharacterSheet
