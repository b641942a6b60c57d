import CharacterSheet.Proofs.Command.Failures
import CharacterSheet.Proofs.Command.Reports
import CharacterSheet.Proofs.Editing.AvailableStats
import CharacterSheet.Proofs.Validation.CycleIssues
import CharacterSheet.Proofs.Yaml.Hexadecimal

/-!
# Cycles from all sides

The report on the dependencies of a schema, validation and the graph of the formulas each have a
list of the calculated stats of their own, and look for cycles on their own. Main statement: all of
them find cycles in the same schemas, and the report and validation find the same cycles in the same
order. But the report ends badly as well where the id of a calculated stat cannot be written.
-/

namespace CharacterSheet
open Relation

/-! ### Cycles of a graph -/

/-- A graph leads from some id back to it. -/
def LeadsBack (graph : List (Int × List Int)) : Prop := ∃ id, TransGen (Leads graph) id id

/-- A graph without the dependencies that have no entry of their own. -/
def amongKeys (graph : List (Int × List Int)) : List (Int × List Int) :=
  graph.map fun (id, deps) ↦ (id, deps.filter (graph.map Prod.fst).contains)

section
variable {graph : List (Int × List Int)} {a b : Int}

theorem leads_amongKeys_iff :
    Leads (amongKeys graph) a b ↔ Leads graph a b ∧ b ∈ graph.map Prod.fst := by
  constructor
  · rintro ⟨_, hm, hb⟩
    obtain ⟨⟨id, deps⟩, hg, he⟩ := List.mem_map.mp hm
    cases he
    obtain ⟨hb, hk⟩ := List.mem_filter.mp hb
    exact ⟨⟨deps, hg, hb⟩, by simpa using hk⟩
  · rintro ⟨⟨deps, hg, hb⟩, hk⟩
    refine ⟨_, List.mem_map.mpr ⟨(a, deps), hg, rfl⟩, List.mem_filter.mpr ⟨hb, ?_⟩⟩
    simpa using hk

/-- What leads on has an entry. -/
theorem Leads.mem_keys (h : Leads graph a b) : a ∈ graph.map Prod.fst := by
  obtain ⟨deps, hm, -⟩ := h
  exact List.mem_map.mpr ⟨_, hm, rfl⟩

/-- A way to an id with an entry runs through ids with entries. -/
theorem transGen_amongKeys (h : TransGen (Leads graph) a b) (hb : b ∈ graph.map Prod.fst) :
    TransGen (Leads (amongKeys graph)) a b := by
  induction h using TransGen.head_induction_on with
  | single hab => exact .single (leads_amongKeys_iff.mpr ⟨hab, hb⟩)
  | head hac hcb ih =>
    obtain ⟨_, hc, -⟩ := TransGen.head'_iff.mp hcb
    exact ih.head (leads_amongKeys_iff.mpr ⟨hac, hc.mem_keys⟩)

/-- All ids on a way back have entries. -/
theorem leadsBack_amongKeys_iff : LeadsBack (amongKeys graph) ↔ LeadsBack graph := by
  constructor
  · rintro ⟨id, h⟩
    exact ⟨id, TransGen.mono (fun _ _ hl ↦ (leads_amongKeys_iff.mp hl).1) _ _ h⟩
  · rintro ⟨id, h⟩
    obtain ⟨_, hl, -⟩ := TransGen.head'_iff.mp h
    exact ⟨id, transGen_amongKeys h hl.mem_keys⟩

end

/-! ### Cycles of a schema -/

theorem hasCycle_eq_true_iff {stats : List Stat} {id : Int} {f : String} :
    hasCycle stats id f = .ok true ↔ ∃ path, findCycle stats id f = .ok (some path) := by
  rw [hasCycle]
  rcases findCycle stats id f with e | _ | path <;> simp [Except.map]

theorem Stat.isSome_cycle?_iff {stats : List Stat} {s : Stat} :
    (s.cycle? stats).isSome = true ↔ ∃ f ∈ s.formula?, hasCycle stats s.id f = .ok true := by
  simp only [hasCycle_eq_true_iff]
  cases hf : s.formula? with
  | none => simp [cycle?_of_not_calculated hf]
  | some f =>
    rw [cycle?_of_formula? hf]
    simp only [Option.mem_some_iff, exists_eq_left']
    rcases findCycle stats s.id f with e | _ | path <;> simp [Except.toOption]

namespace GameSystem
variable {s : GameSystem} {graph : List (Int × List Int)}

/-- The cycles of the stats, without the indexes of the stats. -/
theorem map_snd_cycles (s : GameSystem) :
    s.cycles.map Prod.snd = s.stats.filterMap (Stat.cycle? s.stats) := by
  calc
    _ = s.stats.zipIdx.filterMap (Stat.cycle? s.stats ∘ Prod.fst) := by
      rw [cycles, List.map_filterMap]
      refine List.filterMap_congr fun ⟨stat, i⟩ _ ↦ ?_
      dsimp only [Function.comp]
      cases stat.cycle? s.stats <;> rfl
    _ = _ := by rw [← List.filterMap_map, List.zipIdx_map_fst]

/-- Cycles are found when one is found from some stat. -/
theorem cycles_ne_nil_iff :
    s.cycles ≠ [] ↔
      ∃ stat ∈ s.stats, ∃ f ∈ stat.formula?, hasCycle s.stats stat.id f = .ok true := by
  simp only [← Stat.isSome_cycle?_iff]
  rw [ne_eq, ← List.map_eq_nil_iff (f := Prod.snd), map_snd_cycles, List.filterMap_eq_nil_iff]
  simp [Option.isSome_iff_ne_none]

section
variable (hd : s.HasDistinctIds) (hf : s.HasReadableFormulas)
include hd hf

/-- The graph is made when the ids in all formulas can be read. -/
theorem exists_dependencyGraph : ∃ graph, dependencyGraph s.stats = .ok graph := by
  refine exists_mapM_eq_ok_iff.mpr fun p hm ↦ ?_
  obtain ⟨stat, f⟩ := p
  obtain ⟨hs, hsf⟩ := (mem_distinctCalculated_iff hd).mp hm
  obtain ⟨deps, hdeps, -⟩ := exists_dependencies (hf stat hs f hsf)
  exact ⟨(stat.id, deps), by simp only [hdeps]; rfl⟩

/-- From some stat a cycle is found exactly when the graph leads back somewhere. -/
theorem exists_hasCycle_iff (hg : dependencyGraph s.stats = .ok graph) :
    (∃ stat ∈ s.stats, ∃ f ∈ stat.formula?, hasCycle s.stats stat.id f = .ok true) ↔
      LeadsBack graph := by
  have hread {stat : Stat} {f : String} (hm : stat ∈ s.stats) (hsf : f ∈ stat.formula?) :
      ReadableFormulas (formulaAt s.stats stat.id f) :=
    readableFormulas_formulaAt (hf stat hm f hsf) hf
  have hedges {stat : Stat} {f : String} (hm : stat ∈ s.stats) (hsf : f ∈ stat.formula?) :
      DependsOn (formulaAt s.stats stat.id f) = Leads graph := by
    rw [formulaAt_of_mem hd hm hsf, leads_eq hd hg]
  constructor
  · rintro ⟨stat, hm, f, hsf, h⟩
    obtain ⟨path, hpath⟩ := hasCycle_eq_true_iff.mp h
    have hl := isLasso_of_findCycle hpath
    rw [leadsTo_eq (hread hm hsf), hedges hm hsf] at hl
    obtain ⟨v, -, hv⟩ := hl.reachesCycle
    exact ⟨v, hv⟩
  · rintro ⟨id, h⟩
    obtain ⟨f, hstored⟩ : ∃ f, storedFormula? s.stats id = some f := by
      obtain ⟨_, hl, -⟩ := TransGen.head'_iff.mp h
      rw [leads_eq hd hg] at hl
      obtain ⟨f, hstored, -⟩ := hl
      exact ⟨f, hstored⟩
    obtain ⟨stat, hm, rfl, hsf⟩ := (storedFormula?_eq_some_iff hd).mp hstored
    refine ⟨stat, hm, f, hsf, hasCycle_eq_true_iff.mpr ?_⟩
    rcases findCycle_cases (hread hm hsf) with ⟨-, hn⟩ | ⟨path, hpath, -⟩
    · exact absurd ⟨stat.id, .refl, (hedges hm hsf).symm ▸ h⟩ hn
    · exact ⟨path, hpath⟩

end

/-- Where validation lists issues, some tell of cycles exactly when cycles are found. -/
theorem exists_circular_iff {strict : Bool} {issues : List Issue}
    (h : s.issues strict = .ok issues) :
    (∃ i ∈ issues, i.cause.kind = .circularDependency) ↔ s.cycles ≠ [] := by
  have hkind (i : Issue) : i.cause.kind = .circularDependency ↔ i.cycle? ≠ none := by
    rw [Issue.cycle?]
    cases i.cause <;> simp [IssueCause.kind, IssueCause.cycle?]
  rw [ne_eq, ← List.map_eq_nil_iff (f := fun c : Nat × List Int ↦
    (Validation.itemPath "stats" c.1 ++ ".formula", c.2)), ← cycles_of_issues h,
    List.filterMap_eq_nil_iff]
  simp [hkind]

end GameSystem

/-! ### The report on dependencies -/

namespace Report
variable {stats : List Stat} {checker : CycleChecker}

/-- The report on a stat whose id cannot be written ends badly. -/
theorem status_onFormula {s : Stat} (hw : Numeral.isWritable s.id = false) (formula : String)
    (cycle : CycleAnswer) : (onFormula s formula cycle).ending.status = 1 := by
  have hid : Numeral.writeInteger s.id = .error .tooLargeToWrite := by
    rw [Numeral.writeInteger, hw]
    rfl
  unfold onFormula
  rw [hid]
  cases dependencies formula <;> rfl

theorem status_onFormulas {rest : List (Stat × String)}
    (h : ∃ p ∈ rest, Numeral.isWritable p.1.id = false) :
    (onFormulas checker rest).ending.status = 1 := by
  induction rest generalizing checker with
  | nil => simp at h
  | cons p rest ih =>
    obtain ⟨q, hq, hw⟩ := h
    refine (status_append _ _).mpr ?_
    rcases List.mem_cons.mp hq with rfl | hq
    · exact .inl (status_onFormula hw _ _)
    · exact .inr (ih ⟨q, hq, hw⟩)

/-- The report on stats whose ids can be written comes to its end and notes the cycles of the stats
one after the other. -/
theorem onFormulas_eq {rest : List (Stat × String)} (hc : checker.Serves stats)
    (hf : ∀ p ∈ rest, p.1.formula? = some p.2) (hw : ∀ p ∈ rest, Numeral.isWritable p.1.id = true)
    (hr : ∀ p ∈ rest, ReadableFormulas (formulaAt stats p.1.id p.2)) :
    ∃ output, onFormulas checker rest = {
      output, notices := (rest.filterMap fun p ↦ p.1.cycle? stats).map cycleNotice } := by
  induction rest generalizing checker with
  | nil => exact ⟨[], rfl⟩
  | cons p rest ih =>
    obtain ⟨s, f⟩ := p
    obtain ⟨hsf, hf⟩ := List.forall_mem_cons.mp hf
    obtain ⟨(hid : Numeral.isWritable s.id = true), hw⟩ := List.forall_mem_cons.mp hw
    obtain ⟨hread, hr⟩ := List.forall_mem_cons.mp hr
    obtain ⟨hfind, hnext⟩ := hc.answers s.id f
    obtain ⟨answer, ha⟩ := exists_findCycle_eq_ok hread
    obtain ⟨deps, hdeps, -⟩ := exists_dependencies (hread s.id f formulaAt_target)
    obtain ⟨output, ho⟩ := ih hnext hf hw hr
    have hid : Numeral.writeInteger s.id = .ok (toString s.id) := by
      simp only [Numeral.writeInteger, hid, if_true]
    have hcycle : s.cycle? stats = answer := by
      rw [Stat.cycle?_of_formula? hsf, ha]
      rfl
    refine ⟨dependencyRow (toString s.id) s deps :: output, ?_⟩
    have hfirst : onFormula s f (.ok answer) = {
        output := [dependencyRow (toString s.id) s deps]
        notices := (answer.map cycleNotice).toList } := by
      unfold onFormula
      rw [hdeps, hid]
      rfl
    rw [onFormulas]
    dsimp only
    rw [hfind, ha, hfirst, ho, List.filterMap_cons, hcycle]
    cases answer <;> rfl

variable {s : GameSystem} (hd : s.HasDistinctIds) (hf : s.HasReadableFormulas)
include hd hf

/-- The report on the dependencies of a schema notes its cycles and ends badly when there are some.
-/
theorem onDependencies_eq
    (hw : ∀ stat ∈ s.stats, ∀ f ∈ stat.formula?, Numeral.isWritable stat.id = true) :
    ∃ output, onDependencies s = {
      output, notices := s.cycles.map fun (_, path) ↦ cycleNotice path
      ending := if s.cycles = [] then .done else .failed } := by
  obtain ⟨graph, hg⟩ := GameSystem.exists_dependencyGraph hd hf
  have hmem : ∀ p ∈ distinctCalculated s.stats, p.1 ∈ s.stats ∧ p.1.formula? = some p.2 :=
    fun _ ↦ (mem_distinctCalculated_iff hd).mp
  have hread : ∀ p ∈ distinctCalculated s.stats,
      ReadableFormulas (formulaAt s.stats p.1.id p.2) := fun p hm ↦
    readableFormulas_formulaAt (hf _ (hmem p hm).1 _ (hmem p hm).2) hf
  obtain ⟨output, ho⟩ := onFormulas_eq (CycleChecker.serves_new s.stats)
    (fun p hm ↦ (hmem p hm).2) (fun p hm ↦ hw _ (hmem p hm).1 _ (hmem p hm).2) hread
  have hnotices : (distinctCalculated s.stats).filterMap (fun p ↦ p.1.cycle? s.stats) =
      s.cycles.map Prod.snd := by
    rw [s.map_snd_cycles, distinctCalculated_of_nodup hd, List.filterMap_filterMap]
    refine List.filterMap_congr fun stat _ ↦ ?_
    cases hs : stat.formula? with
    | none => exact (Stat.cycle?_of_not_calculated hs).symm
    | some f => rfl
  rw [hnotices, List.map_map] at ho
  refine ⟨output, ?_⟩
  rw [onDependencies, hg]
  dsimp only
  rw [ho, append_of_done rfl]
  cases s.cycles <;> simp

/-- The report on the dependencies of a schema ends badly when the id of a calculated stat cannot be
written. -/
theorem status_onDependencies
    (hw : ∃ stat ∈ s.stats, ∃ f ∈ stat.formula?, Numeral.isWritable stat.id = false) :
    (onDependencies s).ending.status = 1 := by
  obtain ⟨graph, hg⟩ := GameSystem.exists_dependencyGraph hd hf
  obtain ⟨stat, hm, f, hsf, hid⟩ := hw
  rw [onDependencies, hg]
  have hcalculated := (mem_distinctCalculated_iff hd).mpr ⟨hm, hsf⟩
  exact (status_append _ _).mpr (.inl (status_onFormulas ⟨(stat, f), hcalculated, hid⟩))

end Report

/-! ### All sides -/

namespace Program
open Validation

/-- For a schema that is read from a file, a cycle is found from some calculated stat exactly when
the graph of the formulas leads from some id back to it by ids with entries. Then and only then
validation, strict or not, tells of a cycle, and then and only then the report on dependencies ends
badly; what both tell are the cycles that are found from the stats, in the order of the stats.
Validation may stop at an id in a message that cannot be written, and the report ends badly at such
an id of a calculated stat as well. -/
theorem cycles_agree {p : Program} {w : Workspace} {dice : Nat → Nat} {arguments : List String}
    {source : Path} {s : GameSystem} (hp : p.read arguments = .ok (.dependencies source))
    (hs : w.store.readSystem source = .ok s) (hd : s.HasDistinctIds)
    (hf : s.HasReadableFormulas) :
    ∃ (graph : List (Int × List Int)) (report : Report),
      dependencyGraph s.stats = .ok graph ∧ p.run w dice arguments = (.ok report, w) ∧
      ((∃ stat ∈ s.stats, ∃ f ∈ stat.formula?, hasCycle s.stats stat.id f = .ok true) ↔
        LeadsBack (amongKeys graph)) ∧
      (∀ strict issues, s.issues strict = .ok issues →
        ((∃ i ∈ issues, i.cause.kind = .circularDependency) ↔ LeadsBack (amongKeys graph)) ∧
        issues.filterMap Issue.cycle? =
          s.cycles.map fun (i, path) ↦ (itemPath "stats" i ++ ".formula", path)) ∧
      (∃ found, s.ReportsExactly s.Violates found ∧ s.issues false = worded found) ∧
      ((∀ stat ∈ s.stats, ∀ f ∈ stat.formula?, Numeral.isWritable stat.id = true) →
        (exitStatus (.ok report) = 1 ↔ LeadsBack (amongKeys graph)) ∧
        report.notices = s.cycles.map fun (_, path) ↦ Report.cycleNotice path) ∧
      ((∃ stat ∈ s.stats, ∃ f ∈ stat.formula?, Numeral.isWritable stat.id = false) →
        exitStatus (.ok report) = 1) := by
  obtain ⟨graph, hg⟩ := GameSystem.exists_dependencyGraph hd hf
  have hcycle := GameSystem.exists_hasCycle_iff hd hf hg
  rw [← leadsBack_amongKeys_iff] at hcycle
  have hfound : s.cycles ≠ [] ↔ LeadsBack (amongKeys graph) :=
    GameSystem.cycles_ne_nil_iff.trans hcycle
  have hrun : p.run w dice arguments = (.ok (Report.onDependencies s), w) := by
    rw [run_of_read hp, Workspace.run, Report.onSystem, hs]
  refine ⟨graph, _, hg, hrun, hcycle, fun strict issues h ↦ ⟨?_, GameSystem.cycles_of_issues h⟩,
    found_issues hf, fun hw ↦ ?_, Report.status_onDependencies hd hf⟩
  · exact (GameSystem.exists_circular_iff h).trans hfound
  · obtain ⟨output, ho⟩ := Report.onDependencies_eq hd hf hw
    rw [ho, exitStatus, ← hfound]
    refine ⟨?_, rfl⟩
    split <;> simp_all [Ending.status]

/-- Two calculated stats that ask for each other. -/
theorem cycles_agree_mutual :
    let w : Workspace := { store := { files := [(["s.json"],
      "\x7b\"stats\": [\x7b\"type\": \"calculated\", \"id\": 1, " ++
      "\"formula\": \"<stat:2:value>\"\x7d, \x7b\"type\": \"calculated\", \"id\": 2, " ++
      "\"formula\": \"<stat:1:value>\"\x7d]\x7d")] } }
    ∃ (s : GameSystem) (report : Report),
      w.store.readSystem ⟨false, ["s.json"]⟩ = .ok s ∧ s.HasDistinctIds ∧
      s.HasReadableFormulas ∧ dependencyGraph s.stats = .ok [(1, [2]), (2, [1])] ∧
      LeadsBack (amongKeys [(1, [2]), (2, [1])]) ∧
      (∃ stat ∈ s.stats, ∃ f ∈ stat.formula?, hasCycle s.stats stat.id f = .ok true) ∧
      (∀ strict issues, s.issues strict = .ok issues →
        ∃ i ∈ issues, i.cause.kind = .circularDependency) ∧
      workbench.run w (fun _ ↦ 0) ["deps", "s.json"] = (.ok report, w) ∧
      exitStatus (.ok report) = 1 := by
  intro w
  have hread : workbench.read ["deps", "s.json"] = .ok (.dependencies ⟨false, ["s.json"]⟩) := rfl
  have hloaded : ((w.store.readSystem ⟨false, ["s.json"]⟩).toOption.any fun s ↦
      decide (s.HasDistinctIds ∧
        (∀ stat ∈ s.stats, Numeral.isWritable stat.id = true ∧
          ∀ f ∈ stat.formula?, f.length ≤ 20) ∧
        (dependencyGraph s.stats).toOption = some [(1, [2]), (2, [1])])) = true := by
    decide +kernel
  obtain ⟨s, hs, he⟩ := (Option.any_eq_true _ _).mp hloaded
  obtain ⟨hd, hmem, hg⟩ := of_decide_eq_true he
  have hf : s.HasReadableFormulas := fun stat hm f hsf ↦
    readableIds_of_length_le (Nat.le_trans ((hmem stat hm).2 f hsf) (by decide))
  have hs : w.store.readSystem ⟨false, ["s.json"]⟩ = .ok s := by
    revert hs
    cases w.store.readSystem ⟨false, ["s.json"]⟩ <;> simp [Except.toOption]
  obtain ⟨graph, report, hgraph, hrun, hcycle, hissues, -, hreport, -⟩ :=
    @cycles_agree workbench w (fun _ ↦ 0) _ _ s hread hs hd hf
  rw [hgraph] at hg
  obtain rfl := Option.some.inj hg
  have hback : LeadsBack (amongKeys [(1, [2]), (2, [1])]) :=
    ⟨1, .tail (b := 2) (.single ⟨[2], by decide, by decide⟩) ⟨[1], by decide, by decide⟩⟩
  exact ⟨s, report, hs, hd, hf, hgraph, hback, hcycle.mpr hback,
    fun strict issues hi ↦ (hissues strict issues hi).1.mpr hback, hrun,
    (hreport fun stat hm _ _ ↦ (hmem stat hm).1).1.mpr hback⟩

section
variable (id : Int)

theorem dependencyGraph_withId :
    dependencyGraph (GameSystem.withId id).stats = .ok [(id, [])] := by
  have hdeps : dependencies "1" = .ok [] := by decide +kernel
  change List.mapM _ [(_, "1")] = _
  rw [List.mapM_cons]
  dsimp only
  rw [hdeps]
  rfl

theorem findCycle_withId : findCycle (GameSystem.withId id).stats id "1" = .ok none := by
  have hdeps : dependencies "1" = .ok [] := by decide +kernel
  exact findCycle_eq_none_iff.mpr (.node formulaAt_target hdeps (by simp))

/-- Validation finds that names are missing, whatever the id is. -/
theorem issues_withId :
    (GameSystem.withId id).issues false = .ok [
      ⟨"config.id", .required "config.id"⟩,
      ⟨"config.name.default", .required "config.name.default"⟩,
      ⟨"stats[0].name.default", .required "name.default"⟩] := by
  let stat : Stat := { id, detail := .calculated "1" {} }
  let checker : CycleChecker := ⟨[stat], [], []⟩
  have hfind : (checker.find id "1").1 = .ok none :=
    ((CycleChecker.serves_new [stat]).answers id "1").1.trans (findCycle_withId id)
  have hids : statValueIds "1" = .ok [] := by decide +kernel
  have hformula : formulaIssues [stat] false "stats[0]" id "1" checker =
      .ok ([], (checker.find id "1").2) := by
    unfold formulaIssues textIssues
    rw [hids]
    generalize checker.find id "1" = found at hfind
    obtain ⟨answer, next⟩ := found
    obtain rfl : answer = .ok none := hfind
    rfl
  have hdetail : detailIssues (Draft.ofSystem (.withId id)).readStats false "stats[0]" stat
      checker = .ok ([], (checker.find id "1").2) := hformula
  have hstat : statIssues (.ofSystem (.withId id)) false "stats[0]" stat checker =
      .ok ([⟨"stats[0].name.default", .required "name.default"⟩], (checker.find id "1").2) := by
    rw [statIssues, hdetail]
    rfl
  have hentry : worded (entryIssues "stats" [] (Entry.ofItem Stat.id stat)) = .ok [] := rfl
  have hall : allStatIssues (.ofSystem (.withId id)) false [] checker [.ofItem Stat.id stat] =
      .ok [⟨"stats[0].name.default", .required "name.default"⟩] := by
    rw [allStatIssues, hentry]
    change (statIssues _ _ "stats[0]" stat checker >>= _) = _
    rw [hstat]
    rfl
  change (allStatIssues (.ofSystem (.withId id)) false [] checker [.ofItem Stat.id stat] >>= _) = _
  rw [hall]
  rfl

end

/-- The report ends badly where the id of the one calculated stat cannot be written, though the
stat asks for nothing and validation tells of no cycle. -/
theorem badly_without_cycle :
    let w : Workspace := { store := .withId ('0' :: 'x' :: '1' :: List.replicate 3572 '0') }
    ∃ (s : GameSystem) (graph : List (Int × List Int)) (report : Report) (issues : List Issue),
      w.store.readSystem ⟨false, ["s.yaml"]⟩ = .ok s ∧ s.HasDistinctIds ∧
      s.HasReadableFormulas ∧ dependencyGraph s.stats = .ok graph ∧
      ¬ LeadsBack (amongKeys graph) ∧
      (∀ stat ∈ s.stats, ∀ f ∈ stat.formula?, hasCycle s.stats stat.id f = .ok false) ∧
      s.issues false = .ok issues ∧ (∀ i ∈ issues, i.cause.kind ≠ .circularDependency) ∧
      workbench.run w (fun _ ↦ 0) ["deps", "s.yaml"] = (.ok report, w) ∧
      exitStatus (.ok report) = 1 := by
  intro w
  have hread : workbench.read ["deps", "s.yaml"] = .ok (.dependencies ⟨false, ["s.yaml"]⟩) := rfl
  have hid (n : Nat) : (Yaml.valueIn 16 ('1' :: List.replicate n '0') : Int) = 16 ^ n := by
    have hone : Yaml.valueIn 16 ['1'] = 1 := rfl
    rw [← List.singleton_append, Yaml.valueIn_append_zeros, hone, Nat.one_mul]
    exact Int.natCast_pow 16 n
  have hs : w.store.readSystem ⟨false, ["s.yaml"]⟩ = .ok (.withId (16 ^ 3572)) := by
    rw [← hid 3572]
    refine FileStore.readSystem_withId (List.cons_ne_nil _ _) (List.forall_mem_cons.mpr ⟨rfl, ?_⟩)
    exact fun c hc ↦ List.eq_of_mem_replicate hc ▸ rfl
  have hwide : Numeral.isWritable (16 ^ 3572) = false := by decide +kernel
  generalize (16 ^ 3572 : Int) = id at hs hwide
  have hissues := issues_withId id
  have hf := GameSystem.hasReadableFormulas_of_issues hissues
  have hd : (GameSystem.withId id).HasDistinctIds := List.nodup_singleton _
  have hgraph := dependencyGraph_withId id
  refine ⟨_, _, Report.onDependencies (.withId id), _, hs, hd, hf, hgraph, ?_, ?_, hissues,
    by simp [IssueCause.kind], ?_, Report.status_onDependencies hd hf ?_⟩
  · rintro ⟨v, hv⟩
    obtain ⟨_, ⟨deps, hm, hmem⟩, -⟩ := TransGen.head'_iff.mp hv
    obtain ⟨-, rfl⟩ : v = id ∧ deps = [] := by simpa [amongKeys] using hm
    exact List.not_mem_nil hmem
  · intro stat hm f hsf
    obtain rfl := List.mem_singleton.mp hm
    obtain rfl := Option.some.inj hsf
    rw [hasCycle, findCycle_withId]
    rfl
  · rw [run_of_read hread, Workspace.run, Report.onSystem, hs]
  · exact ⟨_, List.mem_singleton_self _, "1", rfl, hwide⟩

end Program
end CharacterSheet
