import CharacterSheet.Proofs.Validation.Site

/-!
# What the checks of a part find

Each check of a stat or a section looks at some sites and finds one issue for each of them that
is violated. A check that finds an issue which cannot be written fails, and so do all that come
behind it. Main statement: the checks of a stat find exactly what is wrong with it.
-/

namespace CharacterSheet
open Validation

/-! ### Findings that are put into words -/

namespace Validation
variable {xs ys zs : List Issue}

/-- Issues that can be written are put into words. -/
theorem worded_eq_ok (h : ∀ i ∈ xs, i.isWritable = true) : worded xs = .ok xs :=
  if_pos (List.all_eq_true.mpr h)

/-- Issues are put into words one list after the other as they are all at once. -/
theorem worded_append :
    (do let a ← worded xs; let b ← worded ys; return a ++ b) = worded (xs ++ ys) := by
  unfold worded
  rw [List.all_append]
  cases xs.all Issue.isWritable <;> cases ys.all Issue.isWritable <;> rfl

theorem worded_append_append :
    (do let a ← worded xs; let b ← worded ys; let c ← worded zs; return a ++ b ++ c) =
      worded (xs ++ ys ++ zs) := by
  rw [← worded_append, ← worded_append]
  cases worded xs with
  | error e => rfl
  | ok xs => cases worded ys <;> rfl

/-- Issues that have no integers in their wording can be written. -/
theorem isWritable_of_mem_issueIf {condition : Bool} {path what : String} {i : Issue}
    (h : i ∈ issueIf condition path (.required what)) : i.isWritable = true := by
  unfold issueIf at h
  split at h
  · rw [List.mem_singleton.mp h]
    rfl
  · simp at h

end Validation

namespace GameSystem

/-- What is asked of the places of a part of a schema does not hold there. -/
def ViolatesIn (s : GameSystem) (part : SchemaPart) (x : Site) : Prop :=
  s.Violates x ∧ x.part = part

/-- The ids in the formulas of a schema can be read. -/
def HasReadableFormulas (s : GameSystem) : Prop :=
  ∀ stat ∈ s.stats, ∀ f ∈ stat.formula?, ReadableIds f

namespace ReportsExactly
variable {s : GameSystem}

/-- An item whose id occurs before it is reported with the first place of that id. -/
theorem duplicate {α : Type} {key : α → Int} {items before rest : List α} {item : α} {a : Site}
    {collection : String} (hi : items = before ++ item :: rest)
    (hp : a.path = itemPath collection before.length ++ ".id")
    (h : ∀ first ∈ (items.map key).idxOf? (key item),
      s.Explains a (.duplicateId collection (key item) first before.length)) :
    s.ReportsExactly (fun x ↦ x = a ∧ key item ∈ before.map key)
      (duplicateIssues collection (before.map fun t ↦ some (key t)) (some (key item))) := by
  have hs : (before.map fun t ↦ some (key t)).idxOf? (some (key item)) =
      (before.map key).idxOf? (key item) := by
    rw [List.idxOf?, List.idxOf?, List.findIdx?_map, List.findIdx?_map]
    rfl
  simp only [duplicateIssues, hs, List.length_map]
  cases hf : (before.map key).idxOf? (key item) with
  | none => exact nil (by simpa using List.idxOf?_eq_none_iff.mp hf)
  | some first =>
    have hm : key item ∈ before.map key := List.isSome_idxOf?.mp (by rw [hf]; rfl)
    have hall : first ∈ (items.map key).idxOf? (key item) := by
      rw [List.idxOf?] at hf ⊢
      rw [hi, List.map_append, List.findIdx?_append, hf]
      rfl
    exact (single (a := a) ⟨hp.symm, h first hall⟩).congr fun x ↦ and_iff_left hm

/-- A reference to a stat that is missing or a text is reported. -/
theorem reference {i : Nat} {id : Int} :
    s.ReportsExactly
      (fun x ↦ x = .reference i id ∧ ∀ other ∈ findStat s.stats id, other.isText = true)
      (valueIssues s.stats (itemPath "stats" i ++ ".formula") "formula" id) := by
  unfold valueIssues
  cases hf : findStat s.stats id with
  | none => exact (single (a := .reference i id) ⟨rfl, by simp [Explains, hf]⟩).congr (by simp)
  | some other =>
    have h := issueIf (s := s) (.reference i id) other.isText (.textStat "formula" id)
      (by simp [Explains, hf])
    exact h.congr (by simp)

end ReportsExactly
end GameSystem

section
variable {s : GameSystem} {i : Nat} {f : String}

/-- The references in a formula are checked one by one, and what is found can be written. -/
theorem textIssues_formula (hr : ReadableIds f) :
    ∃ issues, textIssues s.stats (itemPath "stats" i ++ ".formula") "formula" f = .ok issues ∧
      (∀ x ∈ issues, x.isWritable = true) ∧
      s.ReportsExactly
        (fun x ↦ ∃ id, x = .reference i id ∧ AsksFor f id ∧
          ∀ other ∈ findStat s.stats id, other.isText = true) issues := by
  obtain ⟨ids, hi, hn, hm⟩ := exists_statValueIds hr
  refine ⟨_, by rw [textIssues, hi]; rfl, ?_, ?_⟩
  · intro x hx
    obtain ⟨n, hn, hx⟩ := List.mem_flatMap.mp hx
    have hw := ((hm n).mp hn).isWritable hr
    unfold valueIssues at hx
    split at hx
    · rw [List.mem_singleton.mp hx]
      simpa [Issue.isWritable, IssueCause.integers] using hw
    · unfold issueIf at hx
      split at hx
      · rw [List.mem_singleton.mp hx]
        simpa [Issue.isWritable, IssueCause.integers] using hw
      · simp at hx
  · refine (GameSystem.ReportsExactly.flatMap hn (fun n _ ↦ .reference) ?_).congr fun x ↦ ?_
    · rintro a b x ⟨rfl, -⟩ ⟨hb, -⟩
      exact Int.ofNat.inj (Site.reference.inj hb).2
    · constructor
      · rintro ⟨id, rfl, ha, ht⟩
        obtain ⟨n, rfl⟩ := ha.exists_nat
        exact ⟨n, (hm n).mpr ha, rfl, ht⟩
      · rintro ⟨n, hn, rfl, ht⟩
        exact ⟨n, rfl, (hm n).mp hn, ht⟩

/-- An empty formula leads to nothing. -/
theorem not_reachesCycle_empty (id : Int) : ¬ ReachesCycle (s.DependsWith id "") id := by
  have hn : ∀ v, ¬ s.DependsWith id "" id v := by
    rintro v ⟨f, hf, ha⟩
    obtain rfl := Option.some.inj (formulaAt_target.symm.trans hf)
    exact not_asksFor_empty v ha
  rintro ⟨v, hv, hc⟩
  rcases Relation.ReflTransGen.cases_head hv with rfl | ⟨w, hw, -⟩
  · obtain ⟨w, hw, -⟩ := Relation.TransGen.head'_iff.mp hc
    exact hn w hw
  · exact hn w hw

/-- The cycle that is found from a calculated stat, if any, is the issue of its formula. -/
theorem reportsExactly_cycle {stat : Stat} (hs : s.stats[i]? = some stat)
    (hf : stat.formula? = some f) (hr : s.HasReadableFormulas) :
    ∃ answer, findCycle s.stats stat.id f = .ok answer ∧
      s.ReportsExactly (fun x ↦ x = .cycle i ∧ ReachesCycle (s.DependsWith stat.id f) stat.id)
        (answer.map fun p ↦ (⟨itemPath "stats" i ++ ".formula", .cycle p⟩ : Issue)).toList := by
  have hm : stat ∈ s.stats := List.mem_of_getElem? hs
  have hf' : ReadableFormulas (formulaAt s.stats stat.id f) :=
    readableFormulas_formulaAt (hr stat hm f hf) hr
  rcases findCycle_cases hf' with ⟨ha, hn⟩ | ⟨path, ha, hl⟩
  · exact ⟨none, ha, .nil fun x hx ↦ hn hx.2⟩
  · refine ⟨some path, ha, (GameSystem.ReportsExactly.single (a := .cycle i) ⟨rfl, ?_⟩).congr ?_⟩
    · exact ⟨stat, hs, f, hf, path, hl, rfl⟩
    · exact fun x ↦ and_iff_left hl.reachesCycle

/-- The issues of a formula are those of the cycle that is found and of its references. -/
theorem formulaIssues_eq {stats : List Stat} {path : String} {id : Int} {checker : CycleChecker}
    {answer : Option (List Int)} {refs : List Issue} (hne : f ≠ "")
    (ha : (checker.find id f).1 = .ok answer)
    (ht : textIssues stats (path ++ ".formula") "formula" f = .ok refs)
    (hw : ∀ x ∈ refs, x.isWritable = true) :
    formulaIssues stats false path id f checker =
      (worded ((answer.map fun p ↦ (⟨path ++ ".formula", .cycle p⟩ : Issue)).toList ++ refs)).map
        (·, (checker.find id f).2) := by
  have he : f.isEmpty = false := by simpa using hne
  unfold formulaIssues
  rw [← worded_append, worded_eq_ok hw]
  simp only [he, Bool.false_eq_true, if_false, ha, ht, bind, Except.bind, pure, Except.pure,
    List.append_nil]
  cases worded (answer.map fun p ↦ (⟨path ++ ".formula", .cycle p⟩ : Issue)).toList <;> rfl

/-- A check that is passed a checker finds the issues of some sites, and passes a sound one on. -/
def FoundWith (s : GameSystem) (p : Site → Prop)
    (m : Except NumeralError (List Issue × CycleChecker)) : Prop :=
  ∃ issues checker, s.ReportsExactly p issues ∧ checker.Sound ∧ checker.stats = s.stats ∧
    m = (worded issues).map (·, checker)

/-- The checks of a formula find a cycle and wrong references. -/
theorem foundWith_formula {stat : Stat} {checker : CycleChecker} (hs : s.stats[i]? = some stat)
    (hf : stat.formula? = some f) (hr : s.HasReadableFormulas) (hc : checker.Sound)
    (he : checker.stats = s.stats) (hne : f ≠ "") :
    FoundWith s
      (fun x ↦ (x = .cycle i ∧ ReachesCycle (s.DependsWith stat.id f) stat.id) ∨
        ∃ id, x = .reference i id ∧ AsksFor f id ∧
          ∀ other ∈ findStat s.stats id, other.isText = true)
      (formulaIssues s.stats false (itemPath "stats" i) stat.id f checker) := by
  have hm : stat ∈ s.stats := List.mem_of_getElem? hs
  obtain ⟨refs, ht, hw, hrefs⟩ := textIssues_formula (s := s) (i := i) (hr stat hm f hf)
  obtain ⟨answer, ha, hcycle⟩ := reportsExactly_cycle hs hf hr
  obtain ⟨hfind, hstats, hsound⟩ := hc.find stat.id f
  rw [he, ← findCycle_eq, ha] at hfind
  refine ⟨_, _, hcycle.append hrefs ?_, hsound, hstats.trans he, formulaIssues_eq hne hfind ht hw⟩
  rintro x ⟨rfl, -⟩ ⟨id, hx, -⟩
  cases hx

/-- What may be wrong with what belongs to the kind of a stat. -/
def DetailFault (s : GameSystem) (i : Nat) (stat : Stat) (x : Site) : Prop :=
  match stat.detail with
  | .numeric (some low) (some high) _ => x = .bounds i ∧ Number.compare .gt low high = true
  | .enumeration (.own options) _ =>
    (x = .optionCount i ∧ options.length > maxOptions) ∨
      ∃ j, ∃ o ∈ options[j]?, (x = .optionValue i j ∧ o.value ∈ (options.take j).map (·.value)) ∨
        (x = .optionName i j ∧ o.name.default = "")
  | .calculated f _ =>
    (x = .formula i ∧ f = "") ∨
      (x = .cycle i ∧ ReachesCycle (s.DependsWith stat.id f) stat.id) ∨
      ∃ id, x = .reference i id ∧ AsksFor f id ∧
        ∀ other ∈ findStat s.stats id, other.isText = true
  | _ => False

/-- The id and the name of a stat do not belong to its kind. -/
theorem DetailFault.ne {stat : Stat} {x : Site} (h : DetailFault s i stat x) :
    x ≠ .statId i ∧ x ≠ .statName i := by
  unfold DetailFault at h
  constructor <;> rintro rfl <;> split at h <;> simp at h

theorem Stat.detail_of_ownOptions? {stat : Stat} {options : List EnumOption}
    (h : stat.ownOptions? = some options) :
    ∃ rolls, stat.detail = .enumeration (.own options) rolls := by
  unfold Stat.ownOptions? at h
  split at h
  · next own rolls hd =>
    cases h
    exact ⟨rolls, hd⟩
  · cases h

theorem Stat.detail_of_formula? {stat : Stat} (h : stat.formula? = some f) :
    ∃ rolls, stat.detail = .calculated f rolls := by
  unfold Stat.formula? at h
  split at h
  · next own rolls hd =>
    cases h
    exact ⟨rolls, hd⟩
  · cases h

/-- A stat has an id that occurs before it, or no name, or a fault of its kind. -/
theorem violatesIn_stat_iff {stat : Stat} (hs : s.stats[i]? = some stat) (x : Site) :
    s.ViolatesIn (.stat i) x ↔
      (x = .statId i ∧ stat.id ∈ (s.stats.take i).map (·.id)) ∨
      (x = .statName i ∧ stat.name.default = "") ∨ DetailFault s i stat x := by
  have of_violates {p : Stat → Prop} (h : ∃ t ∈ s.stats[i]?, p t) : p stat := by
    simpa [hs] using h
  constructor
  · rintro ⟨hv, hp⟩
    cases x with
    | headId | headName | sectionName | sectionId | previewKind => cases hp
    | statId =>
      cases hp
      exact .inl ⟨rfl, of_violates hv⟩
    | statName =>
      cases hp
      exact .inr (.inl ⟨rfl, of_violates hv⟩)
    | bounds =>
      cases hp
      obtain ⟨low, high, rolls, hd, h⟩ := of_violates hv
      exact .inr (.inr (by rw [DetailFault, hd]; exact ⟨rfl, h⟩))
    | optionCount =>
      cases hp
      obtain ⟨options, ho, h⟩ := of_violates hv
      obtain ⟨rolls, hd⟩ := Stat.detail_of_ownOptions? ho
      exact .inr (.inr (by rw [DetailFault, hd]; exact .inl ⟨rfl, h⟩))
    | optionValue i j =>
      cases hp
      obtain ⟨options, ho, o, hj, h⟩ := of_violates hv
      obtain ⟨rolls, hd⟩ := Stat.detail_of_ownOptions? ho
      exact .inr (.inr (by rw [DetailFault, hd]; exact .inr ⟨j, o, hj, .inl ⟨rfl, h⟩⟩))
    | optionName i j =>
      cases hp
      obtain ⟨options, ho, o, hj, h⟩ := of_violates hv
      obtain ⟨rolls, hd⟩ := Stat.detail_of_ownOptions? ho
      exact .inr (.inr (by rw [DetailFault, hd]; exact .inr ⟨j, o, hj, .inr ⟨rfl, h⟩⟩))
    | formula =>
      cases hp
      obtain ⟨rolls, hd⟩ := Stat.detail_of_formula? (of_violates hv)
      exact .inr (.inr (by rw [DetailFault, hd]; exact .inl ⟨rfl, rfl⟩))
    | cycle =>
      cases hp
      obtain ⟨f, hf, h⟩ := of_violates hv
      obtain ⟨rolls, hd⟩ := Stat.detail_of_formula? hf
      exact .inr (.inr (by rw [DetailFault, hd]; exact .inr (.inl ⟨rfl, h⟩)))
    | reference i id =>
      cases hp
      obtain ⟨f, hf, h⟩ := of_violates hv
      obtain ⟨rolls, hd⟩ := Stat.detail_of_formula? hf
      exact .inr (.inr (by rw [DetailFault, hd]; exact .inr (.inr ⟨id, rfl, h⟩)))
  · rintro (⟨rfl, h⟩ | ⟨rfl, h⟩ | h)
    · exact ⟨⟨stat, hs, h⟩, rfl⟩
    · exact ⟨⟨stat, hs, h⟩, rfl⟩
    · unfold DetailFault at h
      split at h
      · next low high rolls hd =>
        obtain ⟨rfl, h⟩ := h
        exact ⟨⟨stat, hs, low, high, rolls, hd, h⟩, rfl⟩
      · next options rolls hd =>
        have ho : stat.ownOptions? = some options := by rw [Stat.ownOptions?, hd]
        rcases h with ⟨rfl, h⟩ | ⟨j, o, hj, ⟨rfl, h⟩ | ⟨rfl, h⟩⟩
        · exact ⟨⟨stat, hs, options, ho, h⟩, rfl⟩
        · exact ⟨⟨stat, hs, options, ho, o, hj, h⟩, rfl⟩
        · exact ⟨⟨stat, hs, options, ho, o, hj, h⟩, rfl⟩
      · next f rolls hd =>
        have hf : stat.formula? = some f := by rw [Stat.formula?, hd]
        rcases h with ⟨rfl, rfl⟩ | ⟨rfl, h⟩ | ⟨id, rfl, h⟩
        · exact ⟨⟨stat, hs, hf⟩, rfl⟩
        · exact ⟨⟨stat, hs, f, hf, h⟩, rfl⟩
        · exact ⟨⟨stat, hs, f, hf, h⟩, rfl⟩
      · exact h.elim

/-- An option is reported for a value that occurs before it and for a missing name. -/
theorem reportsExactly_option {stat : Stat} {options front back : List EnumOption}
    {o : EnumOption} (hs : s.stats[i]? = some stat) (ho : stat.ownOptions? = some options)
    (he : options = front ++ o :: back) :
    s.ReportsExactly
      (fun x ↦ (x = .optionValue i front.length ∧ o.value ∈ front.map (·.value)) ∨
        (x = .optionName i front.length ∧ o.name.default = ""))
      (optionIssues (itemPath "stats" i) front o) := by
  have hj : options[front.length]? = some o := by simp [he]
  have hv := GameSystem.ReportsExactly.issueIf (s := s) (.optionValue i front.length)
    (front.any (·.value == o.value)) (.duplicateOption o.value)
    fun _ ↦ ⟨stat, hs, options, ho, o, hj, rfl⟩
  have hn := GameSystem.ReportsExactly.issueIf (s := s) (.optionName i front.length)
    o.name.default.isEmpty (.required "option name.default") fun _ ↦ rfl
  refine (hv.append hn ?_).congr (by simp)
  rintro x ⟨rfl, -⟩ ⟨hx, -⟩
  cases hx

/-- The options of an enumeration are reported when there are too many, and one by one. -/
theorem reportsExactly_options {stat : Stat} {options : List EnumOption}
    (hs : s.stats[i]? = some stat) (ho : stat.ownOptions? = some options) :
    s.ReportsExactly
      (fun x ↦ (x = .optionCount i ∧ options.length > maxOptions) ∨
        ∃ j, ∃ o ∈ options[j]?,
          (x = .optionValue i j ∧ o.value ∈ (options.take j).map (·.value)) ∨
            (x = .optionName i j ∧ o.name.default = ""))
      (sourceIssues s.stats false (itemPath "stats" i) (.own options)) := by
  have hc := GameSystem.ReportsExactly.issueIf (s := s) (.optionCount i)
    (options.length > maxOptions) (.tooManyOptions options.length)
    fun _ ↦ ⟨stat, hs, options, ho, rfl⟩
  have he := GameSystem.ReportsExactly.eachWithPrevious (s := s)
    (f := optionIssues (itemPath "stats" i))
    (r := fun j x ↦ ∃ o ∈ options[j]?,
      (x = .optionValue i j ∧ o.value ∈ (options.take j).map (·.value)) ∨
        (x = .optionName i j ∧ o.name.default = "")) [] options ?_ ?_
  · refine (hc.append he ?_).congr fun x ↦ ?_
    · rintro x ⟨rfl, -⟩ ⟨j, -, -, o, -, ⟨hx, -⟩ | ⟨hx, -⟩⟩ <;> cases hx
    · refine or_congr (by simp) (exists_congr fun j ↦ ⟨?_, fun ⟨_, _, h⟩ ↦ h⟩)
      rintro ⟨o, hj, h⟩
      exact ⟨Nat.zero_le _, by simpa using (List.getElem?_eq_some_iff.mp hj).1, o, hj, h⟩
  · intro front o back hf
    refine (reportsExactly_option hs ho hf).congr fun x ↦ ?_
    simp [hf]
  · rintro j k x ⟨o, -, ⟨rfl, -⟩ | ⟨rfl, -⟩⟩ ⟨o', -, ⟨hx, -⟩ | ⟨hx, -⟩⟩ <;> cases hx <;> rfl

/-- The checks of what belongs to the kind of a stat find its faults. -/
theorem foundWith_detail {stat : Stat} {checker : CycleChecker} (hs : s.stats[i]? = some stat)
    (hr : s.HasReadableFormulas) (hc : checker.Sound) (he : checker.stats = s.stats) :
    FoundWith s (DetailFault s i stat)
      (detailIssues s.stats false (itemPath "stats" i) stat checker) := by
  have of_issues {issues : List Issue} (h : s.ReportsExactly (DetailFault s i stat) issues) :
      FoundWith s (DetailFault s i stat) ((worded issues).map (·, checker)) :=
    ⟨issues, checker, h, hc, he, rfl⟩
  unfold detailIssues
  cases hd : stat.detail with
  | numeric min max rolls =>
    refine of_issues ?_
    cases min with
    | none => exact .nil fun x ↦ by simp [DetailFault, hd]
    | some low =>
      cases max with
      | none => exact .nil fun x ↦ by simp [DetailFault, hd]
      | some high =>
        have h := GameSystem.ReportsExactly.issueIf (s := s) (.bounds i)
          (Number.compare .gt low high) (.bounds low high)
          fun _ ↦ ⟨stat, hs, low, high, rolls, hd, rfl⟩
        exact h.congr fun x ↦ by rw [DetailFault, hd]
  | enumeration source rolls =>
    refine of_issues ?_
    cases source with
    | own options =>
      have ho : stat.ownOptions? = some options := by rw [Stat.ownOptions?, hd]
      exact (reportsExactly_options hs ho).congr fun x ↦ by rw [DetailFault, hd]
    | sharedWith id => exact .nil fun x ↦ by simp [DetailFault, hd]
  | calculated f rolls =>
    by_cases hne : f = ""
    · subst hne
      have h := GameSystem.ReportsExactly.single (s := s) (a := .formula i)
        (i := ⟨itemPath "stats" i ++ ".formula", .required "formula"⟩) ⟨rfl, rfl⟩
      refine ⟨_, checker, h.congr fun x ↦ ?_, hc, he, rfl⟩
      simp [DetailFault, hd, not_reachesCycle_empty, not_asksFor_empty]
    · have hf : stat.formula? = some f := by rw [Stat.formula?, hd]
      obtain ⟨issues, next, h, hn⟩ := foundWith_formula hs hf hr hc he hne
      refine ⟨issues, next, h.congr fun x ↦ ?_, hn⟩
      simp [DetailFault, hd, hne]
  | boolean rolls => exact ⟨[], checker, .nil fun x ↦ by simp [DetailFault, hd], hc, he, rfl⟩
  | text low high => exact ⟨[], checker, .nil fun x ↦ by simp [DetailFault, hd], hc, he, rfl⟩

/-- The checks of a stat that depend on nothing before it find a missing name and the faults of
its kind. -/
theorem foundWith_stat {stat : Stat} {checker : CycleChecker} (hs : s.stats[i]? = some stat)
    (hr : s.HasReadableFormulas) (hc : checker.Sound) (he : checker.stats = s.stats) :
    FoundWith s (fun x ↦ (x = .statName i ∧ stat.name.default = "") ∨ DetailFault s i stat x)
      (statIssues (.ofSystem s) false (itemPath "stats" i) stat checker) := by
  obtain ⟨issues, next, h, hc, he, hm⟩ := foundWith_detail hs hr hc he
  have hn := GameSystem.ReportsExactly.issueIf (s := s) (.statName i)
    stat.name.default.isEmpty (.required "name.default") fun _ ↦ rfl
  refine ⟨_, next, (hn.append h ?_).congr (by simp), hc, he, ?_⟩
  · rintro x ⟨rfl, -⟩ hx
    exact hx.ne.2 rfl
  · unfold statIssues
    rw [Draft.readStats_ofSystem, hm, ← worded_append,
      worded_eq_ok fun _ ↦ isWritable_of_mem_issueIf]
    cases worded issues with
    | error e => rfl
    | ok found =>
      simp only [Except.map, bind, Except.bind, pure, Except.pure, List.append_nil]
      rfl

end
end CharacterSheet
