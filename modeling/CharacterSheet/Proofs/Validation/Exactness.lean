import CharacterSheet.Proofs.Validation.Parts

/-!
# Validation is exact

The issues of a schema are those of its head, of its stats and of its sections, one behind the
other. Main statement: there is one issue for each site that is violated and no other, and the
issues are listed exactly when each of them can be written.
-/

namespace CharacterSheet
open Validation

section
variable {s : GameSystem}

/-- A check finds the issues of some sites. -/
def Found (s : GameSystem) (p : Site → Prop) (m : Findings) : Prop :=
  ∃ issues, s.ReportsExactly p issues ∧ m = worded issues

/-! ### Stats -/

/-- A stat with a site that is violated is there. -/
theorem exists_of_violates_stat {x : Site} {i : Nat} (h : s.ViolatesIn (.stat i) x) :
    i < s.stats.length := by
  obtain ⟨hv, hp⟩ := h
  cases x <;> cases hp
  all_goals
    obtain ⟨stat, hs, -⟩ := hv
    exact (List.getElem?_eq_some_iff.mp hs).1

/-- A section with a site that is violated is there. -/
theorem exists_of_violates_section {x : Site} {i : Nat} (h : s.ViolatesIn (.sheetSection i) x) :
    i < s.sections.length := by
  obtain ⟨hv, hp⟩ := h
  cases x <;> cases hp
  all_goals
    obtain ⟨sec, hs, -⟩ := hv
    exact (List.getElem?_eq_some_iff.mp hs).1

/-- The indexes from one on are that index and those from the next one on. -/
theorem exists_le_iff {n : Nat} {q : Nat → Prop} :
    (∃ i, n ≤ i ∧ q i) ↔ q n ∨ ∃ i, n + 1 ≤ i ∧ q i := by
  constructor
  · rintro ⟨i, hi, hq⟩
    rcases Nat.eq_or_lt_of_le hi with rfl | hi
    · exact .inl hq
    · exact .inr ⟨i, hi, hq⟩
  · rintro (hq | ⟨i, hi, hq⟩)
    · exact ⟨n, Nat.le_refl _, hq⟩
    · exact ⟨i, Nat.le_of_succ_le hi, hq⟩

/-- The checks of the stats from an index on find everything that is wrong with them. -/
theorem found_stats {before rest : List Stat} {checker : CycleChecker}
    (hs : s.stats = before ++ rest) (hr : s.HasReadableFormulas) (hc : checker.Sound)
    (he : checker.stats = s.stats) :
    Found s (fun x ↦ ∃ i, before.length ≤ i ∧ s.ViolatesIn (.stat i) x)
      (allStatIssues (.ofSystem s) false (before.map fun t ↦ some t.id) checker
        (rest.map (Entry.ofItem Stat.id))) := by
  induction rest generalizing before checker with
  | nil =>
    refine ⟨[], .nil ?_, rfl⟩
    rintro x ⟨i, hi, hx⟩
    have := exists_of_violates_stat hx
    simp [hs] at this
    omega
  | cons stat rest ih =>
    have hi : s.stats[before.length]? = some stat := by simp [hs]
    have hd := GameSystem.ReportsExactly.duplicate (s := s) (a := .statId before.length) hs rfl
      fun first hf ↦ ⟨stat, hi, first, hf, rfl⟩
    obtain ⟨own, next, hown, hc, he, hm⟩ := foundWith_stat hi hr hc he
    have hs' : s.stats = (before ++ [stat]) ++ rest := by simp [hs]
    obtain ⟨others, hothers, hn⟩ := ih hs' hc he
    have hstat : s.ReportsExactly (s.ViolatesIn (.stat before.length))
        (duplicateIssues "stats" (before.map fun t ↦ some t.id) (some stat.id) ++ own) := by
      refine (hd.append hown ?_).congr fun x ↦ ?_
      · rintro x ⟨rfl, -⟩ (⟨hx, -⟩ | hx)
        · cases hx
        · exact hx.ne.1 rfl
      · rw [violatesIn_stat_iff hi, hs, List.take_left]
    refine ⟨_, (hstat.append hothers ?_).congr fun x ↦ ?_, ?_⟩
    · rintro x ⟨-, hx⟩ ⟨i, hi, -, hx'⟩
      cases hx.symm.trans hx'
      rw [List.length_append, List.length_singleton] at hi
      omega
    · rw [List.length_append]
      exact exists_le_iff (q := fun i ↦ s.ViolatesIn (.stat i) x)
    · rw [List.map_append, List.map_singleton] at hn
      simp only [List.map_cons, allStatIssues, Entry.ofItem, entryIssues, List.map_nil,
        List.nil_append, List.length_map, hm]
      rw [← worded_append_append]
      cases worded own with
      | error e => rfl
      | ok own => simp only [Except.map, bind, Except.bind, hn]

/-! ### Sections -/

/-- A section has an id that occurs before it, or no name, or does not say what it shows. -/
theorem violatesIn_section_iff {i : Nat} {sec : SheetSection} (hs : s.sections[i]? = some sec)
    (x : Site) :
    s.ViolatesIn (.sheetSection i) x ↔
      (x = .sectionId i ∧ sec.id ∈ (s.sections.take i).map (·.id)) ∨
      (x = .sectionName i ∧ sec.name.default = "") ∨
      (x = .previewKind i ∧ sec.preview.kind = none) := by
  have of_violates {p : SheetSection → Prop} (h : ∃ t ∈ s.sections[i]?, p t) : p sec := by
    simpa [hs] using h
  constructor
  · rintro ⟨hv, hp⟩
    cases x with
    | sectionId =>
      cases hp
      exact .inl ⟨rfl, of_violates hv⟩
    | sectionName =>
      cases hp
      exact .inr (.inl ⟨rfl, of_violates hv⟩)
    | previewKind =>
      cases hp
      exact .inr (.inr ⟨rfl, of_violates hv⟩)
    | _ => cases hp
  · rintro (⟨rfl, h⟩ | ⟨rfl, h⟩ | ⟨rfl, h⟩) <;> exact ⟨⟨sec, hs, h⟩, rfl⟩

/-- The checks of a section that depend on nothing before it find a missing name and a missing
kind, and what they find can be written. -/
theorem sectionIssues_eq (i : Nat) (sec : SheetSection) :
    ∃ issues, sectionIssues (.ofSystem s) false (itemPath "sections" i) sec = worded issues ∧
      s.ReportsExactly
        (fun x ↦ (x = .sectionName i ∧ sec.name.default = "") ∨
          (x = .previewKind i ∧ sec.preview.kind = none)) issues := by
  have hn := GameSystem.ReportsExactly.issueIf (s := s) (.sectionName i)
    sec.name.default.isEmpty (.required "name.default") fun _ ↦ rfl
  have hk := GameSystem.ReportsExactly.issueIf (s := s) (.previewKind i)
    sec.preview.kind.isNone (.required "preview.type") fun _ ↦ rfl
  refine ⟨_, ?_, (hn.append hk ?_).congr (by simp)⟩
  · rw [worded_eq_ok]
    · simp [sectionIssues, pure, Except.pure, bind, Except.bind, Site.path]
    · intro x hx
      rcases List.mem_append.mp hx with hx | hx <;> exact isWritable_of_mem_issueIf hx
  · rintro x ⟨rfl, -⟩ ⟨hx, -⟩
    cases hx

/-- The checks of the sections from an index on find everything that is wrong with them. -/
theorem found_sections {before rest : List SheetSection} (hs : s.sections = before ++ rest) :
    Found s (fun x ↦ ∃ i, before.length ≤ i ∧ s.ViolatesIn (.sheetSection i) x)
      (allSectionIssues (.ofSystem s) false (before.map fun t ↦ some t.id)
        (rest.map (Entry.ofItem SheetSection.id))) := by
  induction rest generalizing before with
  | nil =>
    refine ⟨[], .nil ?_, rfl⟩
    rintro x ⟨i, hi, hx⟩
    have := exists_of_violates_section hx
    simp [hs] at this
    omega
  | cons sec rest ih =>
    have hi : s.sections[before.length]? = some sec := by simp [hs]
    have hd := GameSystem.ReportsExactly.duplicate (s := s) (a := .sectionId before.length) hs rfl
      fun first hf ↦ ⟨sec, hi, first, hf, rfl⟩
    obtain ⟨own, hm, hown⟩ := sectionIssues_eq (s := s) before.length sec
    have hs' : s.sections = (before ++ [sec]) ++ rest := by simp [hs]
    obtain ⟨others, hothers, hn⟩ := ih hs'
    have hsec : s.ReportsExactly (s.ViolatesIn (.sheetSection before.length))
        (duplicateIssues "sections" (before.map fun t ↦ some t.id) (some sec.id) ++ own) := by
      refine (hd.append hown ?_).congr fun x ↦ ?_
      · rintro x ⟨rfl, -⟩ (⟨hx, -⟩ | ⟨hx, -⟩) <;> cases hx
      · rw [violatesIn_section_iff hi, hs, List.take_left]
    refine ⟨_, (hsec.append hothers ?_).congr fun x ↦ ?_, ?_⟩
    · rintro x ⟨-, hx⟩ ⟨i, hi, -, hx'⟩
      cases hx.symm.trans hx'
      rw [List.length_append, List.length_singleton] at hi
      omega
    · rw [List.length_append]
      exact exists_le_iff (q := fun i ↦ s.ViolatesIn (.sheetSection i) x)
    · rw [List.map_append, List.map_singleton] at hn
      simp only [List.map_cons, allSectionIssues, Entry.ofItem, entryIssues, List.map_nil,
        List.nil_append, List.length_map, hm, hn]
      exact worded_append_append

/-! ### The whole schema -/

/-- The checks of the head find what is missing from it, and what they find can be written. -/
theorem reportsExactly_head :
    s.ReportsExactly (s.ViolatesIn .head) (headIssues (Draft.ofSystem s).head) ∧
      ∀ x ∈ headIssues (Draft.ofSystem s).head, x.isWritable = true := by
  have hi := GameSystem.ReportsExactly.issueIf (s := s) .headId
    (!s.config.id.isSome) (.required "config.id") fun _ ↦ rfl
  have hn := GameSystem.ReportsExactly.issueIf (s := s) .headName
    (!(!s.config.name.default.isEmpty)) (.required "config.name.default")
    fun _ ↦ rfl
  refine ⟨(hi.append hn ?_).congr fun x ↦ ?_, fun x hx ↦ ?_⟩
  · rintro x ⟨rfl, -⟩ ⟨hx, -⟩
    cases hx
  · cases x <;> simp [GameSystem.ViolatesIn, Site.part, GameSystem.Violates]
  · rcases List.mem_append.mp hx with hx | hx <;> exact isWritable_of_mem_issueIf hx

/-- The checks of a schema find everything that is wrong with it. -/
theorem found_issues (hr : s.HasReadableFormulas) : Found s s.Violates (s.issues false) := by
  obtain ⟨hhead, hw⟩ := reportsExactly_head (s := s)
  obtain ⟨stats, hstats, hms⟩ := found_stats (show s.stats = [] ++ s.stats from rfl) hr
    (CycleChecker.sound_new s.stats) rfl
  obtain ⟨sections, hsections, hmt⟩ :=
    found_sections (show s.sections = [] ++ s.sections from rfl)
  refine ⟨headIssues (Draft.ofSystem s).head ++ stats ++ sections, ?_, ?_⟩
  · refine ((hhead.append hstats ?_).append hsections ?_).congr fun x ↦ ?_
    · rintro x ⟨-, hx⟩ ⟨i, -, -, hx'⟩
      cases hx.symm.trans hx'
    · rintro x (⟨-, hx⟩ | ⟨j, -, -, hx⟩) ⟨i, -, -, hx'⟩ <;> cases hx.symm.trans hx'
    · constructor
      · intro hv
        cases hp : x.part with
        | head => exact .inl (.inl ⟨hv, hp⟩)
        | stat i => exact .inl (.inr ⟨i, Nat.zero_le _, hv, hp⟩)
        | sheetSection i => exact .inr ⟨i, Nat.zero_le _, hv, hp⟩
      · rintro ((⟨hv, -⟩ | ⟨i, -, hv, -⟩) | ⟨i, -, hv, -⟩) <;> exact hv
  · have hs : (Draft.ofSystem s).stats.getD [] = s.stats.map (Entry.ofItem Stat.id) := rfl
    have ht : (Draft.ofSystem s).sections.getD [] =
        s.sections.map (Entry.ofItem SheetSection.id) := rfl
    have hi : integrationIssues s.stats false (Draft.ofSystem s).integrations = .ok [] := by
      rw [Draft.ofSystem]
      cases s.integrations <;> rfl
    rw [List.map_nil] at hms hmt
    simp only [GameSystem.issues, draftIssues, Draft.readStats_ofSystem, hs, ht, hms, hmt, hi]
    rw [← worded_append_append, worded_eq_ok hw]
    cases worded stats with
    | error e => rfl
    | ok stats =>
      cases worded sections with
      | error e => rfl
      | ok sections =>
        simp [bind, Except.bind, pure, Except.pure, Draft.ofSystem, issueIf]

/-- Where a cycle is reached from a stat with an id that cannot be written, validation fails. -/
theorem issues_eq_error_of_cycle {i : Nat} {stat : Stat} {f : String} (hr : s.HasReadableFormulas)
    (hs : s.stats[i]? = some stat) (hf : stat.formula? = some f)
    (hc : ReachesCycle (s.DependsWith stat.id f) stat.id)
    (hw : Numeral.isWritable stat.id = false) : s.issues false = .error .tooLargeToWrite := by
  obtain ⟨issues, h, hm⟩ := found_issues hr
  obtain ⟨issue, hi, -, stat', hs', f', hf', path, hl, hcause⟩ :=
    h.exists_mem (x := .cycle i) ⟨stat, hs, f, hf, hc⟩
  obtain rfl := Option.some.inj (hs.symm.trans hs')
  rw [hm, worded, if_neg]
  intro ha
  have hall := List.all_eq_true.mp ha issue hi
  rw [Issue.isWritable, hcause] at hall
  have := List.all_eq_true.mp hall stat.id (List.mem_of_head? hl.starts)
  simp [hw] at this

/-- There is one issue for each site that a schema violates and no other, and validation lists
them unless one of them cannot be written. -/
theorem issues_exact (hr : s.HasReadableFormulas) :
    ∃ issues, s.ReportsExactly s.Violates issues ∧ (issues = [] ↔ ∀ x, ¬ s.Violates x) ∧
      s.issues false =
        if ∀ i ∈ issues, i.isWritable = true then .ok issues else .error .tooLargeToWrite := by
  obtain ⟨issues, h, hm⟩ := found_issues hr
  refine ⟨issues, h, h.eq_nil_iff, ?_⟩
  rw [hm, worded]
  simp only [List.all_eq_true]

end

/-- A stat that asks for itself is reported. -/
theorem issues_exact_self :
    let s : GameSystem := { stats := [{ id := 1, detail := .calculated "<stat:1:value>" {} }] }
    ∃ issues, s.ReportsExactly s.Violates issues ∧ issues ≠ [] := by
  intro s
  have hr : s.HasReadableFormulas := by
    intro stat hm f hf
    obtain rfl := List.mem_singleton.mp hm
    obtain rfl := Option.some.inj hf
    exact readableIds_of_length_le (by decide)
  have hd : s.DependsWith 1 "<stat:1:value>" 1 1 :=
    ⟨_, rfl, asksFor_of_mention (m := ⟨.stat, ['1'], .value⟩) (by decide) rfl⟩
  obtain ⟨issues, h, hnil, -⟩ := issues_exact hr
  refine ⟨issues, h, fun he ↦ hnil.mp he (.cycle 0) ?_⟩
  exact ⟨_, rfl, _, rfl, 1, .refl, .single hd⟩

/-- A cycle cannot be reported for a stat whose id has too many digits. -/
theorem issues_fail_on_long_id :
    let s : GameSystem := { stats := [
      { id := 1, detail := .calculated "<stat:1:value>" {} },
      { id := 10 ^ maxDigits, detail := .calculated "<stat:1:value>" {} }] }
    s.HasReadableFormulas ∧ s.issues false = .error .tooLargeToWrite := by
  intro s
  have hr : s.HasReadableFormulas := by
    intro stat hm f hf
    rcases List.mem_pair.mp hm with rfl | rfl <;>
      obtain rfl := Option.some.inj hf <;>
      exact readableIds_of_length_le (by decide)
  have hne : (10 ^ maxDigits : Int) ≠ 1 := by decide +kernel
  have hask : AsksFor "<stat:1:value>" 1 :=
    asksFor_of_mention (m := ⟨.stat, ['1'], .value⟩) (by decide) rfl
  have hto : s.DependsWith (10 ^ maxDigits) "<stat:1:value>" (10 ^ maxDigits) 1 :=
    ⟨_, formulaAt_target, hask⟩
  have hself : s.DependsWith (10 ^ maxDigits) "<stat:1:value>" 1 1 :=
    ⟨_, (formulaAt_of_ne hne.symm).trans rfl, hask⟩
  refine ⟨hr, issues_eq_error_of_cycle (i := 1) hr rfl rfl ⟨1, .single hto, .single hself⟩ ?_⟩
  simp [Numeral.isWritable, Int.natAbs_pow]

end CharacterSheet
