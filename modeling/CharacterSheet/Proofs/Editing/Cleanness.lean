import CharacterSheet.Proofs.Validation.Clean

/-!
# Clean schemas stay clean

New items get ids that are not taken, copies ask for the same values as their originals, and
formulas are checked before they are set. In a clean schema every formula asks for stats that are
there, so no formula asks for an id that is not taken. Main statement: along a run of edits that
take no stat away, add no stat without its formula and set formulas only that ask for values, a
clean schema stays clean.
-/

namespace CharacterSheet

open Json.Bounded (exists_of_map_eq_ok)

/-! ### Runs of edits -/

/-- An edit of the stats or of the sections of a schema. -/
inductive SchemaEdit where
  | stats (e : StatEdit)
  | addSection
  | removeSection (index : Int)
  | moveSection (index steps : Int)

namespace GameSystem

/-- The schema that an edit gives, unless it is refused. -/
def editSchema (s : GameSystem) : SchemaEdit → Except EditError GameSystem
  | .stats e => s.edit e
  | .addSection => .ok s.addSection
  | .removeSection index => s.removeSection index
  | .moveSection index steps => .ok (s.moveSection index steps)

/-- The schema behind an edit, which is the same when the edit is refused. -/
def afterSchemaEdit (s : GameSystem) (e : SchemaEdit) : GameSystem :=
  match s.editSchema e with
  | .ok next => next
  | .error _ => s

/-- The schema behind a run of edits. -/
def afterSchemaEdits (s : GameSystem) (edits : List SchemaEdit) : GameSystem :=
  edits.foldl afterSchemaEdit s

/-- An edit takes no stat away, adds no calculated stat, which would have no formula, and sets no
formula that is empty or asks for a stat without a value. -/
def Allows (s : GameSystem) : SchemaEdit → Prop
  | .stats (.add word) => word ≠ StatKind.calculated.word
  | .stats (.remove _) => False
  | .stats (.setFormula _ formula) => formula ≠ "" ∧ AsksForValues s.stats formula
  | .stats (.duplicate _) | .stats (.move ..) | .addSection | .removeSection _
  | .moveSection .. => True

/-- Each edit of a run is allowed at the moment it is made. -/
def AllowsAll (s : GameSystem) : List SchemaEdit → Prop
  | [] => True
  | e :: edits => s.Allows e ∧ (s.afterSchemaEdit e).AllowsAll edits

end GameSystem

/-! ### Stats in order -/

namespace Stat

/-- The options of a copy are those of its original, with the same values and default names. -/
theorem ownOptions?_copyAs (stat : Stat) (id : Int) :
    (stat.copyAs id).ownOptions? =
      stat.ownOptions?.map (List.map fun o ↦ { o with name := o.name.written }) := by
  obtain ⟨_, _, _, _, detail⟩ := stat
  rcases detail with _ | ⟨_ | _, _⟩ | _ | _ | _ <;> rfl

/-- A new stat has no formula, unless it is calculated. -/
theorem formula?_new_eq_none {kind : StatKind} (h : kind ≠ .calculated) (id : Int) :
    (Stat.new kind id).formula? = none := by
  cases kind with
  | calculated => contradiction
  | _ => rfl

@[simp]
theorem isText_withFormula (stat : Stat) (formula : String) :
    (stat.withFormula formula).isText = stat.isText := by
  obtain ⟨_, _, _, _, detail⟩ := stat
  cases detail <;> rfl

namespace IsTidy
variable {stat : Stat} {formula : String}

/-- A new stat is in order, unless it lacks a formula. -/
theorem new {kind : StatKind} (h : kind ≠ .calculated) (id : Int) : (Stat.new kind id).IsTidy where
  name := by simp [Stat.new, Localization.ofText]
  bounds low high rolls hd := by
    cases kind with
    | numeric =>
      cases hd
      rfl
    | _ => cases hd
  options options ho := by
    cases kind with
    | enumeration =>
      cases ho
      simp
    | _ => cases ho
  formula := by simp [formula?_new_eq_none h]

/-- A copy of a stat in order is in order. -/
theorem copyAs (h : stat.IsTidy) (id : Int) : (stat.copyAs id).IsTidy where
  name := by simp [Stat.copyAs]
  bounds low high rolls hd := by
    refine h.bounds low high rolls ?_
    obtain ⟨_, _, _, _, detail⟩ := stat
    rcases detail with _ | ⟨_ | _, _⟩ | _ | _ | _ <;> cases hd
    rfl
  options options ho := by
    rw [ownOptions?_copyAs] at ho
    obtain ⟨own, hown, rfl⟩ := Option.map_eq_some_iff.mp ho
    obtain ⟨hlength, hvalues, hnames⟩ := h.options own hown
    refine ⟨by simpa using hlength, ?_, List.forall_mem_map.mpr hnames⟩
    rwa [List.map_map]
  formula := by
    rw [formula?_copyAs]
    exact h.formula

/-- A calculated stat in order stays so with a formula that is not empty. -/
theorem withFormula (h : stat.IsTidy) (hc : stat.isCalculated = true) (hne : formula ≠ "") :
    (stat.withFormula formula).IsTidy := by
  obtain ⟨old, hold⟩ := Option.isSome_iff_exists.mp hc
  obtain ⟨rolls, hd⟩ := detail_of_formula? hold
  have he : stat.withFormula formula = { stat with detail := .calculated formula rolls } := by
    rw [Stat.withFormula, hd]
  rw [he]
  exact {
    name := h.name
    bounds := fun low high rolls hd ↦ by cases hd
    options := fun options ho ↦ by cases ho
    formula := fun hf ↦ hne (Option.some.inj hf) }

end IsTidy
end Stat

/-! ### Stats that hold values -/

section
variable {stats : List Stat} {id : Int} {s next : GameSystem}

/-- Among stats with distinct ids every one that is no text counts. -/
theorem holdsValue_iff (hd : (stats.map (·.id)).Nodup) :
    HoldsValue stats id ↔ ∃ s ∈ stats, s.id = id ∧ s.isText = false := by
  simp only [HoldsValue, Option.mem_def, findStat_eq_some_iff hd, and_assoc]

/-- An id that holds a value is that of a stat. -/
theorem HoldsValue.mem_ids (h : HoldsValue stats id) : id ∈ stats.map (·.id) := by
  obtain ⟨s, hs, -⟩ := h
  exact List.mem_map.mpr ⟨s, mem_of_findStat hs, id_of_findStat hs⟩

/-- Ids hold values still when every stat that is no text is there still, under its id. -/
theorem AsksForValues.mono {others : List Stat} {formula : String}
    (h : AsksForValues stats formula) (hd : (others.map (·.id)).Nodup)
    (ho : ∀ s ∈ stats, s.isText = false → ∃ t ∈ others, t.id = s.id ∧ t.isText = false) :
    AsksForValues others formula := by
  intro id ha
  obtain ⟨s, hs, ht⟩ := h id ha
  obtain ⟨t, hm, hid, ht⟩ := ho s (mem_of_findStat hs) ht
  exact (holdsValue_iff hd).mpr ⟨t, hm, hid.trans (id_of_findStat hs), ht⟩

/-! ### One edit -/

/-- A stat that is added has the kind whose word was given. -/
theorem exists_kind_of_addStatOf {word : String} (h : s.addStatOf word = .ok next) :
    ∃ kind : StatKind, kind.word = word ∧ next = s.addStat kind := by
  unfold GameSystem.addStatOf at h
  split at h
  · next kind hk =>
    cases h
    exact ⟨kind, by simpa using List.find?_some hk, rfl⟩
  · cases h

/-- An edit of the stats leaves the head and the sections as they are. -/
theorem config_and_sections_of_edit {e : StatEdit} (h : s.edit e = .ok next) :
    next.config = s.config ∧ next.sections = s.sections := by
  cases e with
  | add word =>
    simp only [GameSystem.edit, GameSystem.addStatOf] at h
    split at h <;> cases h
    exact ⟨rfl, rfl⟩
  | duplicate index =>
    simp only [GameSystem.edit, GameSystem.duplicateStat] at h
    split at h <;> cases h
    exact ⟨rfl, rfl⟩
  | remove index =>
    simp only [GameSystem.edit, GameSystem.removeStat] at h
    split at h <;> cases h
    exact ⟨rfl, rfl⟩
  | move index steps =>
    cases h
    exact ⟨rfl, rfl⟩
  | setFormula id formula =>
    simp only [GameSystem.edit, GameSystem.setFormula] at h
    split at h
    · cases h
    · split at h
      · cases h
      · split at h
        · obtain ⟨_, -, rfl⟩ := exists_of_map_eq_ok h
          exact ⟨rfl, rfl⟩
        · cases h

namespace GameSystem.IsClean

/-- In a clean schema, what holds a value leads to nothing but that, so it stays grounded wherever
formulas change for other ids only. -/
theorem grounded_of_holdsValue (h : s.IsClean) {after : Int → Option String}
    (ha : ∀ id, HoldsValue s.stats id → after id = storedFormula? s.stats id)
    (hv : HoldsValue s.stats id) : Grounded after id := by
  induction h.grounded id with
  | leaf hn => exact .leaf (by rw [ha _ hv, hn])
  | @node id f deps hf hd hg ih =>
    refine .node (by rw [ha _ hv, hf]) hd fun dep hm ↦ ih dep hm ?_
    obtain ⟨stat, hs, rfl, hsf⟩ := (storedFormula?_eq_some_iff h.statIds).mp hf
    exact h.references stat hs f hsf dep ((mem_dependencies_iff hd dep).mp hm)

/-- A schema is clean when it has the head and the sections of a clean one, and its stats are in
order. -/
theorem of_stats (h : s.IsClean)
    (hsame : next.config = s.config ∧ next.sections = s.sections)
    (hd : next.HasDistinctIds) (ht : ∀ stat ∈ next.stats, stat.IsTidy)
    (hr : ∀ stat ∈ next.stats, ∀ f ∈ stat.formula?, AsksForValues next.stats f)
    (hg : ∀ id, Grounded (storedFormula? next.stats) id) : next.IsClean where
  headId := hsame.1 ▸ h.headId
  headName := hsame.1 ▸ h.headName
  stats := ht
  sections := hsame.2 ▸ h.sections
  statIds := hd
  sectionIds := hsame.2 ▸ h.sectionIds
  references := hr
  grounded := hg

/-- A new stat in order that asks for values leaves a schema clean. -/
theorem of_new (h : s.IsClean) (hsame : next.config = s.config ∧ next.sections = s.sections)
    {stat : Stat} (hid : stat.id = nextId s.statIds) (ht : stat.IsTidy)
    (hf : ∀ f ∈ stat.formula?, ReadableIds f ∧ AsksForValues s.stats f)
    (hs : next.stats.Perm (stat :: s.stats)) : next.IsClean := by
  have hd : next.HasDistinctIds := (hs.map _).nodup_iff.mpr (nodup_cons_new h.statIds hid)
  have asks_still {f : String} (hf : AsksForValues s.stats f) : AsksForValues next.stats f :=
    hf.mono hd fun t hm htext ↦ ⟨t, hs.mem_iff.mpr (List.mem_cons_of_mem _ hm), rfl, htext⟩
  obtain ⟨hnew, hold⟩ := storedFormula?_of_new h.statIds hid hs
  have hgrounded : Grounded (storedFormula? next.stats) stat.id := by
    cases hsf : stat.formula? with
    | none => exact .leaf (hnew.trans hsf)
    | some f =>
      obtain ⟨hr, ha⟩ := hf f hsf
      obtain ⟨deps, hdeps, -, hm⟩ := exists_dependencies hr
      refine .node (hnew.trans hsf) hdeps fun dep hdep ↦ ?_
      -- the new id holds no value before, so nothing that is asked for leads to it
      refine h.grounded_of_holdsValue (fun id hv ↦ hold id ?_) (ha dep ((hm dep).mp hdep))
      rintro rfl
      exact nextId_notMem s.statIds (hid ▸ hv.mem_ids)
  refine h.of_stats hsame hd (fun t hm ↦ ?_) (fun t hm f hsf ↦ ?_)
    fun id ↦ .of_changed hold hgrounded (h.grounded id)
  · rcases List.mem_cons.mp (hs.mem_iff.mp hm) with rfl | hm
    · exact ht
    · exact h.stats t hm
  · rcases List.mem_cons.mp (hs.mem_iff.mp hm) with rfl | hm
    · exact asks_still (hf f hsf).2
    · exact asks_still (h.references t hm f hsf)

/-- A schema stays clean when its stats change their order. -/
theorem of_perm (h : s.IsClean) (hsame : next.config = s.config ∧ next.sections = s.sections)
    (hs : next.stats.Perm s.stats) : next.IsClean := by
  have hd : next.HasDistinctIds := (hs.map _).nodup_iff.mpr h.statIds
  refine h.of_stats hsame hd (fun t hm ↦ h.stats t (hs.mem_iff.mp hm)) (fun t hm f hf ↦ ?_)
    fun id ↦ ?_
  · exact (h.references t (hs.mem_iff.mp hm) f hf).mono hd fun t hm htext ↦
      ⟨t, hs.mem_iff.mpr hm, rfl, htext⟩
  · rw [storedFormula?_perm hs h.statIds]
    exact h.grounded id

/-- A formula that is set leaves a schema clean when it is not empty and asks for values. -/
theorem of_setFormula (h : s.IsClean) {formula : String} (hne : formula ≠ "")
    (ha : AsksForValues s.stats formula) (hs : s.edit (.setFormula id formula) = .ok next) :
    next.IsClean := by
  have he := edited_of_edit hs
  have hsame := config_and_sections_of_edit hs
  have hd := he.hasDistinctIds h.statIds
  have hg := he.grounded h.statIds h.grounded (by simp)
  cases he with
  | @set _ stat kept hc hf hold hnew =>
    -- the stat whose formula is new is calculated before and behind, so it holds a value in both
    have asks_still {f : String} (hf : AsksForValues s.stats f) : AsksForValues next.stats f := by
      refine hf.mono hd fun t hm htext ↦ ?_
      rcases List.mem_cons.mp (hold.mem_iff.mp hm) with rfl | hm
      · exact ⟨t.withFormula formula, hnew.mem_iff.mpr List.mem_cons_self, by simp, by simpa⟩
      · exact ⟨t, hnew.mem_iff.mpr (List.mem_cons_of_mem _ hm), rfl, htext⟩
    refine h.of_stats hsame hd (fun t hm ↦ ?_) (fun t hm f hsf ↦ ?_) hg
    · rcases List.mem_cons.mp (hnew.mem_iff.mp hm) with rfl | hm
      · exact (h.stats stat (hold.mem_iff.mpr List.mem_cons_self)).withFormula hc hne
      · exact h.stats t (hold.mem_iff.mpr (List.mem_cons_of_mem _ hm))
    · rcases List.mem_cons.mp (hnew.mem_iff.mp hm) with rfl | hm
      · rw [Stat.formula?_withFormula hc] at hsf
        cases hsf
        exact asks_still ha
      · exact asks_still (h.references t (hold.mem_iff.mpr (List.mem_cons_of_mem _ hm)) f hsf)

/-- An edit of the stats that is allowed leaves a schema clean. -/
theorem of_edit (h : s.IsClean) {e : StatEdit} (ha : s.Allows (.stats e))
    (hs : s.edit e = .ok next) : next.IsClean := by
  have hsame := config_and_sections_of_edit hs
  cases e with
  | add word =>
    obtain ⟨kind, rfl, rfl⟩ := exists_kind_of_addStatOf hs
    have hkind : kind ≠ .calculated := fun hk ↦ ha (by rw [hk])
    refine h.of_new hsame rfl (.new hkind _) (fun f hf ↦ ?_) (List.perm_append_singleton ..)
    rw [Stat.formula?_new_eq_none hkind] at hf
    cases hf
  | duplicate index =>
    obtain ⟨stat, hstat, hperm⟩ := stats_of_duplicateStat hs
    have hm : stat ∈ s.stats := by
      obtain ⟨place, -, hp⟩ := Option.bind_eq_some_iff.mp hstat
      exact List.mem_of_getElem? hp
    refine h.of_new hsame (stat.id_copyAs _) ((h.stats stat hm).copyAs _) (fun f hf ↦ ?_) hperm
    rw [Stat.formula?_copyAs] at hf
    exact ⟨h.hasReadableFormulas stat hm f hf, h.references stat hm f hf⟩
  | remove index => exact ha.elim
  | move index steps =>
    cases hs
    exact h.of_perm hsame (moveItem_perm ..)
  | setFormula id formula => exact h.of_setFormula ha.1 ha.2 hs

/-- A schema stays clean with other sections that are in order and have distinct ids. -/
theorem of_sections (h : s.IsClean) {sections : List SheetSection}
    (ht : ∀ sec ∈ sections, sec.IsTidy) (hd : (sections.map (·.id)).Nodup) :
    GameSystem.IsClean { s with sections } :=
  { h with sections := ht, sectionIds := hd }

/-- Every edit that is allowed leaves a schema clean. -/
theorem of_editSchema (h : s.IsClean) {e : SchemaEdit} (ha : s.Allows e)
    (hs : s.editSchema e = .ok next) : next.IsClean := by
  cases e with
  | stats e => exact h.of_edit ha hs
  | addSection =>
    cases hs
    refine h.of_sections ?_ ?_
    · refine List.forall_mem_append.mpr ⟨h.sections, List.forall_mem_singleton.mpr ⟨?_, ?_⟩⟩
      · simp [SheetSection.new, Localization.ofText]
      · simp [SheetSection.new]
    · rw [List.map_append, List.map_singleton]
      exact List.nodup_append_comm.mp (List.nodup_cons.mpr ⟨nextId_notMem _, h.sectionIds⟩)
  | removeSection index =>
    simp only [GameSystem.editSchema, GameSystem.removeSection] at hs
    split at hs
    · next i _ =>
      cases hs
      have hsub : (s.sections.eraseIdx i).Sublist s.sections := List.eraseIdx_sublist ..
      exact h.of_sections (fun sec hm ↦ h.sections sec (hsub.subset hm))
        (h.sectionIds.sublist (hsub.map _))
    · cases hs
  | moveSection index steps =>
    cases hs
    have hperm := moveItem_perm index steps s.sections
    exact h.of_sections (fun sec hm ↦ h.sections sec (hperm.mem_iff.mp hm))
      ((hperm.map _).nodup_iff.mpr h.sectionIds)

/-- A schema stays clean along a run of edits that are allowed. -/
theorem afterSchemaEdits (h : s.IsClean) {edits : List SchemaEdit} (ha : s.AllowsAll edits) :
    (s.afterSchemaEdits edits).IsClean := by
  induction edits generalizing s with
  | nil => exact h
  | cons e edits ih =>
    refine ih ?_ ha.2
    unfold GameSystem.afterSchemaEdit
    split
    · next hs => exact h.of_editSchema ha.1 hs
    · exact h

end GameSystem.IsClean
end

/-! ### Main statement -/

namespace GameSystem

/-- A schema without issues has none behind a run of edits that take no stat away, add no stat
without its formula and set formulas only that are not empty and ask for values. -/
theorem issues_along_edits {s : GameSystem} (h : s.issues false = .ok [])
    {edits : List SchemaEdit} (ha : s.AllowsAll edits) :
    (s.afterSchemaEdits edits).issues false = .ok [] :=
  issues_eq_nil_iff_isClean.mpr ((issues_eq_nil_iff_isClean.mp h).afterSchemaEdits ha)

/-- A schema in which one stat is calculated from another. -/
def withDerivedStat : GameSystem where
  config := { id := some 1, name := { default := "S" } }
  stats := [
    { id := 1, name := { default := "A" }, detail := .boolean {} },
    { id := 2, name := { default := "B" }, detail := .calculated "<stat:1:value>" {} }]

/-- Only the one stat has a formula, which leads to the other. -/
theorem isClean_withDerivedStat : withDerivedStat.IsClean := by
  have hdeps : dependencies "<stat:1:value>" = .ok [1] :=
    dependencies_of_mention (m := ⟨.stat, ['1'], .value⟩) (by decide) rfl (by decide)
  have htidy : (firstStat (.boolean {})).IsTidy := ⟨by decide, nofun, nofun, nofun⟩
  show (calculatedBeside (.boolean {}) "<stat:1:value>").IsClean
  exact isClean_calculatedBeside hdeps (by decide) htidy rfl rfl

/-- A calculated stat is copied, its copy is calculated from it, a section is added, and another one
is to be removed that is not there. -/
theorem issues_along_edits_copy :
    (withDerivedStat.afterSchemaEdits [.stats (.duplicate 1),
      .stats (.setFormula 3 "<stat:2:value>"), .addSection, .removeSection 9]).issues false =
        .ok [] := by
  have h : withDerivedStat.issues false = .ok [] :=
    issues_eq_nil_iff_isClean.mpr isClean_withDerivedStat
  have hdeps : dependencies "<stat:2:value>" = .ok [2] :=
    dependencies_of_mention (m := ⟨.stat, ['2'], .value⟩) (by decide) rfl (by decide)
  refine issues_along_edits h ⟨trivial, ⟨by decide, fun id ha ↦ ?_⟩, trivial, trivial, trivial⟩
  obtain rfl := List.mem_singleton.mp ((mem_dependencies_iff hdeps id).mpr ha)
  exact ⟨_, rfl, rfl⟩

end GameSystem
end CharacterSheet
