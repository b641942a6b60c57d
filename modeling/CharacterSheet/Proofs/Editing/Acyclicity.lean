import CharacterSheet.Proofs.Editing.Changes
import CharacterSheet.Proofs.Formula.Detection
import Mathlib.Data.List.Induction

/-!
# Formulas stay free of cycles

A formula that is set is checked, but a copy of a calculated stat is not: its new id may be one
that formulas already ask for. Main statement: along a run of edits no formula leads to a cycle
exactly when no copy does at the moment it is made.
-/

namespace CharacterSheet

/-! ### Stored formulas of distinct stats -/

section
variable {stats : List Stat} {stat : Stat} {id : Int}

theorem storedFormula?_cons_self : storedFormula? (stat :: stats) stat.id = stat.formula? := by
  simp [storedFormula?, findStat]

theorem storedFormula?_cons_of_ne (h : id ≠ stat.id) :
    storedFormula? (stat :: stats) id = storedFormula? stats id := by
  simp [storedFormula?, findStat, h.symm]

/-- Among stats with distinct ids every one is found by its id. -/
theorem findStat_eq_some_iff (hd : (stats.map (·.id)).Nodup) :
    findStat stats id = some stat ↔ stat ∈ stats ∧ stat.id = id := by
  constructor
  · exact fun h ↦ ⟨mem_of_findStat h, id_of_findStat h⟩
  · rintro ⟨hm, rfl⟩
    obtain ⟨t, hs⟩ : ∃ t, findStat stats stat.id = some t :=
      Option.isSome_iff_exists.mp (List.find?_isSome.mpr ⟨stat, hm, by simp⟩)
    obtain rfl : t = stat :=
      List.inj_on_of_nodup_map hd (mem_of_findStat hs) hm (id_of_findStat hs)
    exact hs

/-- Among stats with distinct ids every calculated one counts. -/
theorem storedFormula?_eq_some_iff (hd : (stats.map (·.id)).Nodup) {f : String} :
    storedFormula? stats id = some f ↔ ∃ s ∈ stats, s.id = id ∧ s.formula? = some f := by
  simp only [storedFormula?, Option.bind_eq_some_iff, findStat_eq_some_iff hd, and_assoc]

/-- The order of stats with distinct ids does not matter. -/
theorem findStat_perm {others : List Stat} (h : others.Perm stats)
    (hd : (stats.map (·.id)).Nodup) : findStat others = findStat stats := by
  funext id
  refine Option.ext fun s ↦ ?_
  rw [findStat_eq_some_iff hd, findStat_eq_some_iff ((h.map _).nodup_iff.mpr hd), h.mem_iff]

theorem storedFormula?_perm {others : List Stat} (h : others.Perm stats)
    (hd : (stats.map (·.id)).Nodup) : storedFormula? others = storedFormula? stats := by
  funext id
  rw [storedFormula?, storedFormula?, findStat_perm h hd]

end

/-- When formulas change at one id only, and that id is grounded, all ids stay so. -/
theorem Grounded.of_changed {before after : Int → Option String} {id other : Int}
    (h : ∀ i, i ≠ id → after i = before i) (hid : Grounded after id)
    (hg : Grounded before other) : Grounded after other := by
  induction hg with
  | @leaf other hn =>
    by_cases ho : other = id
    · exact ho ▸ hid
    · exact .leaf (by rw [h _ ho, hn])
  | @node other f deps hf hd hg ih =>
    by_cases ho : other = id
    · exact ho ▸ hid
    · exact .node (by rw [h _ ho, hf]) hd ih

/-! ### What every edit keeps -/

namespace GameSystem

/-- No formula of a calculated stat leads to a cycle. -/
def IsAcyclic (s : GameSystem) : Prop :=
  ∀ stat ∈ s.stats, ∀ f, stat.formula? = some f → hasCycle s.stats stat.id f = .ok false

/-- If the stat at an index is calculated, its formula leads to no cycle from the id that a copy
of it gets. -/
def CopiesSafely (s : GameSystem) (index : Int) : Prop :=
  ∀ stat, s.statAt? index = some stat → ∀ f, stat.formula? = some f →
    hasCycle s.stats (nextId s.statIds) f = .ok false

end GameSystem

section
variable {stats : List Stat} {target : Int} {formula : String} {s next : GameSystem}

theorem hasCycle_eq_false_iff :
    hasCycle stats target formula = .ok false ↔
      Grounded (formulaAt stats target formula) target := by
  rw [← findCycle_eq_none_iff, hasCycle]
  rcases findCycle stats target formula with e | _ | path <;> simp [Except.map]

/-- Where ids are distinct, no formula leads to a cycle when all ids are grounded. -/
theorem isAcyclic_iff (hd : s.HasDistinctIds) :
    s.IsAcyclic ↔ ∀ id, Grounded (storedFormula? s.stats) id := by
  constructor
  · intro h id
    cases hf : storedFormula? s.stats id with
    | none => exact .leaf hf
    | some f =>
      obtain ⟨stat, hm, rfl, hs⟩ := (storedFormula?_eq_some_iff hd).mp hf
      have := hasCycle_eq_false_iff.mp (h stat hm f hs)
      rwa [formulaAt_of_stored hf] at this
  · intro h stat hm f hs
    rw [hasCycle_eq_false_iff, formulaAt_of_stored]
    · exact h stat.id
    · exact (storedFormula?_eq_some_iff hd).mpr ⟨stat, hm, rfl, hs⟩

/-- A new stat changes the formula at its own id only. -/
theorem storedFormula?_of_new {stat : Stat} (hd : s.HasDistinctIds)
    (hs : stat.id = nextId s.statIds) (h : next.stats.Perm (stat :: s.stats)) :
    storedFormula? next.stats stat.id = stat.formula? ∧
      ∀ id, id ≠ stat.id → storedFormula? next.stats id = storedFormula? s.stats id := by
  rw [storedFormula?_perm h (nodup_cons_new hd hs)]
  exact ⟨storedFormula?_cons_self, fun id ↦ storedFormula?_cons_of_ne⟩

/-- A copy leads to no cycle once it is there exactly when it is made safely. -/
theorem copiesSafely_iff {index : Int} {stat : Stat} (hd : s.HasDistinctIds)
    (hs : s.statAt? index = some stat)
    (h : next.stats.Perm (stat.copyAs (nextId s.statIds) :: s.stats)) :
    s.CopiesSafely index ↔ Grounded (storedFormula? next.stats) (nextId s.statIds) := by
  obtain ⟨hnew, hold⟩ := storedFormula?_of_new hd rfl h
  rw [Stat.id_copyAs, Stat.formula?_copyAs] at hnew
  have hf : ∀ f, stat.formula? = some f →
      storedFormula? next.stats = formulaAt s.stats (nextId s.statIds) f := by
    intro f hf
    funext id
    by_cases hid : id = nextId s.statIds
    · rw [hid, hnew, hf, formulaAt_target]
    · rw [hold id hid, formulaAt_of_ne hid]
  constructor
  · intro hc
    cases hfs : stat.formula? with
    | none => exact .leaf (by rw [hnew, hfs])
    | some f =>
      rw [hf f hfs]
      exact hasCycle_eq_false_iff.mp (hc stat hs f hfs)
  · intro hg stat' hs' f hfs
    obtain rfl : stat = stat' := Option.some.inj (hs.symm.trans hs')
    rw [hasCycle_eq_false_iff, ← hf f hfs]
    exact hg

/-- An empty formula depends on nothing. -/
theorem dependencies_empty : dependencies "" = .ok [] := by
  cbv

/-- An edit keeps all ids grounded, unless it makes a copy that is not safe. -/
theorem Edited.grounded {e : StatEdit} (h : Edited s next e) (hd : s.HasDistinctIds)
    (hg : ∀ id, Grounded (storedFormula? s.stats) id)
    (hc : ∀ index, e = .duplicate index → s.CopiesSafely index) (id : Int) :
    Grounded (storedFormula? next.stats) id := by
  cases h with
  | added kind h =>
    obtain ⟨hnew, hold⟩ := storedFormula?_of_new hd rfl h
    refine .of_changed hold ?_ (hg id)
    cases hf : (Stat.new kind (nextId s.statIds)).formula? with
    | none => exact .leaf (hnew.trans hf)
    | some f =>
      rw [Stat.formula?_new hf] at hf
      exact .node (hnew.trans hf) dependencies_empty (by simp)
  | @copied index stat hs h =>
    refine .of_changed (storedFormula?_of_new hd rfl h).2 ?_ (hg id)
    exact (copiesSafely_iff hd hs h).mp (hc index rfl)
  | @removed index stat h =>
    have hn : ((stat :: next.stats).map (·.id)).Nodup := (h.map _).nodup_iff.mp hd
    have he := storedFormula?_perm h hn
    refine .of_changed (fun i (hi : i ≠ stat.id) ↦ ?_) ?_ (hg id)
    · rw [he, storedFormula?_cons_of_ne hi]
    · refine .leaf (Option.eq_none_iff_forall_ne_some.mpr fun f hf ↦ ?_)
      obtain ⟨t, hm, ht, -⟩ := (storedFormula?_eq_some_iff (List.nodup_cons.mp hn).2).mp hf
      exact (List.nodup_cons.mp hn).1 (List.mem_map.mpr ⟨t, hm, ht⟩)
  | moved h =>
    rw [storedFormula?_perm h hd]
    exact hg id
  | @set formula stat kept hcalc hf hs h =>
    have hn : ((stat :: kept).map (·.id)).Nodup := (hs.map _).nodup_iff.mp hd
    have hn' : ((stat.withFormula formula :: kept).map (·.id)).Nodup := by
      rwa [List.map_cons, Stat.id_withFormula]
    have he : storedFormula? next.stats = formulaAt s.stats stat.id formula := by
      rw [storedFormula?_perm h hn']
      funext i
      by_cases hi : i = stat.id
      · have hnew : storedFormula? (stat.withFormula formula :: kept)
            (stat.withFormula formula).id = _ := storedFormula?_cons_self
        rw [Stat.id_withFormula] at hnew
        rw [hi, formulaAt_target, hnew, Stat.formula?_withFormula hcalc]
      · rw [formulaAt_of_ne hi, storedFormula?_perm hs hn, storedFormula?_cons_of_ne hi,
          storedFormula?_cons_of_ne (by rwa [Stat.id_withFormula])]
    rw [he]
    exact .of_changed (fun i hi ↦ formulaAt_of_ne hi) (findCycle_eq_none_iff.mp hf) (hg id)

namespace GameSystem

/-- An edit keeps formulas free of cycles, unless it makes a copy that is not safe. -/
theorem IsAcyclic.afterEdit {e : StatEdit} (ha : s.IsAcyclic) (hd : s.HasDistinctIds)
    (hc : ∀ index, e = .duplicate index → s.CopiesSafely index) : (s.afterEdit e).IsAcyclic := by
  rcases s.afterEdit_cases (e := e) with he | he
  · rwa [he]
  · rw [isAcyclic_iff (he.hasDistinctIds hd)]
    exact he.grounded hd ((isAcyclic_iff hd).mp ha) hc

/-- A copy that leaves formulas free of cycles was safe to make. -/
theorem IsAcyclic.copiesSafely {index : Int} (hd : s.HasDistinctIds)
    (h : (s.afterEdit (.duplicate index)).IsAcyclic) : s.CopiesSafely index := by
  cases hs : s.statAt? index with
  | none =>
    intro stat hs'
    cases hs.symm.trans hs'
  | some stat =>
    obtain ⟨next, hn⟩ : ∃ next, s.edit (.duplicate index) = .ok next :=
      ⟨_, by rw [edit, duplicateStat, ← statAt?, hs]⟩
    have ht : s.afterEdit (.duplicate index) = next := by rw [GameSystem.afterEdit, hn]
    have he := edited_of_edit hn
    rw [ht] at h
    rw [isAcyclic_iff (he.hasDistinctIds hd)] at h
    cases he with
    | copied hs hp => exact (copiesSafely_iff hd hs hp).mpr (h _)

/-- Along a run of edits formulas stay free of cycles when every copy is safe at the moment it
is made. -/
theorem IsAcyclic.afterEdits (ha : s.IsAcyclic) (hd : s.HasDistinctIds) {edits : List StatEdit}
    (hc : ∀ front index, front ++ [.duplicate index] <+: edits →
      (s.afterEdits front).CopiesSafely index) : (s.afterEdits edits).IsAcyclic := by
  induction edits using List.reverseRecOn with
  | nil => exact ha
  | append_singleton front e ih =>
    rw [GameSystem.afterEdits, List.foldl_concat]
    refine IsAcyclic.afterEdit (ih fun f i hp ↦ ?_) (hd.afterEdits front) ?_
    · exact hc f i (hp.trans (List.prefix_append _ _))
    · rintro index rfl
      exact hc front index (List.prefix_refl _)

/-- Along a run of edits no formula ever leads to a cycle exactly when every copy is safe at the
moment it is made. -/
theorem isAcyclic_along_iff (hd : s.HasDistinctIds) (ha : s.IsAcyclic) (edits : List StatEdit) :
    (∀ front, front <+: edits → (s.afterEdits front).IsAcyclic) ↔
      ∀ front index, front ++ [.duplicate index] <+: edits →
        (s.afterEdits front).CopiesSafely index := by
  constructor
  · intro h front index hp
    have := h _ hp
    rw [afterEdits, List.foldl_concat] at this
    exact this.copiesSafely (hd.afterEdits front)
  · intro h front hp
    exact ha.afterEdits hd fun f i hf ↦ h f i (hf.trans hp)

/-- A copy of a stat that asks for another one keeps formulas free of cycles. -/
theorem isAcyclic_along_copy :
    let s : GameSystem := { stats := [{ id := 2, detail := .calculated "<stat:1:value>" {} }] }
    ∀ front, front <+: [.duplicate 0] → (s.afterEdits front).IsAcyclic := by
  intro s
  have hdeps : dependencies "<stat:1:value>" = .ok [1] :=
    dependencies_of_mention (m := ⟨.stat, ['1'], .value⟩) (by decide) rfl (by decide)
  have hsafe : ∀ id, id ≠ 1 → hasCycle s.stats id "<stat:1:value>" = .ok false := by
    intro id hid
    refine hasCycle_eq_false_iff.mpr (.node formulaAt_target hdeps ?_)
    simpa using Grounded.leaf (by rw [formulaAt_of_ne hid.symm]; rfl)
  refine (isAcyclic_along_iff (by decide) ?_ _).mpr ?_
  · intro stat hm f hf
    obtain rfl := List.mem_singleton.mp hm
    obtain rfl := Option.some.inj hf
    exact hsafe 2 (by decide)
  · intro front index hp stat hs f hf
    obtain ⟨rfl, hi⟩ : front = [] ∧ StatEdit.duplicate index = .duplicate 0 := by
      cases front with
      | nil => exact ⟨rfl, (List.cons_prefix_cons.mp hp).1⟩
      | cons e front => simpa using (List.cons_prefix_cons.mp hp).2.length_le
    cases hi
    obtain rfl := Option.some.inj hs
    obtain rfl := Option.some.inj hf
    exact hsafe _ (by decide)

/-- A copy may get the id that its own formula asks for, and then asks for itself. -/
theorem copy_may_ask_for_itself :
    let s : GameSystem := { stats := [{ id := 1, detail := .calculated "<stat:2:value>" {} }] }
    s.HasDistinctIds ∧ s.IsAcyclic ∧ ¬ (s.afterEdits [.duplicate 0]).IsAcyclic := by
  intro s
  have hdeps : dependencies "<stat:2:value>" = .ok [2] :=
    dependencies_of_mention (m := ⟨.stat, ['2'], .value⟩) (by decide) rfl (by decide)
  refine ⟨by decide, ?_, fun h ↦ ?_⟩
  · intro stat hm f hf
    obtain rfl := List.mem_singleton.mp hm
    obtain rfl := Option.some.inj hf
    refine hasCycle_eq_false_iff.mpr (.node formulaAt_target hdeps ?_)
    simpa using Grounded.leaf (by rw [formulaAt_of_ne (by decide)]; rfl)
  · have hc := h (Stat.copyAs { id := 1, detail := .calculated "<stat:2:value>" {} } 2)
      (List.mem_cons_of_mem _ List.mem_cons_self) _ rfl
    refine (hasCycle_eq_false_iff.mp hc).not_transGen_self (.single ?_)
    exact ⟨_, _, formulaAt_target, hdeps, List.mem_singleton.mpr rfl⟩

end GameSystem

end
end CharacterSheet
