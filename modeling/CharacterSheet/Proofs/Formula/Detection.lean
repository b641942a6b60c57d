import CharacterSheet.Proofs.Formula.Checker

/-!
# What is found

A formula given for a stat and the stored formulas of the others make a graph. Main statements:
a path is found exactly when a cycle is reached in it from the stat, and the path is a lasso.
-/

namespace CharacterSheet

section
variable {stats : List Stat} {target : Int} {formula : String}

/-- Nothing is found from a stat exactly when it is grounded. -/
theorem findCycle_eq_none_iff :
    findCycle stats target formula = .ok none ↔
      Grounded (formulaAt stats target formula) target := by
  rw [findCycle_eq, searchFrom]
  constructor
  · intro h
    cases hd : dependencies formula with
    | error e => simp [hd, bind, Except.bind] at h
    | ok deps =>
      rw [hd] at h
      exact .node formulaAt_target hd (grounded_of_search h)
  · intro h
    obtain ⟨deps, hd, hg⟩ := h.exists_dependencies formulaAt_target
    rw [hd]
    exact search_of_grounded (.single _ _)
      (fun dep hm v hv ↦ by cases hv; exact leadsTo_target hd dep hm) hg

/-- A path that is found is a lasso from the stat. -/
theorem isLasso_of_findCycle {path : List Int}
    (h : findCycle stats target formula = .ok (some path)) :
    IsLasso (LeadsTo (formulaAt stats target formula)) target path := by
  rw [findCycle_eq, searchFrom] at h
  cases hd : dependencies formula with
  | error e => simp [hd, bind, Except.bind] at h
  | ok deps =>
    rw [hd] at h
    exact isLasso_of_search (.single _ _)
      (fun dep hm v hv ↦ by cases hv; exact leadsTo_target hd dep hm) h

/-- Where all ids can be read the walk comes to an answer. -/
theorem exists_findCycle_eq_ok (h : ReadableFormulas (formulaAt stats target formula)) :
    ∃ answer, findCycle stats target formula = .ok answer := by
  cases hf : findCycle stats target formula with
  | ok answer => exact ⟨answer, rfl⟩
  | error e =>
    obtain ⟨id, f, hi, hd⟩ : ∃ id f, formulaAt stats target formula id = some f ∧
        dependencies f = .error e := by
      rw [findCycle_eq, searchFrom] at hf
      cases hd : dependencies formula with
      | error e' =>
        obtain rfl : e' = e := by simpa [hd, bind, Except.bind] using hf
        exact ⟨target, formula, formulaAt_target, hd⟩
      | ok deps =>
        rw [hd] at hf
        exact exists_of_search_eq_error hf
    obtain ⟨deps, hd', -⟩ := exists_dependencies (h id f hi)
    cases hd.symm.trans hd'

/-- Formulas are readable when the given one and those of all stats are. -/
theorem readableFormulas_formulaAt (h : ReadableIds formula)
    (hs : ∀ s ∈ stats, ∀ f, s.formula? = some f → ReadableIds f) :
    ReadableFormulas (formulaAt stats target formula) := by
  intro id f hf
  by_cases hid : id = target
  · rw [hid, formulaAt_target] at hf
    cases hf
    exact h
  · rw [formulaAt_of_ne hid] at hf
    obtain ⟨s, hm, hf⟩ := Option.bind_eq_some_iff.mp hf
    exact hs s (mem_of_findStat hm) f hf

/-- Where all ids can be read, nothing is found and no cycle is reached, or a lasso is found. -/
theorem findCycle_cases (h : ReadableFormulas (formulaAt stats target formula)) :
    (findCycle stats target formula = .ok none ∧
      ¬ ReachesCycle (DependsOn (formulaAt stats target formula)) target) ∨
    ∃ path, findCycle stats target formula = .ok (some path) ∧
      IsLasso (DependsOn (formulaAt stats target formula)) target path := by
  rw [← leadsTo_eq h]
  obtain ⟨answer, ha⟩ := exists_findCycle_eq_ok h
  cases answer with
  | none => exact .inl ⟨ha, (findCycle_eq_none_iff.mp ha).not_reachesCycle⟩
  | some path => exact .inr ⟨path, ha, isLasso_of_findCycle ha⟩

/-- The walk comes to an answer, which is a path exactly when a cycle is reached from the stat,
and every path is a lasso. -/
theorem findCycle_correct (h : ReadableFormulas (formulaAt stats target formula)) :
    ∃ answer, findCycle stats target formula = .ok answer ∧
      (answer.isSome ↔ ReachesCycle (DependsOn (formulaAt stats target formula)) target) ∧
      ∀ path, answer = some path →
        IsLasso (DependsOn (formulaAt stats target formula)) target path := by
  rcases findCycle_cases h with ⟨ha, hn⟩ | ⟨path, ha, hl⟩
  · exact ⟨none, ha, by simpa using hn, by simp⟩
  · refine ⟨some path, ha, by simpa using hl.reachesCycle, ?_⟩
    rintro p ⟨⟩
    exact hl

end

/-- Two stats that ask for each other. -/
theorem findCycle_correct_mutual :
    let stats : List Stat := [{ id := 1, detail := .calculated "" {} },
      { id := 2, detail := .calculated "<stat:1:value>" {} }]
    ∃ path, findCycle stats 1 "<stat:2:value>" = .ok (some path) ∧
      IsLasso (DependsOn (formulaAt stats 1 "<stat:2:value>")) 1 path := by
  intro stats
  have h : ReadableFormulas (formulaAt stats 1 "<stat:2:value>") := by
    refine readableFormulas_formulaAt (readableIds_of_length_le (by decide)) ?_
    rintro s hs f hf
    have : f = "" ∨ f = "<stat:1:value>" := by
      rcases List.mem_pair.mp hs with rfl | rfl
      · exact .inl (Option.some.inj hf).symm
      · exact .inr (Option.some.inj hf).symm
    rcases this with rfl | rfl <;> exact readableIds_of_length_le (by decide)
  have h₁ : DependsOn (formulaAt stats 1 "<stat:2:value>") 1 2 :=
    ⟨_, rfl, asksFor_of_mention (m := ⟨.stat, ['2'], .value⟩) (by decide) rfl⟩
  have h₂ : DependsOn (formulaAt stats 1 "<stat:2:value>") 2 1 :=
    ⟨_, rfl, asksFor_of_mention (m := ⟨.stat, ['1'], .value⟩) (by decide) rfl⟩
  obtain ⟨answer, ha, hc, hl⟩ := findCycle_correct h
  obtain ⟨path, rfl⟩ := Option.isSome_iff_exists.mp (hc.mpr ⟨1, .refl, .tail (.single h₁) h₂⟩)
  exact ⟨path, ha, hl path rfl⟩
end CharacterSheet
