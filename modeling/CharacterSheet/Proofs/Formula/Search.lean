import CharacterSheet.Formula.Cycle
import CharacterSheet.Proofs.Formula.Graph

/-!
# The search without memory

The walk that finds cycles keeps a stack, the stats it cleared and the dependencies it read. The
same answer is given by a recursion that remembers nothing but the trail from the start. Main
statements: it finds a lasso or finds all ids grounded, and among grounded ids it finds nothing.
-/

namespace CharacterSheet

/-- The answer below an id, or else the one that comes after it. -/
def CycleAnswer.orElse (below after : CycleAnswer) : CycleAnswer :=
  match below with
  | .ok none => after
  | answer => answer

theorem CycleAnswer.orElse_assoc (a b c : CycleAnswer) :
    (a.orElse b).orElse c = a.orElse (b.orElse c) := by
  rcases a with e | _ | path <;> rfl

/-- The first cycle met when the ids of a list are followed one after the other, each with all
that it depends on, from the end of a trail. -/
def search (stats : List Stat) (target : Int) (trail ids : List Int) : CycleAnswer :=
  match ids with
  | [] => .ok none
  | dep :: rest =>
    if dep = target then .ok (some (trail.reverse ++ [dep]))
    else
      match _hf : storedFormula? stats dep with
      | none => search stats target trail rest
      | some f =>
        if _ht : dep ∈ trail then .ok (some (trail.reverse ++ [dep]))
        else
          match dependencies f with
          | .error e => .error e
          | .ok deps =>
            (search stats target (dep :: trail) deps).orElse (search stats target trail rest)
termination_by (((stats.map (·.id)).filter fun i ↦ !trail.contains i).length, ids.length)
decreasing_by
  · exact Prod.Lex.right _ (Nat.lt_succ_self _)
  · apply Prod.Lex.left
    refine Walk.length_filter_lt (mem_of_storedFormula? _hf) (by simp) (by simpa using _ht) ?_
    intro i hi
    simp only [List.contains_cons, Bool.not_or, Bool.and_eq_true] at hi
    exact hi.2
  · exact Prod.Lex.right _ (Nat.lt_succ_self _)

section
variable {stats : List Stat} {target dep : Int} {trail rest : List Int}

theorem search_nil : search stats target trail [] = .ok none := by rw [search]

theorem search_target :
    search stats target trail (target :: rest) = .ok (some (trail.reverse ++ [target])) := by
  rw [search, if_pos rfl]

theorem search_leaf (ht : dep ≠ target) (hf : storedFormula? stats dep = none) :
    search stats target trail (dep :: rest) = search stats target trail rest := by
  rw [search, if_neg ht]
  split
  · rfl
  · next h => simp [hf] at h

theorem search_met {f : String} (ht : dep ≠ target) (hf : storedFormula? stats dep = some f)
    (hm : dep ∈ trail) :
    search stats target trail (dep :: rest) = .ok (some (trail.reverse ++ [dep])) := by
  rw [search, if_neg ht]
  split
  · next h => simp [hf] at h
  · rw [dif_pos hm]

theorem search_node {f : String} (ht : dep ≠ target) (hf : storedFormula? stats dep = some f)
    (hm : dep ∉ trail) :
    search stats target trail (dep :: rest) =
      match dependencies f with
      | .error e => .error e
      | .ok deps => (search stats target (dep :: trail) deps).orElse
          (search stats target trail rest) := by
  rw [search, if_neg ht]
  split
  · next h => simp [hf] at h
  · next f' h =>
    cases hf.symm.trans h
    rw [dif_neg hm]

/-- The ids of a list are searched one after the other. -/
theorem search_cons :
    search stats target trail (dep :: rest) =
      (search stats target trail [dep]).orElse (search stats target trail rest) := by
  by_cases ht : dep = target
  · rw [ht, search_target, search_target]
    rfl
  cases hf : storedFormula? stats dep with
  | none =>
    rw [search_leaf ht hf, search_leaf ht hf, search_nil]
    rfl
  | some f =>
    by_cases hm : dep ∈ trail
    · rw [search_met ht hf hm, search_met ht hf hm]
      rfl
    · rw [search_node ht hf hm, search_node ht hf hm, search_nil]
      cases dependencies f with
      | error e => rfl
      | ok deps => exact (CycleAnswer.orElse_assoc _ (.ok none) _).symm

end

/-! ### What is found -/

section
variable {stats : List Stat} {target : Int} {formula : String}

theorem formulaAt_of_ne {id : Int} (h : id ≠ target) :
    formulaAt stats target formula id = storedFormula? stats id := if_neg h

theorem formulaAt_target : formulaAt stats target formula target = some formula := if_pos rfl

theorem CycleAnswer.orElse_eq_none_iff {below after : CycleAnswer} :
    below.orElse after = .ok none ↔ below = .ok none ∧ after = .ok none := by
  unfold orElse
  split <;> simp_all

theorem CycleAnswer.of_orElse_eq {below after answer : CycleAnswer}
    (h : below.orElse after = answer) : below = answer ∨ after = answer := by
  unfold orElse at h
  split at h
  · exact .inr h
  · exact .inl h

/-- Where the search finds nothing all ids are grounded. -/
theorem grounded_of_search {trail ids : List Int} (h : search stats target trail ids = .ok none) :
    ∀ id ∈ ids, Grounded (formulaAt stats target formula) id := by
  fun_induction search stats target trail ids with
  | case1 => simp
  | case2 => simp at h
  | case3 trail dep rest ht hf ih =>
    refine List.forall_mem_cons.mpr ⟨.leaf ?_, ih h⟩
    rwa [formulaAt_of_ne ht]
  | case4 => simp at h
  | case5 => simp at h
  | case6 trail dep rest ht f hf hm deps hd ihb iha =>
    obtain ⟨hb, ha⟩ := CycleAnswer.orElse_eq_none_iff.mp h
    refine List.forall_mem_cons.mpr ⟨.node ?_ hd (ihb hb), iha ha⟩
    rwa [formulaAt_of_ne ht]

/-- What the search finds is a lasso. -/
theorem isLasso_of_search {trail ids path : List Int}
    (hi : IsTrail (LeadsTo (formulaAt stats target formula)) target trail)
    (hr : ∀ dep ∈ ids, ∀ v ∈ trail.head?, LeadsTo (formulaAt stats target formula) v dep)
    (h : search stats target trail ids = .ok (some path)) :
    IsLasso (LeadsTo (formulaAt stats target formula)) target path := by
  fun_induction search stats target trail ids with
  | case1 => simp at h
  | case2 trail rest => 
    obtain rfl : trail.reverse ++ [target] = path := by simpa using h
    exact hi.lasso (hr _ List.mem_cons_self) hi.target_mem
  | case3 trail dep rest ht hf ih => exact ih hi (List.forall_mem_cons.mp hr).2 h
  | case4 trail dep rest ht f hf hm =>
    obtain rfl : trail.reverse ++ [dep] = path := by simpa using h
    exact hi.lasso (hr _ List.mem_cons_self) hm
  | case5 => simp at h
  | case6 trail dep rest ht f hf hm deps hd ihb iha =>
    obtain ⟨hv, hrest⟩ := List.forall_mem_cons.mp hr
    rcases CycleAnswer.of_orElse_eq h with h | h
    · refine ihb (hi.cons hv hm) ?_ h
      intro d hmem v hv
      obtain rfl : dep = v := by simpa using hv
      exact ⟨f, deps, by rwa [formulaAt_of_ne ht], hd, hmem⟩
    · exact iha hi hrest h

/-- Among grounded ids the search finds nothing. -/
theorem search_of_grounded {trail ids : List Int}
    (hi : IsTrail (LeadsTo (formulaAt stats target formula)) target trail)
    (hr : ∀ dep ∈ ids, ∀ v ∈ trail.head?, LeadsTo (formulaAt stats target formula) v dep)
    (hg : ∀ id ∈ ids, Grounded (formulaAt stats target formula) id) :
    search stats target trail ids = .ok none := by
  -- an id that is met again leads back to itself, along the trail
  have hnew : ∀ trail : List Int,
      IsTrail (LeadsTo (formulaAt stats target formula)) target trail → ∀ dep : Int,
      (∀ v ∈ trail.head?, LeadsTo (formulaAt stats target formula) v dep) →
      Grounded (formulaAt stats target formula) dep → dep ∉ trail := fun trail hi dep hv hg hm ↦
    hg.not_transGen_self (hi.transGen hv hm)
  fun_induction search stats target trail ids with
  | case1 => rfl
  | case2 trail rest =>
    have := hnew trail hi target (hr _ List.mem_cons_self) (hg _ List.mem_cons_self)
    exact absurd hi.target_mem this
  | case3 trail dep rest ht hf ih =>
    exact ih hi (List.forall_mem_cons.mp hr).2 (List.forall_mem_cons.mp hg).2
  | case4 trail dep rest ht f hf hm =>
    exact absurd hm (hnew trail hi dep (hr _ List.mem_cons_self) (hg _ List.mem_cons_self))
  | case5 trail dep rest ht f hf hm e hd => 
    obtain ⟨deps, hd', -⟩ := (hg _ List.mem_cons_self).exists_dependencies
      (by rwa [formulaAt_of_ne ht])
    cases hd.symm.trans hd'
  | case6 trail dep rest ht f hf hm deps hd ihb iha => 
    obtain ⟨hv, hrest⟩ := List.forall_mem_cons.mp hr
    obtain ⟨hgd, hgrest⟩ := List.forall_mem_cons.mp hg
    obtain ⟨deps', hd', hgs⟩ := hgd.exists_dependencies (by rwa [formulaAt_of_ne ht])
    cases hd.symm.trans hd'
    refine CycleAnswer.orElse_eq_none_iff.mpr ⟨ihb (hi.cons hv hm) ?_ hgs, iha hi hrest hgrest⟩
    intro d hmem v hv
    obtain rfl : dep = v := by simpa using hv
    exact ⟨f, deps, by rwa [formulaAt_of_ne ht], hd, hmem⟩

/-- The search fails only at a formula whose ids cannot be read. -/
theorem exists_of_search_eq_error {trail ids : List Int} {e : NumeralError}
    (h : search stats target trail ids = .error e) :
    ∃ id f, formulaAt stats target formula id = some f ∧ dependencies f = .error e := by
  fun_induction search stats target trail ids with
  | case1 => simp at h
  | case2 => simp at h
  | case3 trail dep rest ht hf ih => exact ih h
  | case4 => simp at h
  | case5 trail dep rest ht f hf hm e' hd =>
    obtain rfl : e' = e := by simpa using h
    exact ⟨dep, f, by rwa [formulaAt_of_ne ht], hd⟩
  | case6 trail dep rest ht f hf hm deps hd ihb iha =>
    rcases CycleAnswer.of_orElse_eq h with h | h
    · exact ihb h
    · exact iha h

end

end CharacterSheet
