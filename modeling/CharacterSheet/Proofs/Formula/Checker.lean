import CharacterSheet.Proofs.Formula.Walk

/-!
# One checker for many questions

A checker keeps what its walks cleared and read. What it keeps holds of the stored formulas
alone, so that it never bears on an answer. Main statement: questions put to one checker have
the answers that they have when each is put to a new one.
-/

namespace CharacterSheet

/-- The cycle that a formula of a stat leads to, found without memory. -/
def searchFrom (stats : List Stat) (target : Int) (formula : String) : CycleAnswer := do
  search stats target [target] (← dependencies formula)

/-- A checker whose memory holds of the stored formulas. -/
structure CycleChecker.Sound (c : CycleChecker) : Prop where
  grounded : ∀ id ∈ c.cleared, Grounded (storedFormula? c.stats) id
  known : KnownFrom c.stats c.known

section
variable {stats : List Stat} {target : Int} {formula : String} {deps : List Int}

/-- The stored formula given as one of its own changes nothing. -/
theorem formulaAt_of_stored (h : storedFormula? stats target = some formula) :
    formulaAt stats target formula = storedFormula? stats := by
  funext id
  by_cases hid : id = target
  · rw [hid, formulaAt_target, h]
  · exact formulaAt_of_ne hid

/-- What a formula leads to from the stat that it is given for. -/
theorem leadsTo_target (hd : dependencies formula = .ok deps) :
    ∀ dep ∈ deps, LeadsTo (formulaAt stats target formula) target dep :=
  fun _ hm ↦ ⟨formula, deps, formulaAt_target, hd, hm⟩

/-- A walk sets out soundly when what it is told is cleared is grounded. -/
theorem Walk.sound_start {cleared : List Int} {known : List (Int × List Int)}
    (hd : dependencies formula = .ok deps)
    (hg : ∀ id ∈ cleared, Grounded (formulaAt stats target formula) id)
    (hk : KnownFrom stats known) :
    (Walk.start target deps cleared known).Sound stats target formula where
  spine := .cons formulaAt_target hd (fun _ hm ↦ hm) (fun _ hm ↦ .inl hm) .nil
  trail := fun _ ↦ .single _ _
  visited := fun _ ↦ .rfl
  grounded := hg
  known := hk

/-- The rest of a walk that sets out is all there is to search. -/
theorem Walk.answer_start {cleared : List Int} {known : List (Int × List Int)} :
    (Walk.start target deps cleared known).answer stats target =
      search stats target [target] deps := by
  simp only [Walk.answer, Walk.start, Walk.unwind]
  rcases search stats target [target] deps with e | _ | path <;> rfl

end

namespace CycleChecker

/-- A checker that was asked nothing has nothing in memory. -/
theorem sound_new (stats : List Stat) : Sound ⟨stats, [], []⟩ :=
  ⟨by simp, fun _ _ h ↦ by simp at h⟩

/-- A sound checker gives the answer that is found without memory, and stays sound. -/
theorem Sound.find {c : CycleChecker} (h : c.Sound) (target : Int) (formula : String) :
    (c.find target formula).1 = searchFrom c.stats target formula ∧
      (c.find target formula).2.stats = c.stats ∧ (c.find target formula).2.Sound := by
  unfold CycleChecker.find searchFrom
  cases hd : dependencies formula with
  | error e => exact ⟨rfl, rfl, h⟩
  | ok deps =>
    by_cases hs : c.isStored target formula = true
    · have hf := formulaAt_of_stored (by simpa [isStored] using hs)
      have hw : (Walk.start target deps c.cleared c.known).Sound c.stats target formula :=
        Walk.sound_start hd (by rw [hf]; exact h.grounded) h.known
      simp only [hs, if_true, true_and]
      refine ⟨hw.run.1.trans Walk.answer_start, ?_, hw.run.2.known⟩
      simpa only [hf] using hw.run.2.grounded
    · have hw : (Walk.start target deps [] c.known).Sound c.stats target formula :=
        Walk.sound_start hd (by simp) h.known
      simp only [hs, true_and]
      exact ⟨hw.run.1.trans Walk.answer_start, h.grounded, hw.run.2.known⟩

/-- A checker that answers for the stats of a list, whatever it was asked before. -/
structure Serves (c : CycleChecker) (stats : List Stat) : Prop where
  sound : c.Sound
  stats_eq : c.stats = stats

/-- A checker that was asked nothing serves its stats. -/
theorem serves_new (stats : List Stat) : Serves ⟨stats, [], []⟩ stats := ⟨sound_new stats, rfl⟩

/-- Put questions to a checker one after the other. -/
def findAll (c : CycleChecker) : List (Int × String) → List CycleAnswer × CycleChecker
  | [] => ([], c)
  | (target, formula) :: questions =>
    let (answer, c) := c.find target formula
    let (answers, c) := c.findAll questions
    (answer :: answers, c)

/-- A sound checker gives all questions the answers that are found without memory, and stays
sound. -/
theorem Sound.findAll {c : CycleChecker} (h : c.Sound) (questions : List (Int × String)) :
    (c.findAll questions).1 = questions.map (fun q ↦ searchFrom c.stats q.1 q.2) ∧
      (c.findAll questions).2.Sound := by
  induction questions generalizing c with
  | nil => exact ⟨rfl, h⟩
  | cons q questions ih =>
    obtain ⟨ha, hs, hc⟩ := h.find q.1 q.2
    obtain ⟨hi, hn⟩ := ih hc
    refine ⟨?_, hn⟩
    simp only [CycleChecker.findAll, List.map_cons, ha, hi, hs]

end CycleChecker

/-- The cycle that is found with a new checker is the one that is found without memory. -/
theorem findCycle_eq (stats : List Stat) (target : Int) (formula : String) :
    findCycle stats target formula = searchFrom stats target formula :=
  ((CycleChecker.sound_new stats).find target formula).1

/-- A checker that answers for some stats finds what is found with a new one, and goes on to answer
for them. -/
theorem CycleChecker.Serves.answers {c : CycleChecker} {stats : List Stat} (h : c.Serves stats)
    (target : Int) (formula : String) :
    (c.find target formula).1 = findCycle stats target formula ∧
      (c.find target formula).2.Serves stats := by
  obtain ⟨ha, hs, hc⟩ := h.sound.find target formula
  exact ⟨by rw [ha, h.stats_eq, findCycle_eq], hc, hs.trans h.stats_eq⟩

/-- Questions put to one checker, in any order, have the answers that they have on their own,
whatever was found before. -/
theorem findAll_eq_map_findCycle (stats : List Stat) (questions : List (Int × String)) :
    (CycleChecker.findAll ⟨stats, [], []⟩ questions).1 =
      questions.map fun q ↦ findCycle stats q.1 q.2 := by
  rw [((CycleChecker.sound_new stats).findAll questions).1]
  simp only [findCycle_eq]

end CharacterSheet
