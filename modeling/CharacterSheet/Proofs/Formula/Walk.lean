import CharacterSheet.Proofs.Formula.Search

/-!
# The walk and what it remembers

Along a walk the stats on the path have dependencies that are grounded, or lie ahead, or are the
next stat of the path. So a stat is grounded when it is left, and nothing is missed when a
cleared stat is skipped. Main statement: from a sound walk the answer is that of the search
without memory, and what is cleared at the end is grounded.
-/

namespace CharacterSheet

/-- For every stat of a path, innermost first, the ids that its formula depends on are still to
be followed, or are the stat that was entered from it, or are grounded. -/
inductive Spine (formulas : Int → Option String) :
    Option Int → List Int → List (List Int) → Prop where
  | nil {entered : Option Int} : Spine formulas entered [] []
  | cons {entered : Option Int} {id : Int} {f : String} {deps ids path : List Int}
    {pending : List (List Int)} (hf : formulas id = some f) (hd : dependencies f = .ok deps)
    (hi : ∀ dep ∈ ids, dep ∈ deps)
    (hg : ∀ dep ∈ deps, dep ∈ ids ∨ entered = some dep ∨ Grounded formulas dep)
    (hs : Spine formulas (some id) path pending) :
    Spine formulas entered (id :: path) (ids :: pending)

/-- The dependencies that were read are those of stored formulas. -/
def KnownFrom (stats : List Stat) (known : List (Int × List Int)) : Prop :=
  ∀ id deps, known.lookup id = some deps →
    ∃ f, storedFormula? stats id = some f ∧ dependencies f = .ok deps

namespace Walk

/-- A walk that has followed everything it passed by. -/
structure Sound (stats : List Stat) (target : Int) (formula : String) (w : Walk) : Prop where
  spine : Spine (formulaAt stats target formula) none w.path w.pending
  trail : w.path ≠ [] → IsTrail (LeadsTo (formulaAt stats target formula)) target w.path
  visited : ∀ id, id ∈ w.onPath ↔ id ∈ w.path
  grounded : ∀ id ∈ w.cleared, Grounded (formulaAt stats target formula) id
  known : KnownFrom stats w.known

/-- What the search without memory finds on the rest of a walk, from the inside out. -/
def unwind (stats : List Stat) (target : Int) : List Int → List (List Int) → CycleAnswer
  | id :: path, ids :: pending =>
    (search stats target (id :: path) ids).orElse (unwind stats target path pending)
  | _, _ => .ok none

/-- What the search without memory finds on the rest of a walk. -/
def answer (stats : List Stat) (target : Int) (w : Walk) : CycleAnswer :=
  unwind stats target w.path w.pending

end Walk

section
variable {stats : List Stat} {target : Int} {formula : String} {w : Walk}

/-- A spine whose pending lists are not empty has a path as long. -/
theorem Spine.exists_of_cons {formulas : Int → Option String} {entered : Option Int}
    {path ids : List Int} {pending : List (List Int)}
    (h : Spine formulas entered path (ids :: pending)) :
    ∃ id below f deps, path = id :: below ∧ formulas id = some f ∧ dependencies f = .ok deps ∧
      (∀ dep ∈ ids, dep ∈ deps) ∧
      (∀ dep ∈ deps, dep ∈ ids ∨ entered = some dep ∨ Grounded formulas dep) ∧
      Spine formulas (some id) below pending := by
  cases h with
  | cons hf hd hi hg hs => exact ⟨_, _, _, _, rfl, hf, hd, hi, hg, hs⟩

/-- When the stat that was entered is grounded, it need not be kept apart. -/
theorem Spine.of_grounded {formulas : Int → Option String} {id : Int} {path : List Int}
    {pending : List (List Int)} (h : Spine formulas (some id) path pending)
    (hg : Grounded formulas id) : Spine formulas none path pending := by
  cases h with
  | nil => exact .nil
  | cons hf hd hi hm hs =>
    refine .cons hf hd hi (fun dep hdep ↦ ?_) hs
    rcases hm dep hdep with h | h | h
    · exact .inl h
    · cases h
      exact .inr (.inr hg)
    · exact .inr (.inr h)

namespace Walk

/-! ### What a step preserves -/

/-- Where ids are still to be followed there is a stat that they are followed from. -/
theorem Sound.exists_of_pending {ids : List Int} {outer : List (List Int)}
    (h : w.Sound stats target formula) (hp : w.pending = ids :: outer) :
    ∃ id below f deps, w.path = id :: below ∧
      formulaAt stats target formula id = some f ∧ dependencies f = .ok deps ∧
      (∀ dep ∈ ids, dep ∈ deps) ∧
      (∀ dep ∈ deps, dep ∈ ids ∨ Grounded (formulaAt stats target formula) dep) ∧
      Spine (formulaAt stats target formula) (some id) below outer := by
  have hs := h.spine
  rw [hp] at hs
  obtain ⟨id, below, f, deps, he, hf, hd, hi, hg, hs⟩ := hs.exists_of_cons
  exact ⟨id, below, f, deps, he, hf, hd, hi, fun dep hm ↦ by simpa using hg dep hm, hs⟩

/-- What is read of a stored formula is what it depends on. -/
theorem Sound.storedDependencies_eq {id : Int} {f : String} (h : w.Sound stats target formula)
    (hf : storedFormula? stats id = some f) : w.storedDependencies id f = dependencies f := by
  unfold storedDependencies
  split
  · next deps hk =>
    obtain ⟨f', hf', hd⟩ := h.known id deps hk
    cases hf.symm.trans hf'
    exact hd.symm
  · rfl

/-- The first stat of the path leads to everything that is still to be followed from it. -/
theorem Sound.leadsTo {ids : List Int} {outer : List (List Int)}
    (h : w.Sound stats target formula) (hp : w.pending = ids :: outer) :
    ∀ dep ∈ ids, ∀ v ∈ w.path.head?, LeadsTo (formulaAt stats target formula) v dep := by
  obtain ⟨id, below, f, deps, he, hf, hd, hi, -, -⟩ := h.exists_of_pending hp
  intro dep hm v hv
  obtain rfl : id = v := by simpa [he] using hv
  exact ⟨f, deps, hf, hd, hi dep hm⟩

/-- Leaving a stat clears it, and nothing was left to follow from it. -/
theorem Sound.leave {outer : List (List Int)} (h : w.Sound stats target formula)
    (hp : w.pending = [] :: outer) :
    (w.leave outer).Sound stats target formula ∧
      (w.leave outer).answer stats target = w.answer stats target := by
  obtain ⟨id, below, f, deps, he, hf, hd, hi, hg, hs⟩ := h.exists_of_pending hp
  have hid : Grounded (formulaAt stats target formula) id :=
    .node hf hd fun dep hm ↦ (hg dep hm).resolve_left List.not_mem_nil
  have ht := h.trail (by simp [he])
  rw [he] at ht
  have hl : w.leave outer =
      ⟨below, w.onPath.filter (· != id), outer, id :: w.cleared, w.known⟩ := by
    simp only [Walk.leave, he]
  rw [hl]
  refine ⟨⟨hs.of_grounded hid, ht.tail, fun i ↦ ?_, ?_, h.known⟩, ?_⟩
  · have hn := (List.nodup_cons.mp ht.distinct).1
    simp only [List.mem_filter, h.visited, he, List.mem_cons, bne_iff_ne]
    constructor
    · rintro ⟨rfl | hm, hne⟩
      · exact absurd rfl hne
      · exact hm
    · intro hm
      exact ⟨.inr hm, fun hi ↦ hn (hi ▸ hm)⟩
  · exact List.forall_mem_cons.mpr ⟨hid, h.grounded⟩
  · simp only [answer, hp, he, unwind, search_nil, CycleAnswer.orElse]

/-- A stat that leads nowhere new may be passed by. -/
theorem Sound.skip {dep : Int} {rest : List Int} {outer : List (List Int)}
    (h : w.Sound stats target formula) (hp : w.pending = (dep :: rest) :: outer)
    (ht : dep ≠ target) (hs : storedFormula? stats dep = none ∨ dep ∈ w.cleared) :
    Sound stats target formula { w with pending := rest :: outer } ∧
      answer stats target { w with pending := rest :: outer } = w.answer stats target := by
  obtain ⟨id, below, f, deps, he, hf, hd, hi, hg, hsp⟩ := h.exists_of_pending hp
  have hdep : Grounded (formulaAt stats target formula) dep := by
    rcases hs with hs | hs
    · exact .leaf (by rwa [formulaAt_of_ne ht])
    · exact h.grounded dep hs
  have hsearch : search stats target w.path (dep :: rest) = search stats target w.path rest := by
    have hlead := h.leadsTo hp dep List.mem_cons_self
    rw [search_cons, search_of_grounded (h.trail (by simp [he])) (by simpa using hlead)
      (by simpa using hdep)]
    rfl
  refine ⟨⟨?_, h.trail, h.visited, h.grounded, h.known⟩, ?_⟩
  · simp only [he]
    refine .cons hf hd (fun d hm ↦ hi d (List.mem_cons_of_mem _ hm)) (fun d hm ↦ ?_) hsp
    rcases hg d hm with hm | hm
    · rcases List.mem_cons.mp hm with rfl | hm
      · exact .inr (.inr hdep)
      · exact .inl hm
    · exact .inr (.inr hm)
  · rw [he] at hsearch
    simp only [answer, hp, he, unwind, hsearch]

/-- Entering a stat puts it on the path, and its dependencies are followed first. -/
theorem Sound.enter {dep : Int} {rest deps : List Int} {outer : List (List Int)} {f : String}
    (h : w.Sound stats target formula) (hp : w.pending = (dep :: rest) :: outer)
    (ht : dep ≠ target) (hf : storedFormula? stats dep = some f) (ho : dep ∉ w.onPath)
    (hd : w.storedDependencies dep f = .ok deps) :
    (w.enter dep deps (rest :: outer)).Sound stats target formula ∧
      (w.enter dep deps (rest :: outer)).answer stats target = w.answer stats target := by
  obtain ⟨id, below, f', deps', he, hf', hd', hi, hg, hsp⟩ := h.exists_of_pending hp
  rw [h.storedDependencies_eq hf] at hd
  have hm : dep ∉ w.path := fun hm ↦ ho ((h.visited dep).mpr hm)
  have hdf : formulaAt stats target formula dep = some f := by rwa [formulaAt_of_ne ht]
  refine ⟨⟨?_, fun _ ↦ ?_, fun i ↦ ?_, h.grounded, ?_⟩, ?_⟩
  · simp only [Walk.enter, he]
    refine .cons hdf hd (fun _ hm ↦ hm) (fun _ hm ↦ .inl hm) ?_
    refine .cons hf' hd' (fun d hm ↦ hi d (List.mem_cons_of_mem _ hm)) (fun d hm ↦ ?_) hsp
    rcases hg d hm with hm | hm
    · rcases List.mem_cons.mp hm with rfl | hm
      · exact .inr (.inl rfl)
      · exact .inl hm
    · exact .inr (.inr hm)
  · exact (h.trail (by simp [he])).cons (h.leadsTo hp dep List.mem_cons_self) hm
  · simp only [Walk.enter, List.mem_cons, h.visited]
  · intro i ds hk
    simp only [Walk.enter] at hk
    split at hk
    · exact h.known i ds hk
    · rw [List.lookup_cons] at hk
      split at hk
      · next hb =>
        cases hk
        exact ⟨f, by rwa [beq_iff_eq.mp hb], hd⟩
      · exact h.known i ds hk
  · rw [he] at hm
    simp only [answer, Walk.enter, hp, he, unwind, search_node ht hf hm, hd]
    rw [CycleAnswer.orElse_assoc]

/-- When a walk is over it has come to what the search without memory finds. -/
theorem Sound.ended {a : CycleAnswer} (h : w.Sound stats target formula)
    (hs : Step stats target w (.ended a)) : a = w.answer stats target := by
  cases hs with
  | finish hp =>
    rw [answer, hp]
    cases w.path <;> rfl
  | returns hp =>
    obtain ⟨id, below, _, _, he, -⟩ := h.exists_of_pending hp
    simp only [answer, hp, he, unwind, search_target, CycleAnswer.orElse, closedBy]
  | meets hp ht hf hc ho =>
    obtain ⟨id, below, _, _, he, -⟩ := h.exists_of_pending hp
    rw [h.visited, he] at ho
    simp only [answer, hp, he, unwind, search_met ht hf ho, CycleAnswer.orElse, closedBy]
  | fail hp ht hf hc ho hd =>
    obtain ⟨id, below, _, _, he, -⟩ := h.exists_of_pending hp
    rw [h.visited, he] at ho
    rw [h.storedDependencies_eq hf] at hd
    simp only [answer, hp, he, unwind, search_node ht hf ho, hd, CycleAnswer.orElse]

/-- A step from a sound walk leads to a sound one with the same answer, or gives the answer. -/
theorem Sound.step (h : w.Sound stats target formula) :
    match Walk.step stats target w with
    | .next next => next.Sound stats target formula ∧
        next.answer stats target = w.answer stats target
    | .ended a => a = w.answer stats target := by
  have hs := step_cases stats target w
  cases hn : Walk.step stats target w with
  | ended a => exact h.ended (hn ▸ hs)
  | next next =>
    rw [hn] at hs
    cases hs with
    | leave hp => exact h.leave hp
    | skip hp ht hs => exact h.skip hp ht hs
    | enter hp ht hf hc ho hd => exact h.enter hp ht hf ho hd

/-- From a sound walk the answer is that of the search without memory, and the walk is sound at
its end. -/
theorem Sound.run (h : w.Sound stats target formula) :
    (Walk.run stats target w).1 = w.answer stats target ∧
      (Walk.run stats target w).2.Sound stats target formula := by
  fun_induction Walk.run stats target w with
  | case1 w a hn =>
    have hs := h.step
    rw [hn] at hs
    exact ⟨hs, h⟩
  | case2 w next hn ih =>
    have hs := h.step
    rw [hn] at hs
    exact ⟨(ih hs.1).1.trans hs.2, (ih hs.1).2⟩

end Walk
end
end CharacterSheet
