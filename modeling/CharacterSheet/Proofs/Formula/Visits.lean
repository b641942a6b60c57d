import CharacterSheet.Proofs.Formula.Checker
import Mathlib.Data.Finset.Card
import Mathlib.Data.Finset.Filter

/-!
# What a walk visits

A walk enters a stat when the path grows by it. What was entered is on the path until it is left,
and cleared from then on, and neither what is on the path nor what is cleared is entered. Main
statement: every walk comes to its end, and enters no stat twice on the way.
-/

namespace CharacterSheet

/-- The ids of the stats that have formulas. Of several stats with an id the first one counts. -/
def calculatedIds (stats : List Stat) : Finset Int :=
  (stats.map (·.id)).toFinset.filter fun id ↦ (storedFormula? stats id).isSome

theorem mem_calculatedIds {stats : List Stat} {id : Int} {f : String}
    (h : storedFormula? stats id = some f) : id ∈ calculatedIds stats :=
  Finset.mem_filter.mpr ⟨List.mem_toFinset.mpr (mem_of_storedFormula? h), by rw [h]; rfl⟩

namespace Walk

/-- The stats that stand on the path of a walk in front of the path that it had before. -/
def entered (w next : Walk) : List Int := next.path.take (next.path.length - w.path.length)

/-- A walk goes on, step by step, and enters the stats of a list on the way. -/
inductive Proceeds (stats : List Stat) (target : Int) (w : Walk) : List Int → Walk → Prop where
  | here : Proceeds stats target w [] w
  | on {ids : List Int} {last next : Walk} (h : Proceeds stats target w ids last)
    (hs : step stats target last = .next next) :
    Proceeds stats target w (ids ++ entered last next) next

section
variable {stats : List Stat} {target : Int} {w last : Walk} {ids : List Int}

/-- No stat is entered where the path does not grow. -/
theorem entered_eq_nil {next : Walk} (h : next.path.length ≤ w.path.length) :
    entered w next = [] := by
  rw [entered, Nat.sub_eq_zero_of_le h, List.take_zero]

/-- From wherever a walk has come to, it goes on to its end. -/
theorem Proceeds.exists_end (h : Proceeds stats target w ids last) :
    ∃ visits final, Proceeds stats target w visits final ∧
      step stats target final = .ended (run stats target last).1 := by
  fun_induction run stats target last generalizing ids with
  | case1 last answer hs => exact ⟨ids, last, h, hs⟩
  | case2 last next hs ih => exact ih (h.on hs)

/-- A walk that has entered each stat of a list once since it set out: these stats are calculated,
and are on the path or cleared. -/
structure Orderly (stats : List Stat) (target : Int) (ids : List Int) (w : Walk) : Prop where
  distinct : (target :: ids).Nodup
  calculated : ∀ id ∈ ids, id ∈ calculatedIds stats
  kept : ∀ id ∈ ids, id ∈ w.path ∨ id ∈ w.cleared
  path : w.path.Nodup
  onPath : ∀ id, id ∈ w.onPath ↔ id ∈ w.path
  pending : w.pending.length = w.path.length

theorem orderly_start (stats : List Stat) (target : Int) (deps cleared : List Int)
    (known : List (Int × List Int)) :
    Orderly stats target [] (.start target deps cleared known) where
  distinct := List.nodup_singleton target
  calculated := List.forall_mem_nil _
  kept := List.forall_mem_nil _
  path := List.nodup_singleton target
  onPath := fun _ ↦ .rfl
  pending := rfl

/-- Stats that were entered once are no more than the start and the calculated stats. -/
theorem length_le_of_distinct (hn : (target :: ids).Nodup)
    (hc : ∀ id ∈ ids, id ∈ calculatedIds stats) :
    (target :: ids).length ≤ 1 + (calculatedIds stats).card := by
  have hle : ids.toFinset.card ≤ (calculatedIds stats).card :=
    Finset.card_le_card fun id hid ↦ hc id (List.mem_toFinset.mp hid)
  rw [List.toFinset_card_of_nodup (List.nodup_cons.mp hn).2] at hle
  simpa [Nat.add_comm] using hle

namespace Orderly

/-- What is neither the start nor on the path nor cleared was not entered. -/
theorem distinct_append {id : Int} (h : Orderly stats target ids w) (ht : id ≠ target)
    (hc : id ∉ w.cleared) (ho : id ∉ w.onPath) : (target :: (ids ++ [id])).Nodup := by
  have hnew : id ∉ ids := by
    intro hid
    rcases h.kept id hid with hp | hp
    · exact ho ((h.onPath id).mpr hp)
    · exact hc hp
  rw [← List.cons_append, List.nodup_append]
  refine ⟨h.distinct, List.nodup_singleton id, ?_⟩
  intro a ha b hb
  obtain rfl := List.mem_singleton.mp hb
  rintro rfl
  exact (List.mem_cons.mp ha).elim ht hnew

/-- The walk leaves the innermost stat of its path. -/
theorem leave {outer : List (List Int)} (h : Orderly stats target ids w)
    (hp : w.pending = [] :: outer) :
    Orderly stats target (ids ++ entered w (w.leave outer)) (w.leave outer) := by
  have hlength := h.pending
  rw [hp] at hlength
  obtain ⟨id, path, hpath⟩ := List.exists_cons_of_length_eq_add_one hlength.symm
  have hleave : w.leave outer =
      ⟨path, w.onPath.filter (· != id), outer, id :: w.cleared, w.known⟩ := by
    simp only [Walk.leave, hpath]
  have hnone : entered w (w.leave outer) = [] := by
    apply entered_eq_nil
    rw [hleave, hpath]
    exact Nat.le_succ _
  have hkept := h.kept
  have honPath := h.onPath
  have hnodup := h.path
  rw [hpath] at hkept honPath hnodup hlength
  obtain ⟨hid, hnodup⟩ := List.nodup_cons.mp hnodup
  rw [hnone, List.append_nil, hleave]
  refine ⟨h.distinct, h.calculated, ?_, hnodup, ?_, Nat.succ.inj hlength⟩
  · intro i hi
    rcases hkept i hi with hi | hi
    · rcases List.mem_cons.mp hi with rfl | hi
      · exact .inr List.mem_cons_self
      · exact .inl hi
    · exact .inr (List.mem_cons_of_mem _ hi)
  · intro i
    rw [List.mem_filter, honPath, List.mem_cons, bne_iff_ne]
    constructor
    · rintro ⟨rfl | hi, hne⟩
      · exact absurd rfl hne
      · exact hi
    · exact fun hi ↦ ⟨.inr hi, fun he ↦ hid (he ▸ hi)⟩

/-- The walk passes a stat by. -/
theorem skip {dep : Int} {rest : List Int} {outer : List (List Int)}
    (h : Orderly stats target ids w) (hp : w.pending = (dep :: rest) :: outer) :
    Orderly stats target (ids ++ entered w { w with pending := rest :: outer })
      { w with pending := rest :: outer } := by
  have hnone : entered w { w with pending := rest :: outer } = [] :=
    entered_eq_nil (Nat.le_refl _)
  have hlength := h.pending
  rw [hp] at hlength
  rw [hnone, List.append_nil]
  exact ⟨h.distinct, h.calculated, h.kept, h.path, h.onPath, hlength⟩

/-- The walk enters a stat that it has not entered before. -/
theorem enter {dep : Int} {rest deps : List Int} {outer : List (List Int)} {f : String}
    (h : Orderly stats target ids w) (hp : w.pending = (dep :: rest) :: outer) (ht : dep ≠ target)
    (hf : storedFormula? stats dep = some f) (hc : dep ∉ w.cleared) (ho : dep ∉ w.onPath) :
    Orderly stats target (ids ++ entered w (w.enter dep deps (rest :: outer)))
      (w.enter dep deps (rest :: outer)) := by
  have hone : entered w (w.enter dep deps (rest :: outer)) = [dep] := by
    simp only [entered, Walk.enter, List.length_cons, Nat.add_sub_cancel_left, List.take_succ_cons,
      List.take_zero]
  have hlength := h.pending
  rw [hp] at hlength
  rw [hone]
  refine ⟨h.distinct_append ht hc ho, ?_, ?_, ?_, ?_, congrArg Nat.succ hlength⟩
  · exact List.forall_mem_append.mpr
      ⟨h.calculated, List.forall_mem_singleton.mpr (mem_calculatedIds hf)⟩
  · refine List.forall_mem_append.mpr ⟨fun i hi ↦ ?_, List.forall_mem_singleton.mpr ?_⟩
    · exact (h.kept i hi).imp_left (List.mem_cons_of_mem dep)
    · exact .inl List.mem_cons_self
  · exact List.nodup_cons.mpr ⟨fun hm ↦ ho ((h.onPath dep).mpr hm), h.path⟩
  · intro i
    simp only [Walk.enter, List.mem_cons, h.onPath]

theorem step {next : Walk} (h : Orderly stats target ids w)
    (hs : Walk.step stats target w = .next next) :
    Orderly stats target (ids ++ entered w next) next := by
  have hcases := step_cases stats target w
  rw [hs] at hcases
  cases hcases with
  | leave hp => exact h.leave hp
  | skip hp ht hs => exact h.skip hp
  | enter hp ht hf hc ho hd => exact h.enter hp ht hf hc ho

/-- A step fails only at a stat that was not entered before, when its formula is read. -/
theorem exists_of_fail {e : NumeralError} (h : Orderly stats target ids w)
    (hs : Walk.step stats target w = .ended (.error e)) :
    ∃ id f, storedFormula? stats id = some f ∧ dependencies f = .error e ∧
      (target :: (ids ++ [id])).Nodup ∧
      (target :: (ids ++ [id])).length ≤ 1 + (calculatedIds stats).card := by
  have hcases := step_cases stats target w
  rw [hs] at hcases
  cases hcases with
  | @fail dep rest outer f _ hp ht hf hc ho hd =>
    have hn := h.distinct_append ht hc ho
    refine ⟨dep, f, hf, ?_, hn, length_le_of_distinct hn ?_⟩
    · unfold storedDependencies at hd
      split at hd
      · contradiction
      · exact hd
    · exact List.forall_mem_append.mpr
        ⟨h.calculated, List.forall_mem_singleton.mpr (mem_calculatedIds hf)⟩

end Orderly

/-- A walk that sets out in order stays in order. -/
theorem Proceeds.orderly (h : Proceeds stats target w ids last) (hw : Orderly stats target [] w) :
    Orderly stats target ids last := by
  induction h with
  | here => exact hw
  | on _ hs ih => exact ih.step hs

end
end Walk

namespace CycleChecker

/-- The walk that a question sets out on, if the formula can be read. -/
def setOut (c : CycleChecker) (target : Int) (formula : String) : Except NumeralError Walk :=
  (dependencies formula).map fun deps ↦
    .start target deps (if c.isStored target formula then c.cleared else []) c.known

/-- Whatever is in the memory of a checker, a question fails because its formula cannot be read, or
the walk that it sets out on comes to an end after finitely many steps, with the answer. However far
the walk has come, it has entered no stat twice, and no more stats than there are calculated ones
besides the start; its path has no stat twice, the set of the stats on the path is that of the path,
and there is a list of dependencies for each of them. The same holds of the stat that a step fails
to enter because its formula cannot be read. -/
theorem find_visits_once (c : CycleChecker) (target : Int) (formula : String) :
    (∃ e, dependencies formula = .error e ∧ c.find target formula = (.error e, c)) ∨
      ∃ w, c.setOut target formula = .ok w ∧
        (∃ ids last, w.Proceeds c.stats target ids last ∧
          Walk.step c.stats target last = .ended (c.find target formula).1) ∧
        ∀ ids last, w.Proceeds c.stats target ids last →
          (target :: ids).Nodup ∧ (target :: ids).length ≤ 1 + (calculatedIds c.stats).card ∧
          last.path.Nodup ∧ (∀ id, id ∈ last.onPath ↔ id ∈ last.path) ∧
          last.pending.length = last.path.length ∧
          ∀ e, Walk.step c.stats target last = .ended (.error e) →
            ∃ id f, storedFormula? c.stats id = some f ∧ dependencies f = .error e ∧
              (target :: (ids ++ [id])).Nodup ∧
              (target :: (ids ++ [id])).length ≤ 1 + (calculatedIds c.stats).card := by
  unfold find setOut
  cases hd : dependencies formula with
  | error e => exact .inl ⟨e, rfl, rfl⟩
  | ok deps =>
    refine .inr ⟨_, rfl, ?_, fun ids last h ↦ ?_⟩
    · exact Walk.Proceeds.here.exists_end
    · have ho := h.orderly (Walk.orderly_start ..)
      exact ⟨ho.distinct, Walk.length_le_of_distinct ho.distinct ho.calculated, ho.path, ho.onPath,
        ho.pending, fun e he ↦ ho.exists_of_fail he⟩

end CycleChecker
end CharacterSheet
