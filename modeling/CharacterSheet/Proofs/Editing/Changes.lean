import CharacterSheet.Editing
import Mathlib.Data.List.Nodup
import Mathlib.Data.List.Perm.Basic

/-!
# Runs of edits

Edits of stats come one after the other, and one that is refused leaves the schema as it is.
Up to the order of the list an edit adds, takes away or changes one stat. Main statement: ids
that are distinct stay so along a run.
-/

namespace CharacterSheet

/-- An edit of the stats of a schema. -/
inductive StatEdit where
  | add (word : String)
  | duplicate (index : Int)
  | remove (index : Int)
  | move (index steps : Int)
  | setFormula (id : Int) (formula : String)

namespace GameSystem

/-- The schema that an edit gives, unless it is refused. -/
def edit (s : GameSystem) : StatEdit → Except EditError GameSystem
  | .add word => s.addStatOf word
  | .duplicate index => s.duplicateStat index
  | .remove index => s.removeStat index
  | .move index steps => .ok (s.moveStat index steps)
  | .setFormula id formula => s.setFormula id formula

/-- The schema behind an edit, which is the same when the edit is refused. -/
def afterEdit (s : GameSystem) (e : StatEdit) : GameSystem :=
  match s.edit e with
  | .ok next => next
  | .error _ => s

/-- The schema behind a run of edits. -/
def afterEdits (s : GameSystem) (edits : List StatEdit) : GameSystem := edits.foldl afterEdit s

/-- The ids of stats. -/
def statIds (s : GameSystem) : List Int := s.stats.map (·.id)

/-- No two stats have the same id. -/
def HasDistinctIds (s : GameSystem) : Prop := s.statIds.Nodup

instance (s : GameSystem) : Decidable s.HasDistinctIds :=
  inferInstanceAs (Decidable s.statIds.Nodup)

end GameSystem

/-! ### Places and new ids -/

/-- Items that change places stay the same items. -/
theorem swapItems_perm {α : Type} (i j : Nat) (xs : List α) : (swapItems i j xs).Perm xs := by
  unfold swapItems
  split
  · next a b ha hb =>
    obtain ⟨hi, rfl⟩ := List.getElem?_eq_some_iff.mp ha
    obtain ⟨hj, rfl⟩ := List.getElem?_eq_some_iff.mp hb
    exact List.set_set_perm hi hj
  · exact .refl _

/-- Items that are moved stay the same items. -/
theorem moveItem_perm {α : Type} (index steps : Int) (xs : List α) :
    (moveItem index steps xs).Perm xs := by
  unfold moveItem
  split
  · exact swapItems_perm ..
  · exact .refl _

/-- The place behind an item lies in the list or at its end. -/
theorem placeBehind_le {length place : Nat} {index : Int} (h : placeOf? length index = some place) :
    placeBehind length index ≤ length := by
  unfold placeOf? at h
  unfold placeBehind
  split at h <;> split at h <;> simp_all <;> split <;> omega

/-- The id for a new item is not taken. -/
theorem nextId_notMem (ids : List Int) : nextId ids ∉ ids := by
  intro h
  cases hm : ids.max? with
  | none => simp [List.max?_eq_none_iff.mp hm] at h
  | some m =>
    have := (List.max?_eq_some_iff.mp hm).2 _ h
    simp only [nextId, hm, Option.getD_some] at this
    omega

/-! ### What an edit changes -/

section
variable {s next : GameSystem}

/-- An added stat comes behind the others. -/
theorem stats_of_addStatOf {word : String} (h : s.addStatOf word = .ok next) :
    ∃ kind, next.stats = s.stats ++ [.new kind (nextId s.statIds)] := by
  unfold GameSystem.addStatOf at h
  split at h
  · next kind _ =>
    cases h
    exact ⟨kind, rfl⟩
  · cases h

/-- The stat at an index, which may count from the end. -/
def GameSystem.statAt? (s : GameSystem) (index : Int) : Option Stat :=
  (placeOf? s.stats.length index).bind (s.stats[·]?)

/-- A copy is put next to its original, under a new id. -/
theorem stats_of_duplicateStat {index : Int} (h : s.duplicateStat index = .ok next) :
    ∃ stat, s.statAt? index = some stat ∧
      next.stats.Perm (stat.copyAs (nextId s.statIds) :: s.stats) := by
  unfold GameSystem.duplicateStat at h
  split at h
  · next stat hs =>
    cases h
    obtain ⟨place, hp, -⟩ := Option.bind_eq_some_iff.mp hs
    exact ⟨stat, hs, List.perm_insertIdx _ _ (placeBehind_le hp)⟩
  · cases h

/-- One stat is taken out of the list. -/
theorem stats_of_removeStat {index : Int} (h : s.removeStat index = .ok next) :
    ∃ stat, s.stats.Perm (stat :: next.stats) := by
  unfold GameSystem.removeStat at h
  split at h
  · next i hi =>
    cases h
    exact ⟨_, (List.getElem_cons_eraseIdx_perm (placeOf?_lt hi)).symm⟩
  · cases h

/-- A formula is set where a stat is calculated and no cycle is found. -/
theorem stats_of_setFormula {id : Int} {formula : String}
    (h : s.setFormula id formula = .ok next) :
    ∃ stat kept, stat.id = id ∧ stat.isCalculated = true ∧
      findCycle s.stats id formula = .ok none ∧ s.stats.Perm (stat :: kept) ∧
      next.stats.Perm (stat.withFormula formula :: kept) := by
  unfold GameSystem.setFormula at h
  split at h
  · cases h
  · next i hi =>
    split at h
    · cases h
    · next stat hs =>
      obtain ⟨hlt, rfl⟩ := List.getElem?_eq_some_iff.mp hs
      split at h
      · next hc =>
        have hid := (List.findIdx?_eq_some_iff_getElem.mp hi).2.1
        cases hf : findCycle s.stats id formula with
        | error e => simp [GameSystem.checkFormula, hf, Except.map] at h
        | ok answer =>
          cases answer with
          | some path => simp [GameSystem.checkFormula, hf, Except.map] at h
          | none =>
            obtain rfl :
                { s with stats := s.stats.set i (s.stats[i].withFormula formula) } = next := by
              simpa [GameSystem.checkFormula, hf, Except.map] using h
            exact ⟨s.stats[i], s.stats.eraseIdx i, by simpa using hid, hc, rfl,
              (List.getElem_cons_eraseIdx_perm hlt).symm, List.set_perm_cons_eraseIdx hlt _⟩
      · cases h

/-! ### Copies and new formulas -/

@[simp]
theorem Stat.id_copyAs (stat : Stat) (id : Int) : (stat.copyAs id).id = id := rfl

@[simp]
theorem Stat.id_new (kind : StatKind) (id : Int) : (Stat.new kind id).id = id := rfl

@[simp]
theorem Stat.id_withFormula (stat : Stat) (formula : String) :
    (stat.withFormula formula).id = stat.id := by
  unfold Stat.withFormula
  split <;> rfl

/-- A copy has the formula of its original. -/
@[simp]
theorem Stat.formula?_copyAs (stat : Stat) (id : Int) :
    (stat.copyAs id).formula? = stat.formula? := by
  obtain ⟨_, _, _, _, detail⟩ := stat
  rcases detail with _ | ⟨_ | _, _⟩ | _ | _ | _ <;> rfl

/-- A calculated stat gets the formula that is set. -/
theorem Stat.formula?_withFormula {stat : Stat} (h : stat.isCalculated = true) (formula : String) :
    (stat.withFormula formula).formula? = some formula := by
  obtain ⟨_, _, _, _, detail⟩ := stat
  cases detail with
  | calculated => rfl
  | _ => cases h

/-- A new stat has no formula, or an empty one. -/
theorem Stat.formula?_new {kind : StatKind} {id : Int} {f : String}
    (h : (Stat.new kind id).formula? = some f) : f = "" := by
  cases kind <;> simp_all [Stat.new, StatKind.newDetail, Stat.formula?]

end

/-- Everything that an edit can do to the stats, up to their order. -/
inductive Edited (s next : GameSystem) : StatEdit → Prop where
  | added {word : String} (kind : StatKind)
    (h : next.stats.Perm (.new kind (nextId s.statIds) :: s.stats)) : Edited s next (.add word)
  | copied {index : Int} {stat : Stat} (hs : s.statAt? index = some stat)
    (h : next.stats.Perm (stat.copyAs (nextId s.statIds) :: s.stats)) :
    Edited s next (.duplicate index)
  | removed {index : Int} {stat : Stat} (h : s.stats.Perm (stat :: next.stats)) :
    Edited s next (.remove index)
  | moved {index steps : Int} (h : next.stats.Perm s.stats) : Edited s next (.move index steps)
  | set {formula : String} {stat : Stat} {kept : List Stat} (hc : stat.isCalculated = true)
    (hf : findCycle s.stats stat.id formula = .ok none) (hs : s.stats.Perm (stat :: kept))
    (h : next.stats.Perm (stat.withFormula formula :: kept)) :
    Edited s next (.setFormula stat.id formula)

/-- An edit that is not refused does one of the things that edits can do. -/
theorem edited_of_edit {s next : GameSystem} {e : StatEdit} (h : s.edit e = .ok next) :
    Edited s next e := by
  cases e with
  | add word =>
    obtain ⟨kind, hn⟩ := stats_of_addStatOf h
    exact .added kind (hn ▸ List.perm_append_singleton _ _)
  | duplicate index =>
    obtain ⟨stat, hs, hn⟩ := stats_of_duplicateStat h
    exact .copied hs hn
  | remove index =>
    obtain ⟨stat, hn⟩ := stats_of_removeStat h
    exact .removed hn
  | move index steps =>
    cases h
    exact .moved (moveItem_perm ..)
  | setFormula id formula =>
    obtain ⟨stat, kept, rfl, hc, hf, hs, hn⟩ := stats_of_setFormula h
    exact .set hc hf hs hn

/-! ### Distinct ids -/

theorem nodup_cons_new {s : GameSystem} (h : s.HasDistinctIds) {stat : Stat}
    (hs : stat.id = nextId s.statIds) : ((stat :: s.stats).map (·.id)).Nodup := by
  rw [List.map_cons, List.nodup_cons, hs]
  exact ⟨nextId_notMem _, h⟩

/-- An edit keeps ids distinct. -/
theorem Edited.hasDistinctIds {s next : GameSystem} {e : StatEdit} (h : Edited s next e)
    (hd : s.HasDistinctIds) : next.HasDistinctIds := by
  cases h with
  | added kind h => exact (h.map _).nodup_iff.mpr (nodup_cons_new hd rfl)
  | copied hs h => exact (h.map _).nodup_iff.mpr (nodup_cons_new hd rfl)
  | @removed index stat h =>
    have : ((stat :: next.stats).map (·.id)).Nodup := (h.map _).nodup_iff.mp hd
    exact (List.nodup_cons.mp this).2
  | moved h => exact (h.map _).nodup_iff.mpr hd
  | @set formula stat kept hc hf hs h =>
    refine (h.map _).nodup_iff.mpr ?_
    have : ((stat :: kept).map (·.id)).Nodup := (hs.map _).nodup_iff.mp hd
    rwa [List.map_cons, Stat.id_withFormula]

namespace GameSystem

/-- What every edit that is not refused keeps is kept by an edit. -/
theorem afterEdit_cases {s : GameSystem} {e : StatEdit} :
    s.afterEdit e = s ∨ Edited s (s.afterEdit e) e := by
  unfold afterEdit
  split
  · next h => exact .inr (edited_of_edit h)
  · exact .inl rfl

/-- Ids stay distinct along a run of edits. -/
theorem HasDistinctIds.afterEdits {s : GameSystem} (h : s.HasDistinctIds)
    (edits : List StatEdit) : (s.afterEdits edits).HasDistinctIds := by
  induction edits generalizing s with
  | nil => exact h
  | cons e edits ih =>
    apply ih
    rcases s.afterEdit_cases (e := e) with he | he
    · rwa [he]
    · exact he.hasDistinctIds h

end GameSystem
end CharacterSheet
