import CharacterSheet.Proofs.Editing.Cleanness
import CharacterSheet.Proofs.Editing.FormulaEdits

/-!
# Edits of whole items

An edit of the stats or the sections of a schema puts in one item, takes one out, changes the places
of two neighbours or sets one formula, and everything else stays as and where it is. New ids are one
more than the greatest at the moment, so they may have been in use before. Main statement: along a
run of edits from a schema with distinct ids these stay distinct, and each edit is either refused,
for one of a few reasons, or does just that; a move is undone by the opposite move from the place
that it led to.
-/

namespace CharacterSheet

open Json.Bounded (exists_of_map_eq_ok)

/-! ### Lists with one item more, and lists with neighbours swapped -/

section
variable {α : Type} {xs ys : List α} {a : α} {index steps : Int}

/-- A list is another with one item put in. -/
def Inserts (xs ys : List α) (a : α) : Prop :=
  ∃ front back, xs = front ++ back ∧ ys = front ++ a :: back

/-- An index counts from the front of a list and lies inside. -/
def InRange (xs : List α) (index : Int) : Prop := 0 ≤ index ∧ index < xs.length

/-- A list is another in which the item at an index, when that and the place some steps further lie
inside, has changed places with its neighbour there; else it is the same. -/
def Moves (index steps : Int) (xs ys : List α) : Prop :=
  (ys = xs ∧ ¬ (InRange xs index ∧ InRange xs (index + steps))) ∨
    ∃ front a b back, xs = front ++ a :: b :: back ∧ ys = front ++ b :: a :: back ∧
      (front.length : Int) = min index (index + steps)

theorem inserts_append_singleton (xs : List α) (a : α) : Inserts xs (xs ++ [a]) a :=
  ⟨xs, [], (List.append_nil xs).symm, rfl⟩

theorem insertIdx_length_append (front back : List α) (a : α) :
    (front ++ back).insertIdx front.length a = front ++ a :: back := by
  induction front with
  | nil => rfl
  | cons b front ih => rw [List.cons_append, List.length_cons, List.insertIdx_succ_cons, ih]; rfl

theorem inserts_insertIdx {i : Nat} (h : i ≤ xs.length) (a : α) :
    Inserts xs (xs.insertIdx i a) a := by
  refine ⟨xs.take i, xs.drop i, (List.take_append_drop i xs).symm, ?_⟩
  have hi := insertIdx_length_append (xs.take i) (xs.drop i) a
  rwa [List.take_append_drop, List.length_take_of_le h] at hi

theorem inserts_eraseIdx {i : Nat} (h : xs[i]? = some a) : Inserts (xs.eraseIdx i) xs a := by
  obtain ⟨hi, rfl⟩ := List.getElem?_eq_some_iff.mp h
  refine ⟨xs.take i, xs.drop (i + 1), List.eraseIdx_eq_take_drop_succ .., ?_⟩
  rw [← List.drop_eq_getElem_cons hi, List.take_append_drop]

theorem Inserts.perm (h : Inserts xs ys a) : ys.Perm (a :: xs) := by
  obtain ⟨front, back, rfl, rfl⟩ := h
  exact List.perm_middle

theorem Moves.perm (h : Moves index steps xs ys) : ys.Perm xs := by
  rcases h with ⟨rfl, -⟩ | ⟨front, a, b, back, rfl, rfl, -⟩
  · exact .refl _
  · exact (List.Perm.swap a b back).append_left front

/-- Neighbours change places from either side. -/
theorem swapItems_neighbours (front back : List α) (a b : α) :
    swapItems front.length (front.length + 1) (front ++ a :: b :: back) = front ++ b :: a :: back ∧
      swapItems (front.length + 1) front.length (front ++ a :: b :: back) =
        front ++ b :: a :: back := by
  simp [swapItems]

theorem swapItems_of_getElem? {i j : Nat} {a b : α} (ha : xs[i]? = some a)
    (hb : xs[j]? = some b) : swapItems i j xs = (xs.set i b).set j a := by
  rw [swapItems, ha, hb]

theorem swapItems_of_none {i j : Nat} (h : xs[i]? = none ∨ xs[j]? = none) :
    swapItems i j xs = xs := by
  unfold swapItems
  rcases h with h | h <;> rw [h]
  cases xs[i]? <;> rfl

/-- Items that have changed places change back. -/
theorem swapItems_swapItems (i j : Nat) (xs : List α) : swapItems j i (swapItems i j xs) = xs := by
  cases ha : xs[i]? with
  | none => rw [swapItems_of_none (.inl ha), swapItems_of_none (.inr ha)]
  | some a =>
    cases hb : xs[j]? with
    | none => rw [swapItems_of_none (.inr hb), swapItems_of_none (.inl hb)]
    | some b =>
      obtain ⟨hi, rfl⟩ := List.getElem?_eq_some_iff.mp ha
      obtain ⟨hj, rfl⟩ := List.getElem?_eq_some_iff.mp hb
      have hj' : ((xs.set i xs[j]).set j xs[i])[j]? = some xs[i] := by simp [hj]
      have hi' : ((xs.set i xs[j]).set j xs[i])[i]? = some xs[j] := by
        by_cases he : j = i
        · subst he
          simp [hi]
        · simp [he, hi]
      rw [swapItems_of_getElem? ha hb, swapItems_of_getElem? hj' hi']
      exact List.ext_getElem? fun k ↦ by grind

theorem moveItem_of_nonneg (hi : 0 ≤ index) (hj : 0 ≤ index + steps) (xs : List α) :
    moveItem index steps xs = swapItems index.toNat (index + steps).toNat xs := by
  simp [moveItem, hi, hj]

theorem moveItem_of_neg (h : index < 0 ∨ index + steps < 0) (xs : List α) :
    moveItem index steps xs = xs := by
  unfold moveItem
  rw [if_neg]
  simp only [Bool.and_eq_true, decide_eq_true_eq]
  omega

/-- A move is undone by the opposite move from the place that it led to. -/
theorem moveItem_moveItem (index steps : Int) (xs : List α) :
    moveItem (index + steps) (-steps) (moveItem index steps xs) = xs := by
  have hback : index + steps + -steps = index := by omega
  by_cases h : index < 0 ∨ index + steps < 0
  · rw [moveItem_of_neg h, moveItem_of_neg (by rw [hback]; exact h.symm)]
  · obtain ⟨hi, hj⟩ := not_or.mp h
    rw [moveItem_of_nonneg (by omega) (by omega), moveItem_of_nonneg (by omega) (by omega), hback,
      swapItems_swapItems]

/-- A list has an item at a place, one behind it, and those before and behind the two. -/
theorem exists_neighbours {i : Nat} (h : i + 1 < xs.length) :
    ∃ front a b back, xs = front ++ a :: b :: back ∧ front.length = i := by
  refine ⟨xs.take i, xs[i], xs[i + 1], xs.drop (i + 2), ?_, List.length_take_of_le (by omega)⟩
  rw [← List.drop_eq_getElem_cons h, ← List.drop_eq_getElem_cons (by omega),
    List.take_append_drop]

/-- A move by one place leaves a list as it is or swaps two neighbours. -/
theorem moves_moveItem (h : steps = 1 ∨ steps = -1) (xs : List α) :
    Moves index steps xs (moveItem index steps xs) := by
  by_cases hin : InRange xs index ∧ InRange xs (index + steps)
  · right
    obtain ⟨⟨hi, hlt⟩, hj, hlt'⟩ := hin
    obtain ⟨i, hmin⟩ : ∃ i : Nat, min index (index + steps) = i :=
      Int.eq_ofNat_of_zero_le (by omega)
    obtain ⟨front, a, b, back, rfl, rfl⟩ : ∃ front a b back,
        xs = front ++ a :: b :: back ∧ front.length = i := exists_neighbours (by omega)
    refine ⟨front, a, b, back, rfl, ?_, hmin.symm⟩
    obtain ⟨hright, hleft⟩ := swapItems_neighbours front back a b
    rw [moveItem_of_nonneg hi hj]
    -- the item is the first of the two when it moves on, and the second when it moves back
    rcases h with rfl | rfl
    · have hplaces : index.toNat = front.length ∧ (index + 1).toNat = front.length + 1 := by omega
      rw [hplaces.1, hplaces.2, hright]
    · have hplaces : index.toNat = front.length + 1 ∧ (index + -1).toNat = front.length := by omega
      rw [hplaces.1, hplaces.2, hleft]
  · refine .inl ⟨?_, hin⟩
    by_cases hneg : index < 0 ∨ index + steps < 0
    · exact moveItem_of_neg hneg xs
    · obtain ⟨hi, hj⟩ := not_or.mp hneg
      rw [moveItem_of_nonneg (by omega) (by omega)]
      unfold InRange at hin
      refine swapItems_of_none ?_
      rw [List.getElem?_eq_none_iff, List.getElem?_eq_none_iff]
      omega

end

/-! ### What an edit does -/

/-- The section at an index, which may count from the end. -/
def GameSystem.sectionAt? (s : GameSystem) (index : Int) : Option SheetSection :=
  (placeOf? s.sections.length index).bind (s.sections[·]?)

/-- The ids of sections. -/
def GameSystem.sectionIds (s : GameSystem) : List Int := s.sections.map (·.id)

/-- An edit moves an item by one place, if it moves one at all. -/
def SchemaEdit.MovesByOne : SchemaEdit → Prop
  | .stats (.move _ steps) | .moveSection _ steps => steps = 1 ∨ steps = -1
  | _ => True

/-- Everything that an edit can do: to one item of one list, with all the rest as it was. -/
inductive Performed (s : GameSystem) : SchemaEdit → GameSystem → Prop where
  | added {word : String} {kind : StatKind} {stats : List Stat} (hk : kind.word = word)
    (h : Inserts s.stats stats (.new kind (nextId s.statIds))) :
    Performed s (.stats (.add word)) { s with stats }
  | copied {index : Int} {stat : Stat} {stats : List Stat} (hs : s.statAt? index = some stat)
    (h : Inserts s.stats stats (stat.copyAs (nextId s.statIds))) :
    Performed s (.stats (.duplicate index)) { s with stats }
  | removed {index : Int} {stat : Stat} {stats : List Stat} (hs : s.statAt? index = some stat)
    (h : Inserts stats s.stats stat) : Performed s (.stats (.remove index)) { s with stats }
  | moved {index steps : Int} {stats : List Stat} (h : Moves index steps s.stats stats)
    (hu : ({ s with stats } : GameSystem).moveStat (index + steps) (-steps) = s) :
    Performed s (.stats (.move index steps)) { s with stats }
  | set {id : Int} {formula : String} {next : GameSystem} (h : s.ReplacesFormula id formula next) :
    Performed s (.stats (.setFormula id formula)) next
  | addedSection {sections : List SheetSection}
    (h : Inserts s.sections sections (.new (nextId s.sectionIds))) :
    Performed s .addSection { s with sections }
  | removedSection {index : Int} {sec : SheetSection} {sections : List SheetSection}
    (hs : s.sectionAt? index = some sec) (h : Inserts sections s.sections sec) :
    Performed s (.removeSection index) { s with sections }
  | movedSection {index steps : Int} {sections : List SheetSection}
    (h : Moves index steps s.sections sections)
    (hu : ({ s with sections } : GameSystem).moveSection (index + steps) (-steps) = s) :
    Performed s (.moveSection index steps) { s with sections }

/-- Why an edit may be refused: there is no kind with a word, or no item at an index, or a formula
is not set. -/
inductive Refused (s : GameSystem) : SchemaEdit → Prop where
  | unknownKind {word : String} (h : StatKind.ofWord? word = none) :
    Refused s (.stats (.add word))
  | nothingToCopy {index : Int} (h : s.statAt? index = none) :
    Refused s (.stats (.duplicate index))
  | nothingToRemove {index : Int} (h : s.statAt? index = none) :
    Refused s (.stats (.remove index))
  | formula {id : Int} {formula : String} {why : EditError}
    (h : s.setFormula id formula = .error why) : Refused s (.stats (.setFormula id formula))
  | noSection {index : Int} (h : s.sectionAt? index = none) : Refused s (.removeSection index)

section
variable {s next : GameSystem} {index steps : Int}

theorem performed_add {word : String} (h : s.addStatOf word = .ok next) :
    Performed s (.stats (.add word)) next := by
  obtain ⟨kind, hk, rfl⟩ := exists_kind_of_addStatOf h
  exact .added hk (inserts_append_singleton ..)

theorem performed_duplicate (h : s.duplicateStat index = .ok next) :
    Performed s (.stats (.duplicate index)) next := by
  unfold GameSystem.duplicateStat at h
  split at h
  · next stat hs =>
    cases h
    obtain ⟨place, hp, -⟩ := Option.bind_eq_some_iff.mp hs
    exact .copied hs (inserts_insertIdx (placeBehind_le hp) _)
  · cases h

theorem performed_remove (h : s.removeStat index = .ok next) :
    Performed s (.stats (.remove index)) next := by
  unfold GameSystem.removeStat at h
  split at h
  · next i hi =>
    cases h
    have hat : s.stats[i]? = some _ := List.getElem?_eq_getElem (placeOf?_lt hi)
    exact .removed (by rw [GameSystem.statAt?, hi]; exact hat) (inserts_eraseIdx hat)
  · cases h

theorem performed_setFormula {id : Int} {formula : String}
    (h : s.setFormula id formula = .ok next) :
    Performed s (.stats (.setFormula id formula)) next := by
  refine .set ?_
  unfold GameSystem.setFormula at h
  split at h
  · cases h
  · next i hi =>
    obtain ⟨before, stat, after, he, rfl, hb, hid⟩ := exists_of_findIdx? hi
    have hat : s.stats[before.length]? = some stat := by simp [he]
    rw [hat] at h
    dsimp only at h
    split at h
    · next hc =>
      obtain ⟨_, -, rfl⟩ := exists_of_map_eq_ok h
      obtain ⟨old, hold⟩ := Option.isSome_iff_exists.mp hc
      obtain ⟨rolls, hd⟩ := Stat.detail_of_formula? hold
      refine ⟨before, stat, after, old, rolls, he, hb, hid, hd, ?_⟩
      rw [he, List.set_append_right _ _ (Nat.le_refl _), Nat.sub_self, List.set_cons_zero,
        Stat.withFormula, hd]
    · cases h

theorem performed_removeSection (h : s.removeSection index = .ok next) :
    Performed s (.removeSection index) next := by
  unfold GameSystem.removeSection at h
  split at h
  · next i hi =>
    cases h
    have hat : s.sections[i]? = some _ := List.getElem?_eq_getElem (placeOf?_lt hi)
    exact .removedSection (by rw [GameSystem.sectionAt?, hi]; exact hat) (inserts_eraseIdx hat)
  · cases h

/-- An edit that is not refused does one of the things that edits can do. -/
theorem performed_of_editSchema {e : SchemaEdit} (he : e.MovesByOne)
    (h : s.editSchema e = .ok next) : Performed s e next := by
  rcases e with (word | index | index | ⟨index, steps⟩ | ⟨id, formula⟩) | _ | index | ⟨index, steps⟩
  · exact performed_add h
  · exact performed_duplicate h
  · exact performed_remove h
  · cases h
    exact .moved (moves_moveItem he _) (by simp [GameSystem.moveStat, moveItem_moveItem])
  · exact performed_setFormula h
  · cases h
    exact .addedSection (inserts_append_singleton ..)
  · exact performed_removeSection h
  · cases h
    exact .movedSection (moves_moveItem he _) (by simp [GameSystem.moveSection, moveItem_moveItem])

/-- An edit is refused for one of a few reasons. -/
theorem refused_of_editSchema {e : SchemaEdit} {why : EditError}
    (h : s.editSchema e = .error why) : Refused s e := by
  rcases e with (word | index | index | ⟨index, steps⟩ | ⟨id, formula⟩) | _ | index | ⟨index, steps⟩
  · simp only [GameSystem.editSchema, GameSystem.edit, GameSystem.addStatOf] at h
    split at h
    · cases h
    · next hk => exact .unknownKind hk
  · simp only [GameSystem.editSchema, GameSystem.edit, GameSystem.duplicateStat] at h
    split at h
    · cases h
    · next hs => exact .nothingToCopy hs
  · simp only [GameSystem.editSchema, GameSystem.edit, GameSystem.removeStat] at h
    split at h
    · cases h
    · next hs => exact .nothingToRemove (by rw [GameSystem.statAt?, hs]; rfl)
  · cases h
  · exact .formula h
  · cases h
  · simp only [GameSystem.editSchema, GameSystem.removeSection] at h
    split at h
    · cases h
    · next hs => exact .noSection (by rw [GameSystem.sectionAt?, hs]; rfl)
  · cases h

/-! ### Distinct ids -/

/-- No two stats and no two sections have the same id. -/
structure GameSystem.HasOwnIds (s : GameSystem) : Prop where
  stats : s.HasDistinctIds
  sections : s.sectionIds.Nodup

/-- Ids stay distinct when an item with a new id is put in. -/
theorem Inserts.nodup_map {α : Type} {xs ys : List α} {a : α} {id : α → Int} (h : Inserts xs ys a)
    (hd : (xs.map id).Nodup) (ha : id a = nextId (xs.map id)) : (ys.map id).Nodup := by
  rw [(h.perm.map id).nodup_iff, List.map_cons, List.nodup_cons, ha]
  exact ⟨nextId_notMem _, hd⟩

/-- Ids stay distinct when an item is taken out. -/
theorem Inserts.nodup_map_of_nodup {α : Type} {xs ys : List α} {a : α} {id : α → Int}
    (h : Inserts xs ys a) (hd : (ys.map id).Nodup) : (xs.map id).Nodup := by
  rw [(h.perm.map id).nodup_iff, List.map_cons, List.nodup_cons] at hd
  exact hd.2

theorem Performed.hasOwnIds {e : SchemaEdit} (h : Performed s e next) (hs : s.HasOwnIds) :
    next.HasOwnIds := by
  obtain ⟨hstats, hsections⟩ := hs
  cases h with
  | added hk h => exact ⟨h.nodup_map hstats rfl, hsections⟩
  | copied hs h => exact ⟨h.nodup_map hstats rfl, hsections⟩
  | removed hs h => exact ⟨h.nodup_map_of_nodup hstats, hsections⟩
  | moved h hu => exact ⟨(h.perm.map _).nodup_iff.mpr hstats, hsections⟩
  | set h =>
    obtain ⟨before, stat, after, old, rolls, he, -, -, -, rfl⟩ := h
    refine ⟨?_, hsections⟩
    rw [GameSystem.HasDistinctIds, GameSystem.statIds, he] at hstats
    rw [GameSystem.HasDistinctIds, GameSystem.statIds]
    simpa using hstats
  | addedSection h => exact ⟨hstats, h.nodup_map hsections rfl⟩
  | removedSection hs h => exact ⟨hstats, h.nodup_map_of_nodup hsections⟩
  | movedSection h hu => exact ⟨hstats, (h.perm.map _).nodup_iff.mpr hsections⟩

end

/-! ### Main statement -/

namespace GameSystem
variable {s : GameSystem}

/-- An edit does one of the things that edits can do, or it is refused and leaves everything. -/
theorem afterSchemaEdit_cases {e : SchemaEdit} (he : e.MovesByOne) :
    Performed s e (s.afterSchemaEdit e) ∨ (s.afterSchemaEdit e = s ∧ Refused s e) := by
  unfold afterSchemaEdit
  split
  · next h => exact .inl (performed_of_editSchema he h)
  · next h => exact .inr ⟨rfl, refused_of_editSchema h⟩

theorem HasOwnIds.afterSchemaEdit (h : s.HasOwnIds) {e : SchemaEdit} (he : e.MovesByOne) :
    (s.afterSchemaEdit e).HasOwnIds := by
  rcases afterSchemaEdit_cases he with hp | ⟨hs, -⟩
  · exact hp.hasOwnIds h
  · rwa [hs]

theorem HasOwnIds.afterSchemaEdits (h : s.HasOwnIds) {edits : List SchemaEdit}
    (he : ∀ e ∈ edits, e.MovesByOne) : (s.afterSchemaEdits edits).HasOwnIds := by
  induction edits generalizing s with
  | nil => exact h
  | cons e edits ih =>
    obtain ⟨he, hs⟩ := List.forall_mem_cons.mp he
    exact ih (h.afterSchemaEdit he) hs

/-- Along a run of edits from a schema in which no two stats and no two sections have the same id,
this stays so, and each edit either is refused and leaves everything as it is or does one of the
things that edits can do to one item. -/
theorem items_along_edits (h : s.HasOwnIds) {edits : List SchemaEdit}
    (he : ∀ e ∈ edits, e.MovesByOne) :
    (∀ front, front <+: edits → (s.afterSchemaEdits front).HasOwnIds) ∧
    ∀ front e, front ++ [e] <+: edits →
      let before := s.afterSchemaEdits front
      let after := s.afterSchemaEdits (front ++ [e])
      Performed before e after ∨ (after = before ∧ Refused before e) := by
  constructor
  · exact fun front hf ↦ h.afterSchemaEdits fun e hm ↦ he e (hf.subset hm)
  · intro front e hf before after
    have hafter : after = before.afterSchemaEdit e := List.foldl_concat ..
    rw [hafter]
    exact afterSchemaEdit_cases (he e (hf.subset (by simp)))

/-- A system in which an id is below nought. -/
def withNegativeId : GameSystem where
  stats := [
    { id := -2, detail := .boolean {} }, { id := 7, detail := .text none none },
    { id := 3, detail := .calculated "1" {} }]
  sections := [{ id := 1 }]

/-- The copy of the last stat, as its index counts from the end, comes first; the stat with the
greatest id is taken away, so that the next one gets that id; and a section moves and is sought
where none is. -/
def shuffle : List SchemaEdit := [
  .stats (.duplicate (-1)), .stats (.remove 2), .stats (.add "boolean"), .stats (.move 1 (-1)),
  .stats (.remove (-1)), .stats (.add "string"), .addSection, .moveSection 0 1, .removeSection 5]

/-- The ids of that system stay distinct along those edits, and the stat is moved. -/
theorem items_along_edits_shuffle :
    (∀ front, front <+: shuffle → (withNegativeId.afterSchemaEdits front).HasOwnIds) ∧
      Performed (withNegativeId.afterSchemaEdits (shuffle.take 3)) (.stats (.move 1 (-1)))
        (withNegativeId.afterSchemaEdits (shuffle.take 4)) ∧
      (withNegativeId.afterSchemaEdits shuffle).statIds = [-2, 8, 3, 9] ∧
      (withNegativeId.afterSchemaEdits shuffle).sectionIds = [2, 1] := by
  have hids : withNegativeId.HasOwnIds := ⟨by decide, by decide⟩
  have hmoves : ∀ e ∈ shuffle, e.MovesByOne := by
    simp [shuffle, SchemaEdit.MovesByOne]
  obtain ⟨hown, hedits⟩ := items_along_edits hids hmoves
  refine ⟨hown, ?_, by decide +kernel, by decide +kernel⟩
  have hprefix : shuffle.take 3 ++ [.stats (.move 1 (-1))] <+: shuffle := List.take_prefix 4 shuffle
  rcases hedits _ _ hprefix with hp | ⟨-, hr⟩
  · exact hp
  · cases hr

end GameSystem
end CharacterSheet
