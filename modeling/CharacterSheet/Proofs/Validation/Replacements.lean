import CharacterSheet.Proofs.Editing.Cleanness
import CharacterSheet.Proofs.Schema.Reading
import CharacterSheet.Proofs.Validation.Strictness

/-!
# Replacements that are offered and replacements that are accepted

An editor offers for a replacement the stats that dice use and that hold a value, and lets any stats
with values stand in for them. Validation looks a key up among the ids that the dice use, whatever
these are, and an option among the stats by its id. Main statement: among stats with distinct ids
validation accepts what is offered, and where strict validation finds nothing, nothing stands in a
schema that would not be offered, as dice ask there for stats with values only.
-/

namespace CharacterSheet
open Validation

open Json.Bounded (exists_of_map_eq_ok)

/-- A replacement names what an editor offers for a stat: a key among the stats that a replacement
of it may name, and options among those that may stand in for others. -/
structure Replacement.IsOffered (stats : List Stat) (s : Stat) (r : Replacement) : Prop where
  key : ∃ keys, s.replacementKeys stats = .ok keys ∧ r.key ∈ keys.map (·.id)
  options : ∀ id ∈ r.options, id ∈ (replacementOptions stats).map (·.id)

/-! ### What dice use -/

/-- The ids that were collected from texts are those that one of the texts asks for. -/
theorem mem_flatten_statValueIds_iff {texts : List String} {found : List (List Nat)}
    (h : List.Forall₂ (fun text ids ↦ statValueIds text = .ok ids) texts found) {id : Int} :
    id ∈ found.flatten.map Int.ofNat ↔ ∃ text ∈ texts, AsksFor text id := by
  induction h with
  | nil => simp
  | cons ht _ ih =>
    rw [List.flatten_cons, List.map_append, List.mem_append, ih, List.exists_mem_cons_iff]
    refine or_congr_left ⟨fun hm ↦ ?_, fun ha ↦ ?_⟩
    · obtain ⟨n, hn, rfl⟩ := List.mem_map.mp hm
      exact (mem_statValueIds_iff ht n).mp hn
    · obtain ⟨n, rfl⟩ := ha.exists_nat
      exact List.mem_map.mpr ⟨n, (mem_statValueIds_iff ht n).mpr ha, rfl⟩

/-- An id is used by dice exactly when one of their texts asks for its value. -/
theorem mem_idsUsedBy_iff {dice : List Dice} {used : List Int} (h : idsUsedBy dice = .ok used)
    {id : Int} : id ∈ used ↔ ∃ d ∈ dice, ∃ text ∈ d.texts, AsksFor text id := by
  obtain ⟨found, hf, rfl⟩ := exists_of_map_eq_ok h
  rw [List.mem_eraseDups, mem_flatten_statValueIds_iff (forall₂_of_mapM hf)]
  constructor
  · rintro ⟨text, ht, ha⟩
    obtain ⟨d, hd, ht⟩ := List.mem_flatMap.mp ht
    exact ⟨d, hd, text, ht, ha⟩
  · rintro ⟨d, hd, text, ht, ha⟩
    exact ⟨text, List.mem_flatMap.mpr ⟨d, hd, ht⟩, ha⟩

/-! ### Offers and links -/

section
variable {stats : List Stat} {s : Stat} {id : Int}

/-- The stats that hold a value are those that are no text. -/
theorem Stat.holdsValue_kind_iff : s.kind.holdsValue = true ↔ s.isText = false := by
  unfold Stat.isText
  cases s.kind <;> decide

/-- The ids of the stats that may stand in for others are those that hold a value. -/
theorem mem_map_replacementOptions_iff (hd : (stats.map (·.id)).Nodup) :
    id ∈ (replacementOptions stats).map (·.id) ↔ HoldsValue stats id := by
  simp only [holdsValue_iff hd, replacementOptions, List.mem_map, List.mem_filter,
    Stat.holdsValue_kind_iff]
  exact exists_congr fun t ↦ by rw [and_assoc, and_comm (b := t.id = id)]

/-- The ids of the stats that a replacement may name are those that dice use and that hold a
value. -/
theorem exists_mem_replacementKeys_iff (hd : (stats.map (·.id)).Nodup) :
    (∃ keys, s.replacementKeys stats = .ok keys ∧ id ∈ keys.map (·.id)) ↔
      (∃ used, idsUsedBy s.dice = .ok used ∧ id ∈ used) ∧ HoldsValue stats id := by
  rw [← mem_map_replacementOptions_iff hd]
  constructor
  · rintro ⟨keys, hk, hid⟩
    obtain ⟨used, hu, rfl⟩ := exists_of_map_eq_ok hk
    obtain ⟨t, ht, rfl⟩ := List.mem_map.mp hid
    obtain ⟨ho, hused⟩ := List.mem_filter.mp ht
    exact ⟨⟨used, hu, by simpa using hused⟩, List.mem_map_of_mem ho⟩
  · rintro ⟨⟨used, hu, hused⟩, ho⟩
    obtain ⟨t, ht, rfl⟩ := List.mem_map.mp ho
    have hkey : t ∈ (replacementOptions stats).filter fun t ↦ used.contains t.id :=
      List.mem_filter.mpr ⟨ht, by simpa using hused⟩
    exact ⟨_, by rw [Stat.replacementKeys, hu]; rfl, List.mem_map_of_mem hkey⟩

/-- A replacement is offered exactly when it is linked and its key holds a value. -/
theorem Replacement.isOffered_iff (hd : (stats.map (·.id)).Nodup) {r : Replacement} :
    r.IsOffered stats s ↔ r.IsLinked stats s.dice ∧ HoldsValue stats r.key := by
  constructor
  · intro h
    obtain ⟨hused, hkey⟩ := (exists_mem_replacementKeys_iff hd).mp h.key
    exact ⟨⟨hused, fun id hid ↦ (mem_map_replacementOptions_iff hd).mp (h.options id hid)⟩, hkey⟩
  · rintro ⟨hl, hkey⟩
    exact ⟨(exists_mem_replacementKeys_iff hd).mpr ⟨hl.key, hkey⟩,
      fun id hid ↦ (mem_map_replacementOptions_iff hd).mpr (hl.options id hid)⟩

/-- What dice use holds a value where they ask for values only. -/
theorem holdsValue_of_used {dice : List Dice} {used : List Int} (hu : idsUsedBy dice = .ok used)
    (h : ∀ d ∈ dice, ∀ text ∈ d.texts, AsksForValues stats text) (hid : id ∈ used) :
    HoldsValue stats id := by
  obtain ⟨d, hd, text, ht, ha⟩ := (mem_idsUsedBy_iff hu).mp hid
  exact h d hd text ht id ha

/-- Replacements that are linked are accepted. -/
theorem replacementsIssues_of_isLinked {path : String}
    (h : ∀ r ∈ s.replacements, r.IsLinked stats s.dice) :
    replacementsIssues stats path s = .ok [] := by
  unfold replacementsIssues
  split
  · rfl
  · next he =>
    obtain ⟨r, hr⟩ := List.exists_mem_of_ne_nil _ (mt List.isEmpty_iff.mpr he)
    obtain ⟨used, hu, -⟩ := (h r hr).key
    have hnil : (s.replacements.mapIdx fun i r ↦ replacementIssues stats
        (path ++ ".replacements[" ++ toString i ++ "]") s.id used r).flatten = [] := by
      refine (flatten_mapIdx_eq_nil_iff fun i r ↦ ?_).mpr h
      exact replacementIssues_eq_nil_iff hu
    rw [hu, Except.bind, hnil]
    rfl

end

/-! ### Main statement -/

/-- Among stats with distinct ids validation accepts the replacements of a stat that are offered,
and where strict validation finds nothing, all replacements of stats are offered. -/
theorem replacements_accepted_iff_offered :
    (∀ (stats : List Stat) (s : Stat) (path : String), (stats.map (·.id)).Nodup →
      (∀ r ∈ s.replacements, r.IsOffered stats s) →
        replacementsIssues stats path s = .ok []) ∧
    ∀ s : GameSystem, s.issues true = .ok [] →
      ∀ stat ∈ s.stats, ∀ r ∈ stat.replacements, r.IsOffered s.stats stat := by
  constructor
  · exact fun stats s path hd h ↦ replacementsIssues_of_isLinked fun r hr ↦
      ((Replacement.isOffered_iff hd).mp (h r hr)).1
  · intro s h stat hs r hr
    obtain ⟨plain, hp, hx⟩ := GameSystem.extends_issues h
    obtain ⟨rfl, hl⟩ := hx.eq_nil_iff.mp rfl
    have hd : (s.stats.map (·.id)).Nodup := (GameSystem.issues_eq_nil_iff_isClean.mp hp).statIds
    have huse := hl.uses stat hs
    have hlinked := huse.replacements r hr
    obtain ⟨used, hu, hkey⟩ := hlinked.key
    exact (Replacement.isOffered_iff hd).mpr ⟨hlinked, holdsValue_of_used hu huse.dice hkey⟩

/-- Dice that read one stat for their expression and two for their condition, and what may stand in
for these. -/
def replaceableRolls : Rolls where
  dice := some [
    { expression := "1d20+<stat:2:value>",
      condition := some ⟨"<stat:3:value>", .gt, "<stat:2:value>"⟩ }]
  replacements := some [{ key := 2, options := [3, 5] }, { key := 3, options := [2] }]

/-- A system with those dice, in which numbers, a truth value and an enumeration may stand in for
others, and a text may not. -/
def withReplacements : GameSystem where
  config := { id := some 1, name := { default := "S" } }
  stats := [
    { id := 1, name := { default := "Strength" }, detail := .numeric none none replaceableRolls },
    { id := 2, name := { default := "Dexterity" }, detail := .numeric none none {} },
    { id := 3, name := { default := "Proficient" }, detail := .boolean {} },
    { id := 4, name := { default := "Notes" }, detail := .text none none },
    { id := 5, name := { default := "Rank" },
      detail := .enumeration (.own [{ value := 1, name := { default := "First" } }]) {} }]

/-- The replacements of that system are offered and accepted, and the text is not offered. -/
theorem replacements_accepted_iff_offered_dexterity :
    ∃ stat, withReplacements.stats.head? = some stat ∧ stat.replacements.length = 2 ∧
      (∀ r ∈ stat.replacements, r.IsOffered withReplacements.stats stat) ∧
      replacementsIssues withReplacements.stats "stats[0]" stat = .ok [] ∧
      ¬ ({ key := 2, options := [4] } : Replacement).IsOffered withReplacements.stats stat := by
  have hids : (withReplacements.stats.map (·.id)).Nodup := by decide +kernel
  have hnone : withReplacements.issues true = .ok [] := eq_nil_of_map_length (by decide +kernel)
  obtain ⟨haccepted, hoffered⟩ := replacements_accepted_iff_offered
  have hoffer := hoffered withReplacements hnone withReplacements.stats[0] List.mem_cons_self
  refine ⟨_, rfl, rfl, hoffer, haccepted _ _ _ hids hoffer, fun h ↦ ?_⟩
  exact absurd (h.options 4 List.mem_cons_self) (by decide)

end CharacterSheet
