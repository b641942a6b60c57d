import CharacterSheet.Proofs.Validation.Previews
import CharacterSheet.Proofs.Validation.Unseen

/-!
# The links of options

An option names sections on which it can be edited and stats that may stand in for others, just as
its stat does. Strict validation looks at what the stat names, and at nothing that its options name.
Main statement: in a schema without issues the stats are linked, whatever their options name.
-/

namespace CharacterSheet
open Validation

/-- The sections on which an option can be edited are there, and so are the stats that its
replacements name, the keys among those that the dice of its stat read. -/
structure EnumOption.IsLinked (stats : List Stat) (sections : List Int) (dice : List Dice)
    (o : EnumOption) : Prop where
  pages : ∀ page ∈ o.editPages.getD [], page ∈ sections
  replacements : ∀ r ∈ o.replacements.getD [], r.IsLinked stats dice

/-- An option that names no sections and no stats. -/
def EnumOption.withoutLinks (o : EnumOption) : EnumOption :=
  { o with editPages := none, replacements := none }

/-- A stat whose options name no sections and no stats. -/
def Stat.withoutOptionLinks (s : Stat) : Stat :=
  { s with detail := s.detail.mapOptions EnumOption.withoutLinks }

/-- A schema in which no option names sections or stats. -/
def GameSystem.withoutOptionLinks (s : GameSystem) : GameSystem :=
  { s with stats := s.stats.map Stat.withoutOptionLinks }

/-- Validation does not see what options name. -/
theorem Stat.unseen_withoutOptionLinks :
    Stat.Unseen Stat.withoutOptionLinks EnumOption.withoutLinks where
  id _ := rfl
  name _ := rfl
  editPages _ := rfl
  detail _ := rfl
  value _ := rfl
  optionName _ := rfl

namespace GameSystem
variable {s t : GameSystem}

/-- Schemas that differ in nothing but what their options name have the same issues. -/
theorem issues_eq_of_withoutOptionLinks (h : t.withoutOptionLinks = s.withoutOptionLinks)
    (strict : Bool) : t.issues strict = s.issues strict :=
  calc t.issues strict
    _ = t.withoutOptionLinks.issues strict :=
      (issues_map Stat.unseen_withoutOptionLinks t strict).symm
    _ = s.withoutOptionLinks.issues strict := by rw [h]
    _ = s.issues strict := issues_map Stat.unseen_withoutOptionLinks s strict

/-- Where strict validation finds nothing, what the stats name is there and of the right kind, and
nothing is found either when their options name anything else. -/
theorem links_of_options_unchecked (h : s.issues true = .ok []) :
    (∀ stat ∈ s.stats, stat.UseIsLinked s.stats (s.sections.map (·.id))) ∧
      ∀ t : GameSystem, t.withoutOptionLinks = s.withoutOptionLinks → t.issues true = .ok [] := by
  refine ⟨(isLinked_of_issues h).uses, fun t ht ↦ ?_⟩
  rw [issues_eq_of_withoutOptionLinks ht, h]

/-- A schema whose one stat has an option that can be edited on some sections, with some
replacements. -/
def withOption (pages : List Int) (replacements : List Replacement) : GameSystem where
  config := { id := some 1, name := { default := "S" } }
  stats := [
    { id := 3, name := { default := "A" }, editPages := some [1],
      detail := .enumeration
        (.own [
          { value := 1, name := { default := "x" }, editPages := some pages,
            replacements := some replacements }])
        { dice := some [{ expression := "1d<stat:3:value>" }],
          replacements := some [{ key := 3, options := [3] }] } }]
  sections := [
    { id := 1, name := { default := "P" }, preview := { kind := some .text } }]

theorem issues_withOption (pages : List Int) (replacements : List Replacement) :
    (withOption pages replacements).issues true = .ok [] := by
  have h : (withOption [] []).issues true = .ok [] := eq_nil_of_map_length (by decide +kernel)
  have hw : (withOption pages replacements).withoutOptionLinks =
      (withOption [] []).withoutOptionLinks := rfl
  rw [issues_eq_of_withoutOptionLinks hw, h]

/-- A stat is linked, and its option names a section that is not there. -/
theorem links_of_options_unchecked_page :
    let s := withOption [1] [{ key := 3, options := [3] }]
    (∀ stat ∈ s.stats, stat.UseIsLinked s.stats [1]) ∧
      (withOption [7] []).issues true = .ok [] := by
  have h := issues_withOption [1] [{ key := 3, options := [3] }]
  obtain ⟨hl, hu⟩ := links_of_options_unchecked h
  exact ⟨hl, hu _ rfl⟩

/-- Strict validation finds nothing where an option names a section that is not there, nor where
the key of its replacement is no stat that the dice read and the stat to stand in for it is not
there. -/
theorem option_not_linked :
    let missing := withOption [7] []
    let unused := withOption [] [{ key := 5, options := [9] }]
    (missing.issues true = .ok [] ∧ ∃ stat ∈ missing.stats, ∃ options ∈ stat.ownOptions?,
      ∃ o ∈ options, ¬ o.IsLinked missing.stats (missing.sections.map (·.id)) stat.dice) ∧
    unused.issues true = .ok [] ∧ ∃ stat ∈ unused.stats, ∃ options ∈ stat.ownOptions?,
      ∃ o ∈ options, ∃ r ∈ o.replacements.getD [], (∀ used, idsUsedBy stat.dice = .ok used →
        r.key ∉ used) ∧ ∃ id ∈ r.options, ¬ HoldsValue unused.stats id := by
  intro missing unused
  refine ⟨⟨issues_withOption .., _, List.mem_singleton_self _, _, rfl, _,
    List.mem_singleton_self _, fun hl ↦ ?_⟩, issues_withOption .., _, List.mem_singleton_self _, _,
    rfl, _, List.mem_singleton_self _, { key := 5, options := [9] }, List.mem_singleton_self _,
    fun used hu ↦ ?_, 9, List.mem_singleton_self _, ?_⟩
  · have h : (7 : Int) ∈ [(1 : Int)] := hl.pages 7 (List.mem_singleton_self _)
    exact absurd h (by decide)
  · have h : idsUsedBy [{ expression := "1d<stat:3:value>" }] = .ok [3] := by decide +kernel
    cases h.symm.trans hu
    decide
  · rintro ⟨s, hs, -⟩
    cases hs

end GameSystem
end CharacterSheet
