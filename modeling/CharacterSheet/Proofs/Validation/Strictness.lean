import CharacterSheet.Proofs.Validation.Links

/-!
# Strict validation adds its own checks

Strict validation runs the checks of plain validation and puts its own between them. Where it
lists issues, plain validation lists those of them that are its own, in the same order. Main
statement: strict validation finds nothing exactly when plain validation finds nothing and all
parts of a schema are linked.
-/

namespace CharacterSheet
open Validation

open Arithmetic.Template (bind_eq_ok)
open Json.Bounded (exists_of_map_eq_ok)

namespace Validation

/-! ### Findings that hold others -/

/-- Some issues hold others in their order, and there are more of them unless a condition holds. -/
structure Extends (strict plain : List Issue) (condition : Prop) : Prop where
  sublist : plain.Sublist strict
  eq_nil_iff : strict = [] ↔ plain = [] ∧ condition

namespace Extends
variable {strict plain strict' plain' : List Issue} {p q : Prop}

/-- Where nothing is looked at in addition, the condition holds anyway. -/
theorem same (h : p) : Extends plain plain p :=
  ⟨.refl plain, (and_iff_left h).symm⟩

/-- What is found in addition depends on the condition. -/
theorem more (h : strict = [] ↔ p) : Extends strict [] p :=
  ⟨List.nil_sublist strict, by simpa using h⟩

theorem congr (h : Extends strict plain p) (hpq : p ↔ q) : Extends strict plain q :=
  ⟨h.sublist, h.eq_nil_iff.trans (and_congr_right fun _ ↦ hpq)⟩

theorem append (h : Extends strict plain p) (h' : Extends strict' plain' q) :
    Extends (strict ++ strict') (plain ++ plain') (p ∧ q) := by
  refine ⟨h.sublist.append h'.sublist, ?_⟩
  rw [List.append_eq_nil_iff, List.append_eq_nil_iff, h.eq_nil_iff, h'.eq_nil_iff,
    and_and_and_comm]

end Extends

/-! ### Stats -/

section
variable {stats : List Stat} {path formula : String} {id : Int} {s : Stat} {strict : List Issue}
  {checker next : CycleChecker}

/-- Issues that are put into words are so without those that only strict validation finds. -/
theorem worded_of_sublist {xs ys : List Issue} (h : worded ys = .ok ys) (hs : xs.Sublist ys) :
    worded xs = .ok xs := by
  unfold worded at h ⊢
  split at h
  · next hw =>
    rw [if_pos (List.all_eq_true.mpr fun x hx ↦ List.all_eq_true.mp hw x (hs.subset hx))]
  · contradiction

/-- Strict validation looks at the form of a formula that is not empty. -/
theorem extends_formulaIssues
    (h : formulaIssues stats true path id formula checker = .ok (strict, next)) :
    ∃ plain, formulaIssues stats false path id formula checker = .ok (plain, next) ∧
      Extends strict plain (HasForm stats formula) := by
  by_cases he : formula.isEmpty
  · simp only [formulaIssues, he, if_true] at h ⊢
    cases h
    exact ⟨_, rfl, .refl _, by simp⟩
  · simp only [formulaIssues, he, if_false, Bool.false_eq_true] at h ⊢
    obtain ⟨answer, ha, h⟩ := bind_eq_ok h
    obtain ⟨cycles, hc, h⟩ := bind_eq_ok h
    obtain ⟨references, hr, h⟩ := bind_eq_ok h
    obtain ⟨form, hf, h⟩ := bind_eq_ok h
    cases h
    refine ⟨cycles ++ references ++ [], ?_, ?_⟩
    · simp only [bind, Except.bind, ha, hc, hr, pure, Except.pure]
    · exact ((Extends.same trivial).append (.more (formIssues_eq_nil_iff hf))).congr (by simp)

/-- Strict validation looks at shared options and at formulas, and remembers as much of the
formulas as plain validation does. -/
theorem extends_detailIssues
    (h : detailIssues stats true path s checker = .ok (strict, next)) :
    ∃ plain, detailIssues stats false path s checker = .ok (plain, next) ∧
      Extends strict plain (s.DetailIsLinked stats) := by
  have of_issues {xs ys : List Issue} (hw : (worded ys).map (·, checker) = .ok (strict, next))
      (hx : Extends ys xs (s.DetailIsLinked stats)) :
      ∃ plain, (worded xs).map (·, checker) = .ok (plain, next) ∧
        Extends strict plain (s.DetailIsLinked stats) := by
    obtain ⟨issues, hi, he⟩ := exists_of_map_eq_ok hw
    cases he
    cases eq_of_worded hi
    exact ⟨xs, by rw [worded_of_sublist hi hx.sublist]; rfl, hx⟩
  unfold detailIssues at h ⊢
  cases hd : s.detail with
  | numeric min max rolls =>
    rw [hd] at h
    exact of_issues h (.same ⟨by simp [Stat.sharesWith?, hd], by simp [Stat.formula?, hd]⟩)
  | enumeration source rolls =>
    rw [hd] at h
    refine of_issues h ?_
    cases source with
    | own options =>
      exact .same ⟨by simp [Stat.sharesWith?, hd], by simp [Stat.formula?, hd]⟩
    | sharedWith id =>
      refine .more (sourceIssues_eq_nil_iff.trans ⟨fun ho ↦ ⟨?_, ?_⟩, fun hl ↦ ?_⟩)
      · simpa [Stat.sharesWith?, hd] using ho
      · simp [Stat.formula?, hd]
      · exact hl.options id (by simp [Stat.sharesWith?, hd])
  | calculated formula rolls =>
    rw [hd] at h
    obtain ⟨plain, hp, hx⟩ := extends_formulaIssues h
    refine ⟨plain, hp, hx.congr ⟨fun hf ↦ ⟨?_, ?_⟩, fun hl ↦ hl.form formula ?_⟩⟩
    · simp [Stat.sharesWith?, hd]
    · simpa [Stat.formula?, hd] using hf
    · simp [Stat.formula?, hd]
  | boolean rolls =>
    rw [hd] at h
    cases h
    exact ⟨[], rfl, .same ⟨by simp [Stat.sharesWith?, hd], by simp [Stat.formula?, hd]⟩⟩
  | text low high =>
    rw [hd] at h
    cases h
    exact ⟨[], rfl, .same ⟨by simp [Stat.sharesWith?, hd], by simp [Stat.formula?, hd]⟩⟩

/-- Strict validation looks at the use of a stat behind its name and its kind. -/
theorem extends_statIssues {d : Draft}
    (h : statIssues d true path s checker = .ok (strict, next)) :
    ∃ plain, statIssues d false path s checker = .ok (plain, next) ∧
      Extends strict plain
        (s.DetailIsLinked d.readStats ∧ s.UseIsLinked d.readStats d.sectionIds) := by
  obtain ⟨⟨detail, checker⟩, hd, h⟩ := bind_eq_ok h
  obtain ⟨more, hm, h⟩ := bind_eq_ok h
  cases h
  obtain ⟨plain, hp, hx⟩ := extends_detailIssues hd
  refine ⟨issueIf s.name.default.isEmpty (path ++ ".name.default") (.required "name.default") ++
    plain ++ [], ?_, ?_⟩
  · rw [statIssues, hp]
    rfl
  · exact (((Extends.same trivial).append hx).append
      (.more (strictStatIssues_eq_nil_iff hm))).congr (by simp)

end

/-! ### Schemas -/

section
variable {d : Draft} {path : String} {strict : List Issue}

/-- Strict validation of stats looks at each of them that could be read. -/
theorem extends_allStatIssues {before : List (Option Int)} {checker : CycleChecker}
    {entries : List (Entry Stat)} (h : allStatIssues d true before checker entries = .ok strict) :
    ∃ plain, allStatIssues d false before checker entries = .ok plain ∧
      Extends strict plain (∀ e ∈ entries, ∀ s ∈ e.item,
        s.DetailIsLinked d.readStats ∧ s.UseIsLinked d.readStats d.sectionIds) := by
  induction entries generalizing before checker strict with
  | nil =>
    cases h
    exact ⟨[], rfl, .same (by simp)⟩
  | cons e rest ih =>
    unfold allStatIssues at h ⊢
    obtain ⟨entry, he, h⟩ := bind_eq_ok h
    rw [he]
    dsimp only at h ⊢
    cases hs : e.item with
    | some s =>
      rw [hs] at h
      obtain ⟨⟨own, next⟩, ho, h⟩ := bind_eq_ok h
      obtain ⟨others, hr, h⟩ := bind_eq_ok h
      cases h
      obtain ⟨ownPlain, hop, hox⟩ := extends_statIssues ho
      obtain ⟨othersPlain, hrp, hrx⟩ := ih hr
      refine ⟨entry ++ ownPlain ++ othersPlain, ?_, ?_⟩
      · simp only [bind, Except.bind, hop, hrp, pure, Except.pure]
      · exact (((Extends.same trivial).append hox).append hrx).congr (by simp [hs])
    | none =>
      rw [hs] at h
      obtain ⟨own, ho, h⟩ := bind_eq_ok h
      cases ho
      obtain ⟨others, hr, h⟩ := bind_eq_ok h
      cases h
      obtain ⟨othersPlain, hrp, hrx⟩ := ih hr
      refine ⟨entry ++ [] ++ othersPlain, ?_, ?_⟩
      · simp only [bind, Except.bind, hrp, pure, Except.pure]
      · exact ((Extends.same trivial).append hrx).congr (by simp [hs])

/-- Strict validation looks at what a section shows behind its name and its kind. -/
theorem extends_sectionIssues {s : SheetSection} (h : sectionIssues d true path s = .ok strict) :
    ∃ plain, sectionIssues d false path s = .ok plain ∧
      Extends strict plain (s.IsLinked d.readStats d.sectionIds) := by
  obtain ⟨more, hm, h⟩ := bind_eq_ok h
  cases h
  refine ⟨_, rfl, ?_⟩
  exact ((Extends.same trivial).append (.more (strictSectionIssues_eq_nil_iff hm))).congr (by simp)

/-- Strict validation of sections looks at each of them that could be read. -/
theorem extends_allSectionIssues {before : List (Option Int)}
    {entries : List (Entry SheetSection)}
    (h : allSectionIssues d true before entries = .ok strict) :
    ∃ plain, allSectionIssues d false before entries = .ok plain ∧
      Extends strict plain (∀ e ∈ entries, ∀ s ∈ e.item, s.IsLinked d.readStats d.sectionIds) := by
  induction entries generalizing before strict with
  | nil =>
    cases h
    exact ⟨[], rfl, .same (by simp)⟩
  | cons e rest ih =>
    unfold allSectionIssues at h ⊢
    obtain ⟨entry, he, h⟩ := bind_eq_ok h
    rw [he]
    dsimp only at h ⊢
    cases hs : e.item with
    | some s =>
      rw [hs] at h
      obtain ⟨own, ho, h⟩ := bind_eq_ok h
      obtain ⟨others, hr, h⟩ := bind_eq_ok h
      cases h
      obtain ⟨ownPlain, hop, hox⟩ := extends_sectionIssues ho
      obtain ⟨othersPlain, hrp, hrx⟩ := ih hr
      refine ⟨entry ++ ownPlain ++ othersPlain, ?_, ?_⟩
      · simp only [bind, Except.bind, hop, hrp, pure, Except.pure]
      · exact (((Extends.same trivial).append hox).append hrx).congr (by simp [hs])
    | none =>
      rw [hs] at h
      obtain ⟨own, ho, h⟩ := bind_eq_ok h
      cases ho
      obtain ⟨others, hr, h⟩ := bind_eq_ok h
      cases h
      obtain ⟨othersPlain, hrp, hrx⟩ := ih hr
      refine ⟨entry ++ [] ++ othersPlain, ?_, ?_⟩
      · simp only [bind, Except.bind, hrp, pure, Except.pure]
      · exact ((Extends.same trivial).append hrx).congr (by simp [hs])

/-- Strict validation looks at the settings for other programs, if they could be read. -/
theorem extends_integrationIssues {stats : List Stat} {read : Checked (Option Integrations)}
    (h : integrationIssues stats true read = .ok strict) :
    ∃ plain, integrationIssues stats false read = .ok plain ∧
      Extends strict plain (∀ i, read = .ok (some i) → i.IsLinked stats) := by
  rcases read with (_ | i) | faults
  · cases h
    exact ⟨[], rfl, .same (by simp)⟩
  · exact ⟨[], rfl, .more (by simp [strictIntegrationIssues_eq_nil_iff h])⟩
  · cases h
    exact ⟨_, rfl, .same (by simp)⟩

/-- Strict validation of a draft looks at all that could be read. -/
theorem extends_draftIssues (h : draftIssues d true = .ok strict) :
    ∃ plain, draftIssues d false = .ok plain ∧
      Extends strict plain
        ((∀ e ∈ d.stats.getD [], ∀ s ∈ e.item,
            s.DetailIsLinked d.readStats ∧ s.UseIsLinked d.readStats d.sectionIds) ∧
          (∀ e ∈ d.sections.getD [], ∀ s ∈ e.item, s.IsLinked d.readStats d.sectionIds) ∧
          ∀ i, d.integrations = .ok (some i) → i.IsLinked d.readStats) := by
  obtain ⟨stats, hs, h⟩ := bind_eq_ok h
  obtain ⟨sections, ht, h⟩ := bind_eq_ok h
  obtain ⟨integrations, hi, h⟩ := bind_eq_ok h
  cases h
  obtain ⟨_, hsp, hsx⟩ := extends_allStatIssues hs
  obtain ⟨_, htp, htx⟩ := extends_allSectionIssues ht
  obtain ⟨_, hip, hix⟩ := extends_integrationIssues hi
  refine ⟨_, by rw [draftIssues, hsp, htp, hip]; rfl, ?_⟩
  exact ((((Extends.same trivial).append hsx).append htx).append hix).congr (by simp [and_assoc])

end
end Validation

/-! ### Main statement -/

namespace GameSystem
variable {s : GameSystem} {strict : List Issue}

theorem sectionIds_ofSystem : (Draft.ofSystem s).sectionIds = s.sections.map (·.id) := by
  simp [Draft.sectionIds, Draft.ofSystem, Entry.ofItem, List.filterMap_map, Function.comp_def]

/-- A schema is linked when what could be read of its draft is. -/
theorem isLinked_iff :
    s.IsLinked ↔
      (∀ e ∈ (Draft.ofSystem s).stats.getD [], ∀ stat ∈ e.item,
        stat.DetailIsLinked s.stats ∧ stat.UseIsLinked s.stats (Draft.ofSystem s).sectionIds) ∧
      (∀ e ∈ (Draft.ofSystem s).sections.getD [], ∀ sec ∈ e.item,
        sec.IsLinked s.stats (Draft.ofSystem s).sectionIds) ∧
      ∀ i, (Draft.ofSystem s).integrations = .ok (some i) → i.IsLinked s.stats := by
  rw [sectionIds_ofSystem]
  simp only [Draft.ofSystem, Option.getD_some, List.forall_mem_map, Entry.ofItem,
    Option.mem_some_iff, forall_eq', Checked.ok.injEq]
  constructor
  · exact fun h ↦ ⟨fun stat hs ↦ ⟨h.details stat hs, h.uses stat hs⟩, h.sections, h.integrations⟩
  · rintro ⟨hs, ht, hi⟩
    exact ⟨fun stat h ↦ (hs stat h).1, fun stat h ↦ (hs stat h).2, ht, hi⟩

/-- Strict validation of a schema adds issues unless the schema is linked. -/
theorem extends_issues (h : s.issues true = .ok strict) :
    ∃ plain, s.issues false = .ok plain ∧ Extends strict plain s.IsLinked := by
  obtain ⟨plain, hp, hx⟩ := extends_draftIssues h
  rw [Draft.readStats_ofSystem] at hx
  exact ⟨plain, hp, hx.congr isLinked_iff.symm⟩

/-- Where strict validation lists issues, plain validation lists some of them in the same order;
and strict validation finds nothing exactly when plain validation finds nothing and everything
that the schema names is there and of the right kind. -/
theorem strict_issues_extend (h : s.issues true = .ok strict) :
    ∃ plain, s.issues false = .ok plain ∧ plain.Sublist strict ∧
      (strict = [] ↔ plain = [] ∧ s.IsLinked) := by
  obtain ⟨plain, hp, hx⟩ := extends_issues h
  exact ⟨plain, hp, hx.sublist, hx.eq_nil_iff⟩

/-- A schema that names sections and a stat that are not there, and whose section does not say what
it shows. -/
def withBrokenLinks : GameSystem where
  config := { id := some 1, name := { default := "S" } }
  stats := [
    { id := 1, name := { default := "A" }, editPages := some [7], detail := .boolean {} }]
  sections := [
    { id := 1, name := { default := "P" }, viewPages := [1, 2],
      preview := { content := { default := "<stat:9:name>" } } }]

/-- The one issue of plain validation stands among those that strict validation adds. -/
theorem strict_issues_extend_broken :
    ∃ strict plain, withBrokenLinks.issues true = .ok strict ∧ strict.length = 4 ∧
      withBrokenLinks.issues false = .ok plain ∧ plain.length = 1 ∧ plain.Sublist strict ∧
        (strict = [] ↔ plain = [] ∧ withBrokenLinks.IsLinked) := by
  have hfour : (withBrokenLinks.issues true).map List.length = .ok 4 := by decide +kernel
  have hone : (withBrokenLinks.issues false).map List.length = .ok 1 := by decide +kernel
  obtain ⟨strict, h, hs⟩ := exists_of_map_eq_ok hfour
  obtain ⟨plain, hp, hx⟩ := strict_issues_extend h
  rw [hp] at hone
  exact ⟨strict, plain, h, hs, hp, Except.ok.inj hone, hx⟩

end GameSystem
end CharacterSheet
