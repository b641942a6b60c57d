import CharacterSheet.Proofs.Schema.Lasting
import CharacterSheet.Validation

/-!
# What validation does not see

Validation looks at an option no further than to its value and its default name, and at a stat not
at the variants of its name nor at its emoji. Main statement: a schema has the same issues when its
stats are changed in what validation does not see.
-/

namespace CharacterSheet
open Validation

/-! ### Changes of stats -/

/-- A change of stats, and of their options, that keeps all that validation looks at. -/
structure Stat.Unseen (f : Stat → Stat) (g : EnumOption → EnumOption) : Prop where
  id : ∀ s, (f s).id = s.id
  name : ∀ s, (f s).name.default = s.name.default
  editPages : ∀ s, (f s).editPages = s.editPages
  detail : ∀ s, (f s).detail = s.detail.mapOptions g
  value : ∀ o, (g o).value = o.value
  optionName : ∀ o, (g o).name.default = o.name.default

namespace Stat.Unseen
variable {f : Stat → Stat} {g : EnumOption → EnumOption} (h : Unseen f g)
include h

theorem findStat_map (stats : List Stat) (id : Int) :
    findStat (stats.map f) id = (findStat stats id).map f := by
  rw [findStat, List.find?_map]
  simp only [Function.comp_def, h.id]
  rfl

theorem isText (s : Stat) : (f s).isText = s.isText := by
  rw [Stat.isText, Stat.isText, kind, kind, h.detail]
  cases s.detail <;> rfl

theorem formula? (s : Stat) : (f s).formula? = s.formula? := by
  rw [Stat.formula?, Stat.formula?, h.detail]
  cases s.detail <;> rfl

theorem ownOptions? (s : Stat) : (f s).ownOptions? = s.ownOptions?.map (List.map g) := by
  rw [Stat.ownOptions?, Stat.ownOptions?, h.detail]
  cases s.detail with
  | enumeration options rolls => cases options <;> rfl
  | _ => rfl

theorem rolls (s : Stat) : (f s).rolls = s.rolls := by
  rw [Stat.rolls, Stat.rolls, h.detail]
  cases s.detail <;> rfl

theorem resolveOptions (stats : List Stat) (source : OptionSource) :
    resolveOptions (stats.map f) (source.mapOptions g) =
      (resolveOptions stats source).map (List.map g) := by
  cases source with
  | own options => rfl
  | sharedWith id =>
    rw [OptionSource.mapOptions, CharacterSheet.resolveOptions, CharacterSheet.resolveOptions,
      h.findStat_map]
    cases findStat stats id with
    | none => rfl
    | some s => exact h.ownOptions? s

theorem sample (stats : List Stat) (p : SampleProfile) (s : Stat) :
    (f s).sample (stats.map f) p = s.sample stats p := by
  rw [Stat.sample, Stat.sample, h.detail]
  cases s.detail with
  | enumeration source rolls =>
    simp only [StatDetail.mapOptions, h.resolveOptions]
    cases CharacterSheet.resolveOptions stats source with
    | none => rfl
    | some options =>
      rw [Option.map_some, Option.getD_some, Option.getD_some, List.getElem?_map]
      cases options[p.option]? with
      | none => rfl
      | some o => exact congrArg Numeral.writeInteger (h.value o)
  | _ => rfl

theorem sampleValue (stats : List Stat) (use : SampleUse) (id : Int) :
    sampleValue (stats.map f) use id = sampleValue stats use id := by
  rw [CharacterSheet.sampleValue, CharacterSheet.sampleValue, h.findStat_map]
  cases findStat stats id with
  | none => rfl
  | some s => exact h.sample stats use.profile s

theorem storedFormula? (stats : List Stat) :
    storedFormula? (stats.map f) = storedFormula? stats := by
  funext id
  rw [CharacterSheet.storedFormula?, CharacterSheet.storedFormula?, h.findStat_map]
  cases findStat stats id with
  | none => rfl
  | some s => exact h.formula? s

end Stat.Unseen

/-! ### Formulas -/

/-- A walk depends on the stored formulas alone. -/
theorem Walk.run_congr {stats others : List Stat} (h : storedFormula? others = storedFormula? stats)
    (target : Int) (w : Walk) : run others target w = run stats target w := by
  have hstep (w : Walk) : step others target w = step stats target w := by
    simp only [step, h]
  fun_induction run stats target w with
  | case1 w answer hs =>
    rw [← hstep] at hs
    rw [run]
    split <;> simp_all
  | case2 w next hs ih =>
    rw [← hstep] at hs
    rw [run]
    split <;> simp_all

/-- What a checker has found out, for stats that were changed. -/
def CycleChecker.mapStats (f : Stat → Stat) (c : CycleChecker) : CycleChecker :=
  { c with stats := c.stats.map f }

theorem CycleChecker.find_mapStats {f : Stat → Stat} {g : EnumOption → EnumOption}
    (h : Stat.Unseen f g) (c : CycleChecker) (target : Int) (formula : String) :
    (c.mapStats f).find target formula =
      ((c.find target formula).1, (c.find target formula).2.mapStats f) := by
  have hs : (c.mapStats f).isStored target formula = c.isStored target formula := by
    rw [isStored, isStored, mapStats, h.storedFormula?]
  have hr (w : Walk) : Walk.run (c.mapStats f).stats target w = Walk.run c.stats target w :=
    Walk.run_congr (h.storedFormula? c.stats) target w
  unfold find
  cases dependencies formula with
  | error e => rfl
  | ok deps =>
    simp only [hs, hr]
    rfl

namespace Validation

/-- Items that are looked at with what comes before them may lose what is not looked at. -/
theorem eachWithPrevious_map {α β : Type} {f : List α → α → List β} {g : α → α}
    (h : ∀ before a, f (before.map g) (g a) = f before a) (before as : List α) :
    eachWithPrevious f (before.map g) (as.map g) = eachWithPrevious f before as := by
  induction as generalizing before with
  | nil => rfl
  | cons a as ih =>
    rw [List.map_cons, eachWithPrevious, eachWithPrevious, h, ← ih, List.map_append]
    rfl

section
variable {f : Stat → Stat} {g : EnumOption → EnumOption} (h : Stat.Unseen f g)
include h

/-! ### Issues of stats -/

section
variable (stats : List Stat)

theorem valueIssues_map : valueIssues (stats.map f) = valueIssues stats := by
  funext path what id
  rw [valueIssues, valueIssues, h.findStat_map]
  cases findStat stats id with
  | none => rfl
  | some s => exact congrArg (issueIf · _ _) (h.isText s)

theorem textIssues_map : textIssues (stats.map f) = textIssues stats := by
  funext path what text
  rw [textIssues, textIssues, valueIssues_map h]

theorem formIssues_map : formIssues (stats.map f) = formIssues stats := by
  funext path formula
  simp only [formIssues, h.sampleValue]

theorem formulaIssues_map (strict : Bool) (path : String) (id : Int) (formula : String)
    (c : CycleChecker) :
    formulaIssues (stats.map f) strict path id formula (c.mapStats f) =
      (fun (issues, c) ↦ (issues, c.mapStats f)) <$>
        formulaIssues stats strict path id formula c := by
  rw [formulaIssues, formulaIssues, textIssues_map h, formIssues_map h, c.find_mapStats h]
  split
  · rfl
  · cases strict <;> simp only [map_bind, map_pure, Bool.false_eq_true, if_true, if_false]

omit stats in
theorem optionIssues_map (path : String) (before : List EnumOption) (o : EnumOption) :
    optionIssues path (before.map g) (g o) = optionIssues path before o := by
  simp only [optionIssues, List.length_map, List.any_map, Function.comp_def, h.value, h.optionName]

theorem sourceIssues_map (strict : Bool) (path : String) (source : OptionSource) :
    sourceIssues (stats.map f) strict path (source.mapOptions g) =
      sourceIssues stats strict path source := by
  cases source with
  | own options =>
    rw [OptionSource.mapOptions, sourceIssues, sourceIssues, List.length_map]
    exact congrArg _ (eachWithPrevious_map (optionIssues_map h path) [] options)
  | sharedWith id =>
    rw [OptionSource.mapOptions, sourceIssues, sourceIssues, h.findStat_map]
    cases findStat stats id with
    | none => rfl
    | some s => simp only [Option.map_some, h.ownOptions?, Option.isNone_map]

theorem detailIssues_map (strict : Bool) (path : String) (s : Stat) (c : CycleChecker) :
    detailIssues (stats.map f) strict path (f s) (c.mapStats f) =
      (fun (issues, c) ↦ (issues, c.mapStats f)) <$> detailIssues stats strict path s c := by
  have hid := h.id s
  unfold detailIssues
  rw [h.detail]
  cases s.detail with
  | numeric min max rolls =>
    simp only [StatDetail.mapOptions]
    cases worded (boundIssues path min max) <;> rfl
  | enumeration source rolls =>
    simp only [StatDetail.mapOptions, sourceIssues_map h]
    cases worded (sourceIssues stats strict path source) <;> rfl
  | calculated formula rolls =>
    simp only [StatDetail.mapOptions, hid]
    exact formulaIssues_map h stats strict path s.id formula c
  | _ => rfl

theorem diceIssues_map : diceIssues (stats.map f) = diceIssues stats := by
  funext path d
  simp only [diceIssues, textIssues_map h]

theorem replacementOptionIssues_map :
    replacementOptionIssues (stats.map f) = replacementOptionIssues stats := by
  funext path id
  rw [replacementOptionIssues, replacementOptionIssues, h.findStat_map]
  cases findStat stats id with
  | none => rfl
  | some s => exact congrArg (issueIf · _ _) (h.isText s)

theorem replacementsIssues_map (path : String) (s : Stat) :
    replacementsIssues (stats.map f) path (f s) = replacementsIssues stats path s := by
  simp only [replacementsIssues, replacementIssues, replacementOptionIssues_map h,
    Stat.replacements, Stat.dice, h.rolls, h.id]
  rfl

theorem strictStatIssues_map (sections : List Int) (path : String) (s : Stat) :
    strictStatIssues (stats.map f) sections path (f s) =
      strictStatIssues stats sections path s := by
  simp only [strictStatIssues, diceIssues_map h, replacementsIssues_map h, Stat.dice, h.rolls,
    h.editPages]

end

/-! ### Issues of sections and of settings for other programs -/

section
variable (stats : List Stat)

theorem previewIssues_map : previewIssues (stats.map f) = previewIssues stats := by
  funext sections path token
  cases token with
  | expression => rfl
  | reference r => simp only [previewIssues, h.findStat_map, Option.isNone_map]

theorem strictSectionIssues_map :
    strictSectionIssues (stats.map f) = strictSectionIssues stats := by
  funext sections path a
  rw [strictSectionIssues, strictSectionIssues, previewIssues_map h]

theorem initiativeIssues_map : initiativeIssues (stats.map f) = initiativeIssues stats := by
  funext i
  have hf : findStat (stats.map f) = fun id ↦ (findStat stats id).map f :=
    funext (h.findStat_map stats)
  have hnone (named : Option Int) :
      (named.bind fun id ↦ (findStat stats id).map f).isNone =
        (named.bind (findStat stats)).isNone := by
    cases named <;> simp
  simp only [initiativeIssues, hf, hnone]

theorem authorizedIssues_map : authorizedIssues (stats.map f) = authorizedIssues stats := by
  funext path a
  simp only [authorizedIssues, h.findStat_map, Option.isNone_map]

theorem integrationIssues_map : integrationIssues (stats.map f) = integrationIssues stats := by
  funext strict found
  have hi : strictIntegrationIssues (stats.map f) = strictIntegrationIssues stats := by
    funext i
    simp only [strictIntegrationIssues, textIssues_map h, initiativeIssues_map h,
      authorizedIssues_map h]
  simp only [integrationIssues, hi]

end

/-! ### Issues of drafts -/

section
variable {d changed : Draft} (hr : changed.readStats = d.readStats.map f)
  (hs : changed.sectionIds = d.sectionIds)
include hr hs

theorem statIssues_map (strict : Bool) (path : String) (a : Stat) (c : CycleChecker) :
    statIssues changed strict path (f a) (c.mapStats f) =
      (fun (issues, c) ↦ (issues, c.mapStats f)) <$> statIssues d strict path a c := by
  rw [statIssues, statIssues, hr, hs, detailIssues_map h, strictStatIssues_map h, h.name]
  cases detailIssues d.readStats strict path a c with
  | error e => rfl
  | ok found =>
    cases strict with
    | false => rfl
    | true => cases strictStatIssues d.readStats d.sectionIds path a <;> rfl

omit h hr hs in
theorem allStatIssues_cons (d : Draft) (strict : Bool) (before : List (Option Int))
    (c : CycleChecker) (a : Stat) (rest : List (Entry Stat)) :
    allStatIssues d strict before c (Entry.ofItem Stat.id a :: rest) = (do
      let entry ← worded (duplicateIssues "stats" before (some a.id))
      let (own, c) ← statIssues d strict (itemPath "stats" before.length) a c
      let others ← allStatIssues d strict (before ++ [some a.id]) c rest
      return entry ++ own ++ others) := rfl

theorem allStatIssues_map (strict : Bool) (before : List (Option Int)) (c : CycleChecker)
    (stats : List Stat) :
    allStatIssues changed strict before (c.mapStats f) ((stats.map f).map (Entry.ofItem Stat.id)) =
      allStatIssues d strict before c (stats.map (Entry.ofItem Stat.id)) := by
  induction stats generalizing before c with
  | nil => rfl
  | cons a stats ih =>
    rw [List.map_cons, List.map_cons, List.map_cons, allStatIssues_cons, allStatIssues_cons,
      statIssues_map h hr hs, h.id]
    simp only [bind_map_left, ← ih]

theorem allSectionIssues_map (strict : Bool) (before : List (Option Int))
    (entries : List (Entry SheetSection)) :
    allSectionIssues changed strict before entries = allSectionIssues d strict before entries := by
  have hsec : sectionIssues changed strict = sectionIssues d strict := by
    funext path a
    rw [sectionIssues, sectionIssues, hr, hs, strictSectionIssues_map h]
  induction entries generalizing before with
  | nil => rfl
  | cons e entries ih => simp only [allSectionIssues, ih, hsec]

end
end
end Validation

/-- A schema has the same issues when its stats are changed in what validation does not see. -/
theorem GameSystem.issues_map {f : Stat → Stat} {g : EnumOption → EnumOption}
    (h : Stat.Unseen f g) (s : GameSystem) (strict : Bool) :
    ({ s with stats := s.stats.map f } : GameSystem).issues strict = s.issues strict := by
  let d := Draft.ofSystem s
  let changed := Draft.ofSystem { s with stats := s.stats.map f }
  have hr : changed.readStats = d.readStats.map f := by
    rw [Draft.readStats_ofSystem, Draft.readStats_ofSystem]
  have hstats : allStatIssues changed strict [] ⟨d.readStats.map f, [], []⟩
      (changed.stats.getD []) =
        allStatIssues d strict [] ⟨d.readStats, [], []⟩ (d.stats.getD []) :=
    allStatIssues_map h hr rfl strict [] ⟨d.readStats, [], []⟩ s.stats
  rw [issues, issues, draftIssues, draftIssues, hr, hstats, allSectionIssues_map h hr rfl,
    integrationIssues_map h]
  rfl

end CharacterSheet
