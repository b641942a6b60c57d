import CharacterSheet.Proofs.Schema.Localizations
import CharacterSheet.Proofs.Token.Coverage
import CharacterSheet.Proofs.Validation.Loading

/-!
# What strict validation asks for

Strict validation looks at everything in a schema that names a stat or a section, and at the form
of formulas. A part of a schema is linked when all that it names is there and of the right kind.
Main statements: what strict validation adds for a stat, for a section and for the settings for
other programs is nothing exactly when that part is linked.
-/

namespace CharacterSheet
open Validation

open Arithmetic.Template (bind_eq_ok)
open Json.Bounded (exists_of_map_eq_ok)

/-! ### Linked parts -/

/-- The first stat with an id is there, and it is no text. -/
def HoldsValue (stats : List Stat) (id : Int) : Prop :=
  ∃ s ∈ findStat stats id, s.isText = false

/-- A text asks for the values of no other stats than those that hold one. -/
def AsksForValues (stats : List Stat) (text : String) : Prop :=
  ∀ id, AsksFor text id → HoldsValue stats id

/-- A formula is an expression once samples stand in the place of values. -/
def HasForm (stats : List Stat) (formula : String) : Prop :=
  ∃ expression,
    substituteStatValues (fun id ↦ sampleValue stats .math id) formula = .ok expression ∧
      Arithmetic.checkForm expression = none

/-- What a reference points to is there. -/
def Reference.IsThere (stats : List Stat) (sections : List Int) (r : Reference) : Prop :=
  match r.subject with
  | .stat => (findStat stats r.id).isSome
  | .sheetSection => (r.id : Int) ∈ sections

instance (stats : List Stat) (sections : List Int) (r : Reference) :
    Decidable (r.IsThere stats sections) :=
  match h : r.subject with
  | .stat => decidable_of_iff ((findStat stats r.id).isSome = true) (by simp [Reference.IsThere, h])
  | .sheetSection => decidable_of_iff ((r.id : Int) ∈ sections) (by simp [Reference.IsThere, h])

/-- The texts of a section: the default, and those for other locales. -/
def SectionPreview.texts (p : SectionPreview) : List String :=
  p.content.default :: p.content.displayed.map (·.2)

/-- A replacement names a stat that dice read, and stats with values to stand in for it. -/
structure Replacement.IsLinked (stats : List Stat) (dice : List Dice) (r : Replacement) : Prop where
  key : ∃ used, idsUsedBy dice = .ok used ∧ r.key ∈ used
  options : ∀ id ∈ r.options, HoldsValue stats id

/-- What belongs to the kind of a stat: the stat whose options it shares has its own, and its
formula has the form of an expression. -/
structure Stat.DetailIsLinked (stats : List Stat) (s : Stat) : Prop where
  options : ∀ id ∈ s.sharesWith?, ∃ t ∈ findStat stats id, t.ownOptions?.isSome
  form : ∀ formula ∈ s.formula?, HasForm stats formula

/-- The dice of a stat, what may stand in for the stats that they read, and the sections on which
the stat can be edited. -/
structure Stat.UseIsLinked (stats : List Stat) (sections : List Int) (s : Stat) : Prop where
  dice : ∀ d ∈ s.dice, ∀ text ∈ d.texts, AsksForValues stats text
  replacements : ∀ r ∈ s.replacements, r.IsLinked stats s.dice
  pages : ∀ page ∈ s.editPages.getD [], page ∈ sections

/-- The sections that are shown together with a section, and what its texts refer to outside of
expressions. -/
structure SheetSection.IsLinked (stats : List Stat) (sections : List Int) (s : SheetSection) :
    Prop where
  pages : ∀ page ∈ s.viewPages, page ∈ sections
  texts : ∀ text ∈ s.preview.texts, ∃ ts, tokens text = .ok ts ∧
    ∀ r, .reference r ∈ ts → r.IsThere stats sections

/-- The stat for initiative is there, unless none is named. -/
def Initiative.IsLinked (stats : List Stat) (i : Initiative) : Prop :=
  ∀ id ∈ i.id, id ≠ .text "" → ∃ n, i.stat? = .ok (some n) ∧ (findStat stats n).isSome

/-- The dice that attributes are rolled with, the stat for initiative, and the stats that other
programs may change. -/
structure Integrations.IsLinked (stats : List Stat) (i : Integrations) : Prop where
  roll : ∀ roll ∈ i.attributeRoll, AsksForValues stats roll
  initiative : ∀ initiative ∈ i.initiative, initiative.IsLinked stats
  authorized : ∀ schema ∈ i.schemas, ∀ id ∈ schema.authorizedStats, (findStat stats id).isSome

/-- Everything that a schema names is there and of the right kind, and its formulas have the form
of expressions. -/
structure GameSystem.IsLinked (s : GameSystem) : Prop where
  details : ∀ stat ∈ s.stats, stat.DetailIsLinked s.stats
  uses : ∀ stat ∈ s.stats, stat.UseIsLinked s.stats (s.sections.map (·.id))
  sections : ∀ sec ∈ s.sections, sec.IsLinked s.stats (s.sections.map (·.id))
  integrations : ∀ i ∈ s.integrations, i.IsLinked s.stats

/-! ### Lists of findings -/

namespace Validation

@[simp] theorem issueIf_eq_nil_iff {condition : Bool} {path : String} {cause : IssueCause} :
    issueIf condition path cause = [] ↔ condition = false := by
  cases condition <;> simp [issueIf]

/-- Nothing is found when the issues that are found are none in number. -/
theorem eq_nil_of_map_length {found : Findings} (h : found.map List.length = .ok 0) :
    found = .ok [] := by
  obtain ⟨issues, hf, hn⟩ := exists_of_map_eq_ok h
  rw [hf, List.eq_nil_of_length_eq_zero hn]

/-- A property of the items of a list that does not depend on their indexes. -/
theorem forall_mem_mapIdx {α β : Type} {as : List α} {f : Nat → α → β} {p : β → Prop}
    {q : α → Prop} (h : ∀ i a, p (f i a) ↔ q a) : (∀ b ∈ as.mapIdx f, p b) ↔ ∀ a ∈ as, q a := by
  simp only [List.forall_mem_iff_getElem, List.getElem_mapIdx, h, List.length_mapIdx]

/-- Nothing is found in items when nothing is found in any of them. -/
theorem flatten_mapIdx_eq_nil_iff {α β : Type} {as : List α} {f : Nat → α → List β}
    {q : α → Prop} (h : ∀ i a, f i a = [] ↔ q a) :
    (as.mapIdx f).flatten = [] ↔ ∀ a ∈ as, q a := by
  rw [List.flatten_eq_nil_iff]
  exact forall_mem_mapIdx h

/-- Nothing is found in items, one after the other, when nothing is found in any of them. -/
theorem flatten_mapM_eq_nil_iff {α β ε : Type} {as : List α} {f : α → Except ε (List β)}
    {p : α → Prop} {found : List (List β)} (hf : as.mapM f = .ok found)
    (h : ∀ a ∈ as, ∀ bs, f a = .ok bs → (bs = [] ↔ p a)) :
    found.flatten = [] ↔ ∀ a ∈ as, p a := by
  induction as generalizing found with
  | nil =>
    cases hf
    simp
  | cons a as ih =>
    rw [List.mapM_cons] at hf
    obtain ⟨bs, hb, hf⟩ := bind_eq_ok hf
    obtain ⟨rest, hr, hf⟩ := bind_eq_ok hf
    cases hf
    obtain ⟨ha, has⟩ := List.forall_mem_cons.mp h
    rw [List.flatten_cons, List.append_eq_nil_iff, ha bs hb, ih hr has, List.forall_mem_cons]

/-! ### The checks of a stat -/

section
variable {stats : List Stat} {sections : List Int} {path what text : String} {issues : List Issue}

theorem valueIssues_eq_nil_iff {id : Int} :
    valueIssues stats path what id = [] ↔ HoldsValue stats id := by
  unfold valueIssues HoldsValue
  cases findStat stats id <;> simp

theorem textIssues_eq_nil_iff (h : textIssues stats path what text = .ok issues) :
    issues = [] ↔ AsksForValues stats text := by
  obtain ⟨ids, hi, rfl⟩ := exists_of_map_eq_ok h
  simp only [List.flatMap_eq_nil_iff, mem_statValueIds_iff hi, valueIssues_eq_nil_iff]
  constructor
  · intro hv id ha
    obtain ⟨n, rfl⟩ := ha.exists_nat
    exact hv n ha
  · exact fun hv n ha ↦ hv n ha

theorem diceIssues_eq_nil_iff {d : Dice} (h : diceIssues stats path d = .ok issues) :
    issues = [] ↔ ∀ text ∈ d.texts, AsksForValues stats text := by
  obtain ⟨expression, he, h⟩ := bind_eq_ok h
  rw [Dice.texts, List.forall_mem_cons, ← textIssues_eq_nil_iff he]
  cases hc : d.condition with
  | none =>
    rw [hc] at h
    cases h
    simp
  | some c =>
    rw [hc] at h
    obtain ⟨left, hl, h⟩ := bind_eq_ok h
    obtain ⟨right, hr, h⟩ := bind_eq_ok h
    cases h
    simp [textIssues_eq_nil_iff hl, textIssues_eq_nil_iff hr]

theorem replacementOptionIssues_eq_nil_iff {id : Int} :
    replacementOptionIssues stats path id = [] ↔ HoldsValue stats id := by
  unfold replacementOptionIssues HoldsValue
  cases findStat stats id <;> simp

theorem replacementIssues_eq_nil_iff {id : Int} {dice : List Dice} {used : List Int}
    {r : Replacement} (hu : idsUsedBy dice = .ok used) :
    replacementIssues stats path id used r = [] ↔ r.IsLinked stats dice := by
  have ho : (r.options.mapIdx fun j id ↦ replacementOptionIssues stats
      (path ++ ".options[" ++ toString j ++ "]") id).flatten = [] ↔
        ∀ id ∈ r.options, HoldsValue stats id :=
    flatten_mapIdx_eq_nil_iff fun j id ↦ replacementOptionIssues_eq_nil_iff
  rw [replacementIssues, List.append_eq_nil_iff, ho]
  constructor
  · rintro ⟨hk, ho⟩
    exact ⟨⟨used, hu, by simpa using hk⟩, ho⟩
  · rintro ⟨⟨used', hu', hk⟩, ho⟩
    cases hu.symm.trans hu'
    exact ⟨by simpa using hk, ho⟩

theorem replacementsIssues_eq_nil_iff {s : Stat}
    (h : replacementsIssues stats path s = .ok issues) :
    issues = [] ↔ ∀ r ∈ s.replacements, r.IsLinked stats s.dice := by
  unfold replacementsIssues at h
  split at h
  · next he =>
    cases h
    simp [List.isEmpty_iff.mp he]
  · obtain ⟨used, hu, h⟩ := bind_eq_ok h
    rw [← eq_of_worded h]
    exact flatten_mapIdx_eq_nil_iff fun i r ↦ replacementIssues_eq_nil_iff hu

theorem pageIssues_eq_nil_iff {pages : List Int}
    (h : pageIssues sections path what pages = .ok issues) :
    issues = [] ↔ ∀ page ∈ pages, page ∈ sections := by
  rw [← eq_of_worded h]
  simp [List.flatMap_eq_nil_iff]

/-- What strict validation adds for the use of a stat is nothing exactly when that is linked. -/
theorem strictStatIssues_eq_nil_iff {s : Stat}
    (h : strictStatIssues stats sections path s = .ok issues) :
    issues = [] ↔ s.UseIsLinked stats sections := by
  obtain ⟨dice, hd, h⟩ := bind_eq_ok h
  obtain ⟨replacements, hr, h⟩ := bind_eq_ok h
  obtain ⟨pages, hp, h⟩ := bind_eq_ok h
  cases h
  have hdice : dice.flatten = [] ↔ ∀ d ∈ s.dice, ∀ text ∈ d.texts, AsksForValues stats text :=
    (flatten_mapM_eq_nil_iff hd fun _ _ _ ↦ diceIssues_eq_nil_iff).trans
      (forall_mem_mapIdx fun _ _ ↦ .rfl)
  rw [List.append_eq_nil_iff, List.append_eq_nil_iff, hdice, replacementsIssues_eq_nil_iff hr,
    pageIssues_eq_nil_iff hp]
  exact ⟨fun ⟨⟨hd, hr⟩, hp⟩ ↦ ⟨hd, hr, hp⟩, fun ⟨hd, hr, hp⟩ ↦ ⟨⟨hd, hr⟩, hp⟩⟩

theorem sourceIssues_eq_nil_iff {id : Int} :
    sourceIssues stats true path (.sharedWith id) = [] ↔
      ∃ t ∈ findStat stats id, t.ownOptions?.isSome := by
  cases hf : findStat stats id <;> simp [sourceIssues, hf, Option.isSome_iff_ne_none]

theorem formIssues_eq_nil_iff (h : formIssues stats path text = .ok issues) :
    issues = [] ↔ HasForm stats text := by
  obtain ⟨expression, he, rfl⟩ := exists_of_map_eq_ok h
  rw [HasForm, he]
  cases hf : Arithmetic.checkForm expression <;> simp [hf]

/-! ### The checks of a section -/

theorem previewIssues_eq_nil_iff {t : Token} :
    previewIssues stats sections path t = [] ↔
      ∀ r, t = .reference r → r.IsThere stats sections := by
  cases t with
  | expression kind body => simp [previewIssues]
  | reference r =>
    unfold previewIssues Reference.IsThere
    cases hs : r.subject <;> simp [hs]

theorem textTokens_eq_nil_iff
    (h : (tokens text).map (·.flatMap (previewIssues stats sections path)) = .ok issues) :
    issues = [] ↔ ∃ ts, tokens text = .ok ts ∧
      ∀ r, .reference r ∈ ts → r.IsThere stats sections := by
  obtain ⟨ts, ht, rfl⟩ := exists_of_map_eq_ok h
  simp only [List.flatMap_eq_nil_iff, previewIssues_eq_nil_iff]
  constructor
  · exact fun hl ↦ ⟨ts, ht, fun r hr ↦ hl _ hr r rfl⟩
  · rintro ⟨_, hts, hl⟩ t hm r rfl
    cases ht.symm.trans hts
    exact hl r hm

/-- What strict validation adds for a section is nothing exactly when the section is linked. -/
theorem strictSectionIssues_eq_nil_iff {s : SheetSection}
    (h : strictSectionIssues stats sections path s = .ok issues) :
    issues = [] ↔ s.IsLinked stats sections := by
  obtain ⟨pages, hp, h⟩ := bind_eq_ok h
  obtain ⟨translations, hl, h⟩ := bind_eq_ok h
  obtain ⟨texts, ht, h⟩ := bind_eq_ok h
  cases h
  obtain rfl := (Localization.translations_eq_ok_iff.mp hl).2
  have htexts : texts.flatten = [] ↔ ∀ text ∈ s.preview.texts, ∃ ts, tokens text = .ok ts ∧
      ∀ r, .reference r ∈ ts → r.IsThere stats sections := by
    rw [flatten_mapM_eq_nil_iff ht fun _ _ _ ↦ textTokens_eq_nil_iff, SectionPreview.texts,
      List.forall_mem_cons, List.forall_mem_cons, List.forall_mem_map]
  rw [List.append_eq_nil_iff, pageIssues_eq_nil_iff hp, htexts]
  exact ⟨fun ⟨hp, ht⟩ ↦ ⟨hp, ht⟩, fun ⟨hp, ht⟩ ↦ ⟨hp, ht⟩⟩

/-! ### The checks of the settings for other programs -/

theorem initiativeIssues_eq_nil_iff {i : Initiative}
    (h : initiativeIssues stats i = .ok issues) : issues = [] ↔ i.IsLinked stats := by
  unfold initiativeIssues at h
  unfold Initiative.IsLinked
  split at h
  · next hi =>
    cases h
    simp [hi]
  · next hi =>
    cases h
    simp [hi]
  · next id hne hi =>
    obtain ⟨named, hn, h⟩ := bind_eq_ok h
    rw [← eq_of_worded h, hi, hn]
    have hne : id ≠ .text "" := fun he ↦ hne he
    cases named <;> simp [hne, Option.isSome_iff_ne_none]

theorem authorizedIssues_eq_nil_iff {s : IntegrationSchema}
    (h : authorizedIssues stats path s = .ok issues) :
    issues = [] ↔ ∀ id ∈ s.authorizedStats, (findStat stats id).isSome := by
  rw [← eq_of_worded h]
  exact flatten_mapIdx_eq_nil_iff fun i id ↦ by cases findStat stats id <;> simp

/-- What strict validation adds for the settings for other programs is nothing exactly when these
are linked. -/
theorem strictIntegrationIssues_eq_nil_iff {i : Integrations}
    (h : strictIntegrationIssues stats i = .ok issues) : issues = [] ↔ i.IsLinked stats := by
  obtain ⟨roll, hr, h⟩ := bind_eq_ok h
  have hroll : roll = [] ↔ ∀ roll ∈ i.attributeRoll, AsksForValues stats roll := by
    rw [textIssues_eq_nil_iff hr]
    cases i.attributeRoll with
    | none => simp [AsksForValues, not_asksFor_empty]
    | some roll => simp
  -- whether initiative is set or not, the other programs are looked at behind it
  have hinitiative : ∃ initiative,
      (initiative = [] ↔ ∀ named ∈ i.initiative, named.IsLinked stats) ∧ (do
        let authorized ← (i.schemas.mapIdx fun k s ↦ (k, s)).mapM fun e ↦
          authorizedIssues stats (itemPath "integrations.schemas" e.1) e.2
        return roll ++ initiative ++ authorized.flatten : Findings) = .ok issues := by
    dsimp only at h
    split at h
    · next named hn =>
      obtain ⟨initiative, hi, h⟩ := bind_eq_ok h
      exact ⟨initiative, by simp [hn, initiativeIssues_eq_nil_iff hi], h⟩
    · next hn => exact ⟨[], by simp [hn], h⟩
  obtain ⟨initiative, hinitiative, h⟩ := hinitiative
  obtain ⟨authorized, ha, h⟩ := bind_eq_ok h
  cases h
  have hauthorized : authorized.flatten = [] ↔
      ∀ schema ∈ i.schemas, ∀ id ∈ schema.authorizedStats, (findStat stats id).isSome :=
    (flatten_mapM_eq_nil_iff ha fun _ _ _ ↦ authorizedIssues_eq_nil_iff).trans
      (forall_mem_mapIdx fun _ _ ↦ .rfl)
  rw [List.append_eq_nil_iff, List.append_eq_nil_iff, hroll, hinitiative, hauthorized]
  exact ⟨fun ⟨⟨hr, hi⟩, ha⟩ ↦ ⟨hr, hi, ha⟩, fun ⟨hr, hi, ha⟩ ↦ ⟨⟨hr, hi⟩, ha⟩⟩

end
end Validation
end CharacterSheet
