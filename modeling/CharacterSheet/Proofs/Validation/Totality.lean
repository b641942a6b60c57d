import CharacterSheet.Proofs.Editing.FormulaEdits
import CharacterSheet.Proofs.Validation.LegibleDrafts
import CharacterSheet.Proofs.Validation.Parts

/-!
# When validation comes to an end

A check fails only on an id that cannot be read or an integer that cannot be written. In a legible
draft there are none, but for the text that names the stat for initiative. Main statement: a
legible draft is validated unless the validation is strict and that text is taken for an id and
cannot be read.
-/

namespace CharacterSheet
open Validation

/-! ### Checks that come to an end -/

namespace Validation

section
variable {ε α β : Type}

theorem exists_bind_eq_ok {x : Except ε α} {f : α → Except ε β} (hx : ∃ a, x = .ok a)
    (hf : ∀ a, x = .ok a → ∃ b, f a = .ok b) : ∃ b, (x >>= f) = .ok b := by
  obtain ⟨a, rfl⟩ := hx
  exact hf a rfl

theorem exists_map_eq_ok {x : Except ε α} (hx : ∃ a, x = .ok a) (f : α → β) :
    ∃ b, x.map f = .ok b := by
  obtain ⟨a, rfl⟩ := hx
  exact ⟨f a, rfl⟩

end

/-- An issue that is found under a condition can be written when its cause can be. -/
theorem isWritable_of_cause {condition : Bool} {path : String} {cause : IssueCause} {i : Issue}
    (h : i ∈ issueIf condition path cause)
    (hc : ∀ n ∈ cause.integers, Numeral.isWritable n = true) : i.isWritable = true := by
  unfold issueIf at h
  split at h
  · rw [List.mem_singleton.mp h]
    exact List.all_eq_true.mpr hc
  · cases h

/-- An issue of one of several items is found there together with some items before it. -/
theorem exists_of_mem_eachWithPrevious {α β : Type} {f : List α → α → List β} {before as : List α}
    {b : β} (h : b ∈ eachWithPrevious f before as) : ∃ others, ∃ a ∈ as, b ∈ f others a := by
  induction as generalizing before with
  | nil => cases h
  | cons a as ih =>
    rcases List.mem_append.mp h with h | h
    · exact ⟨before, a, List.mem_cons_self, h⟩
    · obtain ⟨others, c, hc, h⟩ := ih h
      exact ⟨others, c, List.mem_cons_of_mem a hc, h⟩

theorem isWritable_of_mem_entryIssues {α : Type} {q : α → Prop} {collection : String}
    {before : List (Option Int)} {e : Entry α} (he : e.IsLegible q) {i : Issue}
    (h : i ∈ entryIssues collection before e) : i.isWritable = true := by
  rcases List.mem_append.mp h with h | h
  · obtain ⟨fault, -, rfl⟩ := List.mem_map.mp h
    rfl
  · unfold duplicateIssues at h
    split at h
    · cases h
    · next n hn =>
      split at h
      · rw [List.mem_singleton.mp h]
        exact List.all_eq_true.mpr (List.forall_mem_singleton.mpr (he.id n hn))
      · cases h

section
variable {stats : List Stat}

theorem isWritable_of_mem_boundIssues {path : String} {min max : Option Number}
    (hmin : ∀ n ∈ min, n.IsWritable) (hmax : ∀ n ∈ max, n.IsWritable) {i : Issue}
    (h : i ∈ boundIssues path min max) : i.isWritable = true := by
  unfold boundIssues at h
  split at h
  · next low high =>
    refine isWritable_of_cause h fun n hn ↦ ?_
    obtain ⟨bound, hb, hi⟩ := List.mem_filterMap.mp hn
    rcases List.mem_pair.mp hb with rfl | rfl
    · exact hmin _ rfl n hi
    · exact hmax _ rfl n hi
  · cases h

theorem isWritable_of_mem_sourceIssues {strict : Bool} {path : String} {source : OptionSource}
    (hs : source.IsLegible) {i : Issue} (h : i ∈ sourceIssues stats strict path source) :
    i.isWritable = true := by
  cases source with
  | own options =>
    rcases List.mem_append.mp h with h | h
    · exact isWritable_of_cause h (List.forall_mem_nil _)
    · obtain ⟨others, o, ho, h⟩ := exists_of_mem_eachWithPrevious h
      rcases List.mem_append.mp h with h | h
      · exact isWritable_of_cause h (List.forall_mem_singleton.mpr (hs o ho).value)
      · exact isWritable_of_cause h (List.forall_mem_nil _)
  | sharedWith id =>
    have hid : ∀ n ∈ [id], Numeral.isWritable n = true := List.forall_mem_singleton.mpr hs
    simp only [sourceIssues] at h
    split at h
    · cases h
    · split at h
      · rw [List.mem_singleton.mp h]
        exact List.all_eq_true.mpr hid
      · exact isWritable_of_cause h hid

theorem exists_textIssues (stats : List Stat) (path what : String) {text : String}
    (h : ReadableIds text) : ∃ issues, textIssues stats path what text = .ok issues := by
  obtain ⟨ids, hi, -⟩ := exists_statValueIds h
  exact exists_map_eq_ok ⟨ids, hi⟩ _

theorem exists_pageIssues {sections : List Int} {path what : String} {pages : List Int}
    (h : ∀ page ∈ pages, Numeral.isWritable page = true) :
    ∃ issues, pageIssues sections path what pages = .ok issues := by
  refine ⟨_, worded_eq_ok fun i hi ↦ ?_⟩
  obtain ⟨page, hp, hi⟩ := List.mem_flatMap.mp hi
  exact isWritable_of_cause hi (List.forall_mem_singleton.mpr (h page hp))

end

/-! ### The checks of stats -/

/-- A check that is passed a checker comes to an end and passes on one that answers for the same
stats. -/
def PassesOn (stats : List Stat) (x : Except NumeralError (List Issue × CycleChecker)) : Prop :=
  ∃ issues checker, x = .ok (issues, checker) ∧ checker.Serves stats

theorem passesOn_bind {stats : List Stat} {α : Type} {x : Except NumeralError α}
    {f : α → Except NumeralError (List Issue × CycleChecker)} (hx : ∃ a, x = .ok a)
    (hf : ∀ a, x = .ok a → PassesOn stats (f a)) : PassesOn stats (x >>= f) := by
  obtain ⟨a, rfl⟩ := hx
  exact hf a rfl

section
variable {stats : List Stat} (h : ∀ s ∈ stats, s.IsLegible)
include h

theorem exists_formIssues (path : String) {formula : String} (hf : ReadableIds formula) :
    ∃ issues, formIssues stats path formula = .ok issues :=
  exists_map_eq_ok (exists_substituteStatValues h .math hf) _

/-- The cycle that a checker finds can be written. -/
theorem exists_find {checker : CycleChecker} (hc : checker.Serves stats) {id : Int}
    {formula : String} (hid : Numeral.isWritable id = true) (hf : ReadableIds formula) :
    ∃ answer, (checker.find id formula).1 = .ok answer ∧
      ∀ path ∈ answer, ∀ v ∈ path, Numeral.isWritable v = true := by
  have hformulas : ReadableFormulas (formulaAt stats id formula) :=
    readableFormulas_formulaAt hf fun s hs f hs' ↦ (h s hs).formula hs'
  rw [(hc.answers id formula).1]
  rcases findCycle_cases hformulas with ⟨ha, -⟩ | ⟨path, ha, hl⟩
  · exact ⟨none, ha, by simp⟩
  · refine ⟨some path, ha, ?_⟩
    rintro _ ⟨⟩
    exact hl.isWritable hformulas hid

theorem passesOn_formulaIssues (strict : Bool) (path : String) {id : Int} {formula : String}
    {checker : CycleChecker} (hc : checker.Serves stats) (hid : Numeral.isWritable id = true)
    (hf : ReadableIds formula) :
    PassesOn stats (formulaIssues stats strict path id formula checker) := by
  obtain ⟨answer, ha, hanswer⟩ := exists_find h hc hid hf
  obtain ⟨-, hnext⟩ := hc.answers id formula
  unfold formulaIssues
  split
  · exact ⟨_, checker, rfl, hc⟩
  · refine passesOn_bind ⟨answer, ha⟩ fun found hfound ↦ ?_
    cases ha.symm.trans hfound
    have hcycle : ∀ i ∈ (answer.map fun p ↦ (⟨path ++ ".formula", .cycle p⟩ : Issue)).toList,
        i.isWritable = true := by
      intro i hi
      obtain ⟨p, hp, rfl⟩ := Option.map_eq_some_iff.mp (Option.mem_toList.mp hi)
      exact List.all_eq_true.mpr (hanswer p hp)
    refine passesOn_bind ⟨_, worded_eq_ok hcycle⟩ fun cycles _ ↦ ?_
    refine passesOn_bind (exists_textIssues _ _ _ hf) fun references _ ↦ ?_
    cases strict with
    | false => exact ⟨_, _, rfl, hnext⟩
    | true => exact passesOn_bind (exists_formIssues h _ hf) fun form _ ↦ ⟨_, _, rfl, hnext⟩

theorem passesOn_detailIssues (strict : Bool) (path : String) {s : Stat} {checker : CycleChecker}
    (hs : s.IsLegible) (hc : checker.Serves stats) :
    PassesOn stats (detailIssues stats strict path s checker) := by
  have hd := hs.detail
  unfold detailIssues
  cases he : s.detail with
  | numeric min max rolls =>
    rw [he] at hd
    simp only [worded_eq_ok fun i ↦ isWritable_of_mem_boundIssues hd.1 hd.2.1]
    exact ⟨_, checker, rfl, hc⟩
  | enumeration source rolls =>
    rw [he] at hd
    simp only [worded_eq_ok fun i ↦ isWritable_of_mem_sourceIssues hd.1]
    exact ⟨_, checker, rfl, hc⟩
  | boolean rolls => exact ⟨_, checker, rfl, hc⟩
  | text low high => exact ⟨_, checker, rfl, hc⟩
  | calculated formula rolls =>
    rw [he] at hd
    exact passesOn_formulaIssues h strict path hc hs.id hd.1

end

section
variable {stats : List Stat}

theorem exists_diceIssues (path : String) {d : Dice} (hd : d.IsLegible) :
    ∃ issues, diceIssues stats path d = .ok issues := by
  unfold diceIssues
  unfold Dice.IsLegible Dice.texts at hd
  refine exists_bind_eq_ok (exists_textIssues _ _ _ (hd _ List.mem_cons_self)) fun expression _ ↦ ?_
  cases hc : d.condition with
  | none => exact ⟨_, rfl⟩
  | some c =>
    simp only [hc, List.forall_mem_cons] at hd
    refine exists_bind_eq_ok (exists_textIssues _ _ _ hd.2.1) fun left _ ↦ ?_
    exact exists_bind_eq_ok (exists_textIssues _ _ _ hd.2.2.1) fun right _ ↦ ⟨_, rfl⟩

/-- The ids of the stats that legible dice read can be found. -/
theorem exists_idsUsedBy {dice : List Dice} (h : ∀ d ∈ dice, d.IsLegible) :
    ∃ used, idsUsedBy dice = .ok used := by
  refine exists_map_eq_ok (exists_mapM_eq_ok_iff.mpr fun text ht ↦ ?_) _
  obtain ⟨d, hd, ht⟩ := List.mem_flatMap.mp ht
  obtain ⟨ids, hi, -⟩ := exists_statValueIds (h d hd text ht)
  exact ⟨ids, hi⟩

theorem isWritable_of_mem_replacementIssues {path : String} {stat : Int} {used : List Int}
    {r : Replacement} (hstat : Numeral.isWritable stat = true) (hr : r.IsLegible) {i : Issue}
    (h : i ∈ replacementIssues stats path stat used r) : i.isWritable = true := by
  rcases List.mem_append.mp h with h | h
  · exact isWritable_of_cause h
      (List.forall_mem_cons.mpr ⟨hr.key, List.forall_mem_singleton.mpr hstat⟩)
  · obtain ⟨issues, hi, h⟩ := List.mem_flatten.mp h
    obtain ⟨j, hj, rfl⟩ := List.mem_mapIdx.mp hi
    have hid : ∀ n ∈ [r.options[j]], Numeral.isWritable n = true :=
      List.forall_mem_singleton.mpr (hr.options _ (List.getElem_mem hj))
    unfold replacementOptionIssues at h
    split at h
    · rw [List.mem_singleton.mp h]
      exact List.all_eq_true.mpr hid
    · exact isWritable_of_cause h hid

theorem exists_replacementsIssues (path : String) {s : Stat} (hs : s.IsLegible) :
    ∃ issues, replacementsIssues stats path s = .ok issues := by
  unfold replacementsIssues
  split
  · exact ⟨_, rfl⟩
  · refine exists_bind_eq_ok (exists_idsUsedBy hs.dice) fun used _ ↦ ⟨_, worded_eq_ok fun i hi ↦ ?_⟩
    obtain ⟨issues, hm, hi⟩ := List.mem_flatten.mp hi
    obtain ⟨j, hj, rfl⟩ := List.mem_mapIdx.mp hm
    exact isWritable_of_mem_replacementIssues hs.id (hs.replacements _ (List.getElem_mem hj)) hi

theorem exists_strictStatIssues (sections : List Int) (path : String) {s : Stat}
    (hs : s.IsLegible) : ∃ issues, strictStatIssues stats sections path s = .ok issues := by
  have hpages : ∀ page ∈ s.editPages.getD [], Numeral.isWritable page = true := by
    cases he : s.editPages with
    | none => simp
    | some pages => exact hs.pages pages he
  unfold strictStatIssues
  refine exists_bind_eq_ok (exists_mapM_eq_ok_iff.mpr fun pair hm ↦ ?_) fun dice _ ↦ ?_
  · obtain ⟨k, hk, rfl⟩ := List.mem_mapIdx.mp hm
    exact exists_diceIssues _ (hs.dice _ (List.getElem_mem hk))
  · refine exists_bind_eq_ok (exists_replacementsIssues path hs) fun replacements _ ↦ ?_
    exact exists_bind_eq_ok (exists_pageIssues hpages) fun pages _ ↦ ⟨_, rfl⟩

end

section
variable {d : Draft} (h : d.IsLegible)
include h

theorem passesOn_statIssues (strict : Bool) (path : String) {s : Stat} {checker : CycleChecker}
    (hs : s.IsLegible) (hc : checker.Serves d.readStats) :
    PassesOn d.readStats (statIssues d strict path s checker) := by
  obtain ⟨detail, next, hd, hn⟩ := passesOn_detailIssues h.readStats strict path hs hc
  unfold statIssues
  refine passesOn_bind ⟨_, hd⟩ fun found hfound ↦ ?_
  cases hd.symm.trans hfound
  cases strict with
  | false => exact ⟨_, _, rfl, hn⟩
  | true => exact passesOn_bind (exists_strictStatIssues _ path hs) fun more _ ↦ ⟨_, _, rfl, hn⟩

/-- The checks of stats come to an end one after the other, whatever comes before them. -/
theorem exists_allStatIssues (strict : Bool) {before : List (Option Int)} {checker : CycleChecker}
    {es : List (Entry Stat)} (hes : ∀ e ∈ es, e.IsLegible Stat.IsLegible)
    (hc : checker.Serves d.readStats) :
    ∃ issues, allStatIssues d strict before checker es = .ok issues := by
  induction es generalizing before checker with
  | nil => exact ⟨[], rfl⟩
  | cons e es ih =>
    obtain ⟨he, hes⟩ := List.forall_mem_cons.mp hes
    unfold allStatIssues
    rw [worded_eq_ok fun i ↦ isWritable_of_mem_entryIssues he]
    refine exists_bind_eq_ok ⟨_, rfl⟩ fun entry _ ↦ ?_
    cases hi : e.item with
    | none =>
      refine exists_bind_eq_ok ⟨_, rfl⟩ ?_
      rintro _ ⟨⟩
      exact exists_bind_eq_ok (ih hes hc) fun others _ ↦ ⟨_, rfl⟩
    | some s =>
      obtain ⟨own, next, hown, hn⟩ :=
        passesOn_statIssues h strict (itemPath "stats" before.length) (he.item s hi) hc
      refine exists_bind_eq_ok ⟨_, hown⟩ fun found hf ↦ ?_
      cases hown.symm.trans hf
      exact exists_bind_eq_ok (ih hes hn) fun others _ ↦ ⟨_, rfl⟩

end

/-! ### The checks of sections -/

theorem exists_strictSectionIssues (stats : List Stat) (sections : List Int) (path : String)
    {s : SheetSection} (hs : s.IsLegible) :
    ∃ issues, strictSectionIssues stats sections path s = .ok issues := by
  unfold strictSectionIssues
  refine exists_bind_eq_ok (exists_pageIssues hs.pages) fun pages _ ↦ ?_
  have hl : s.preview.content.translations = .ok s.preview.content.displayed :=
    Localization.translations_eq_ok_iff.mpr ⟨hs.content.writable, rfl⟩
  refine exists_bind_eq_ok ⟨_, hl⟩ fun translations ht ↦ ?_
  cases hl.symm.trans ht
  refine exists_bind_eq_ok (exists_mapM_eq_ok_iff.mpr fun shown hm ↦ ?_) fun texts _ ↦ ⟨_, rfl⟩
  have ht : shown.2 ∈ s.preview.texts := List.mem_map_of_mem hm
  exact exists_map_eq_ok (exists_tokens_iff.mpr (hs.texts _ ht)) _

theorem exists_sectionIssues (d : Draft) (strict : Bool) (path : String) {s : SheetSection}
    (hs : s.IsLegible) : ∃ issues, sectionIssues d strict path s = .ok issues := by
  unfold sectionIssues
  cases strict with
  | false => exact ⟨_, rfl⟩
  | true => exact exists_bind_eq_ok (exists_strictSectionIssues _ _ path hs) fun more _ ↦ ⟨_, rfl⟩

theorem exists_allSectionIssues (d : Draft) (strict : Bool) {before : List (Option Int)}
    {es : List (Entry SheetSection)} (hes : ∀ e ∈ es, e.IsLegible SheetSection.IsLegible) :
    ∃ issues, allSectionIssues d strict before es = .ok issues := by
  induction es generalizing before with
  | nil => exact ⟨[], rfl⟩
  | cons e es ih =>
    obtain ⟨he, hes⟩ := List.forall_mem_cons.mp hes
    unfold allSectionIssues
    rw [worded_eq_ok fun i ↦ isWritable_of_mem_entryIssues he]
    refine exists_bind_eq_ok ⟨_, rfl⟩ fun entry _ ↦ ?_
    cases hi : e.item with
    | none =>
      refine exists_bind_eq_ok ⟨_, rfl⟩ fun own _ ↦ ?_
      exact exists_bind_eq_ok (ih hes) fun others _ ↦ ⟨_, rfl⟩
    | some s =>
      refine exists_bind_eq_ok (exists_sectionIssues d strict _ (he.item s hi)) fun own _ ↦ ?_
      exact exists_bind_eq_ok (ih hes) fun others _ ↦ ⟨_, rfl⟩

/-! ### The checks of the settings for other programs -/

section
variable {stats : List Stat}

/-- The check of the stat for initiative comes to an end exactly when its text can be read. -/
theorem exists_initiativeIssues_iff {i : Initiative} (hi : ∀ id ∈ i.id, id.IsLegible) :
    (∃ issues, initiativeIssues stats i = .ok issues) ↔ i.IsReadable := by
  rw [← Initiative.exists_stat?_iff]
  unfold initiativeIssues
  split
  · next hid => exact iff_of_true ⟨[], rfl⟩ ⟨none, by rw [Initiative.stat?, hid]⟩
  · next hid => exact iff_of_true ⟨[], rfl⟩ ⟨none, by rw [Initiative.stat?, hid]; rfl⟩
  · next id _ hid =>
    constructor
    · rintro ⟨issues, h⟩
      cases hs : i.stat? with
      | ok named => exact ⟨named, rfl⟩
      | error e => cases (congrArg (Except.bind · _) hs).symm.trans h
    · rintro ⟨named, hs⟩
      rw [hs]
      refine ⟨_, worded_eq_ok fun issue h ↦ isWritable_of_cause h ?_⟩
      cases id with
      | number n => exact List.forall_mem_singleton.mpr (hi _ hid)
      | text s => exact List.forall_mem_nil _

theorem exists_authorizedIssues (path : String) {s : IntegrationSchema}
    (hs : ∀ id ∈ s.authorizedStats, Numeral.isWritable id = true) :
    ∃ issues, authorizedIssues stats path s = .ok issues := by
  refine ⟨_, worded_eq_ok fun i hi ↦ ?_⟩
  obtain ⟨issues, hm, hi⟩ := List.mem_flatten.mp hi
  obtain ⟨j, hj, rfl⟩ := List.mem_mapIdx.mp hm
  exact isWritable_of_cause hi (List.forall_mem_singleton.mpr (hs _ (List.getElem_mem hj)))

theorem exists_strictIntegrationIssues_iff {i : Integrations} (hi : i.IsLegible) :
    (∃ issues, strictIntegrationIssues stats i = .ok issues) ↔
      ∀ a ∈ i.initiative, a.IsReadable := by
  have hroll : ReadableIds (i.attributeRoll.getD "") := by
    cases hr : i.attributeRoll with
    | none => exact readableIds_empty
    | some text => exact hi.attributeRoll text hr
  obtain ⟨roll, hr⟩ :=
    exists_textIssues stats "integrations.atributes_roll" "attribute roll" hroll
  have hauthorized : ∃ issues, ((i.schemas.mapIdx fun k s ↦ (k, s)).mapM fun pair ↦
      authorizedIssues stats (itemPath "integrations.schemas" pair.1) pair.2) = .ok issues := by
    refine exists_mapM_eq_ok_iff.mpr fun pair hm ↦ ?_
    obtain ⟨k, hk, rfl⟩ := List.mem_mapIdx.mp hm
    exact exists_authorizedIssues _ (hi.authorized _ (List.getElem_mem hk))
  unfold strictIntegrationIssues
  rw [hr]
  cases ha : i.initiative with
  | none =>
    refine iff_of_true ?_ (by simp)
    refine exists_bind_eq_ok ⟨roll, rfl⟩ fun _ _ ↦ exists_bind_eq_ok ⟨_, rfl⟩ fun found _ ↦ ?_
    exact exists_bind_eq_ok hauthorized fun issues _ ↦ ⟨_, rfl⟩
  | some a =>
    have hiff : (∃ issues, initiativeIssues stats a = .ok issues) ↔ a.IsReadable :=
      exists_initiativeIssues_iff (hi.initiative a ha)
    constructor
    · rintro ⟨issues, h⟩ _ ⟨⟩
      refine hiff.mp ?_
      cases hs : initiativeIssues stats a with
      | ok found => exact ⟨found, rfl⟩
      | error e => simp [hs, bind, Except.bind] at h
    · intro h
      refine exists_bind_eq_ok ⟨roll, rfl⟩ fun _ _ ↦ ?_
      refine exists_bind_eq_ok (hiff.mpr (h a rfl)) fun found _ ↦ ?_
      exact exists_bind_eq_ok hauthorized fun issues _ ↦ ⟨_, rfl⟩

/-- The checks of the settings come to an end unless they are strict and the stat for initiative
is named by a text that cannot be read. -/
theorem exists_integrationIssues_iff {strict : Bool} {settings : Checked (Option Integrations)}
    (h : ∀ i, settings = .ok (some i) → i.IsLegible) :
    (∃ issues, integrationIssues stats strict settings = .ok issues) ↔
      (strict = true → ∀ i, settings = .ok (some i) →
        ∀ a ∈ i.initiative, a.IsReadable) := by
  unfold integrationIssues
  split
  · exact iff_of_true ⟨_, rfl⟩ (by simp)
  · exact iff_of_true ⟨_, rfl⟩ (by simp)
  · next i =>
    cases strict with
    | false => exact iff_of_true ⟨_, rfl⟩ (by simp)
    | true =>
      rw [if_pos rfl, exists_strictIntegrationIssues_iff (h i rfl)]
      simp

end

/-- A legible draft is validated unless the validation is strict and the stat for initiative is
named by a text that cannot be read. -/
theorem exists_draftIssues_iff {d : Draft} (h : d.IsLegible) (strict : Bool) :
    (∃ issues, draftIssues d strict = .ok issues) ↔ (strict = true → d.InitiativeIsReadable) := by
  obtain ⟨stats, hs⟩ : ∃ issues, allStatIssues d strict [] ⟨d.readStats, [], []⟩
      (d.stats.getD []) = .ok issues :=
    exists_allStatIssues h strict h.stats (CycleChecker.serves_new d.readStats)
  obtain ⟨sections, hsections⟩ : ∃ issues, allSectionIssues d strict [] (d.sections.getD []) =
      .ok issues := exists_allSectionIssues d strict h.sections
  have hintegrations : (∃ issues, integrationIssues d.readStats strict d.integrations =
      .ok issues) ↔ (strict = true → d.InitiativeIsReadable) :=
    exists_integrationIssues_iff h.integrations
  rw [← hintegrations]
  simp only [draftIssues, hs, hsections, bind, Except.bind]
  cases integrationIssues d.readStats strict d.integrations with
  | ok issues => exact iff_of_true ⟨_, rfl⟩ ⟨issues, rfl⟩
  | error e => simp

end Validation
end CharacterSheet
