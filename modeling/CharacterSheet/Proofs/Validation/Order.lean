import CharacterSheet.Preview
import CharacterSheet.Proofs.Editing.Acyclicity
import CharacterSheet.Proofs.Validation.RoundTrip
import Mathlib.Data.Multiset.Basic

/-!
# The order of stats

Stats with distinct ids are found by their ids wherever they stand in the list, and what the
checker of cycles remembers of some stats never bears on what is found for others. So every stat
has issues of its own, which depend on its place only in their paths. Main statement: a schema whose
stats have changed places reports the same issues, paths apart, and is previewed alike.
-/

namespace CharacterSheet
open Validation

/-- What an issue reports, apart from its place. -/
def Issue.report (i : Issue) : IssueKind × String × Json.Fields :=
  (i.cause.kind, i.cause.message, i.cause.context)

/-- The reports of a schema in no order; nothing when an integer has too many digits. -/
def GameSystem.reports (s : GameSystem) (strict : Bool) :
    Option (Multiset (IssueKind × String × Json.Fields)) :=
  (s.issues strict).toOption.map fun issues ↦ ↑(issues.map Issue.report)

namespace Validation

/-! ### Findings that agree -/

/-- The same is wrong in two lists of issues, in any order and at any places. -/
def Alike (xs ys : List Issue) : Prop := (xs.map Issue.cause).Perm (ys.map Issue.cause)

/-- Two findings come to related results, or both fail. -/
inductive Agree {ε α β : Type} (r : α → β → Prop) : Except ε α → Except ε β → Prop where
  | ok {a : α} {b : β} (h : r a b) : Agree r (.ok a) (.ok b)
  | error (e e' : ε) : Agree r (.error e) (.error e')

namespace Alike
variable {xs ys xs' ys' : List Issue}

protected theorem refl (xs : List Issue) : Alike xs xs := List.Perm.refl _

protected theorem symm (h : Alike xs ys) : Alike ys xs := List.Perm.symm h

protected theorem trans {zs : List Issue} (h : Alike xs ys) (h' : Alike ys zs) : Alike xs zs :=
  List.Perm.trans h h'

protected theorem append (h : Alike xs ys) (h' : Alike xs' ys') :
    Alike (xs ++ xs') (ys ++ ys') := by
  unfold Alike
  rw [List.map_append, List.map_append]
  exact List.Perm.append h h'

/-- One thing is wrong at two places. -/
theorem single (path path' : String) (cause : IssueCause) :
    Alike [⟨path, cause⟩] [⟨path', cause⟩] := List.Perm.refl _

theorem issueIf (condition : Bool) (path path' : String) (cause : IssueCause) :
    Alike (issueIf condition path cause) (issueIf condition path' cause) := by
  cases condition
  · exact .refl _
  · exact single path path' cause

theorem flatMap {α : Type} {f g : α → List Issue} (h : ∀ a, Alike (f a) (g a)) (as : List α) :
    Alike (as.flatMap f) (as.flatMap g) := by
  induction as with
  | nil => exact .refl _
  | cons a as ih =>
    rw [List.flatMap_cons, List.flatMap_cons]
    exact (h a).append ih

theorem mapIdx {α : Type} {f g : Nat → α → List Issue} (h : ∀ i a, Alike (f i a) (g i a))
    (as : List α) : Alike (as.mapIdx f).flatten (as.mapIdx g).flatten := by
  induction as generalizing f g with
  | nil => exact .refl _
  | cons a as ih =>
    rw [List.mapIdx_cons, List.mapIdx_cons, List.flatten_cons, List.flatten_cons]
    exact (h 0 a).append (ih fun i a ↦ h (i + 1) a)

theorem eachWithPrevious {α : Type} {f g : List α → α → List Issue}
    (h : ∀ before a, Alike (f before a) (g before a)) (before as : List α) :
    Alike (eachWithPrevious f before as) (eachWithPrevious g before as) := by
  induction as generalizing before with
  | nil => exact .refl _
  | cons a as ih => exact (h before a).append (ih _)

end Alike

namespace Agree
variable {ε α β γ δ : Type} {r : α → β → Prop} {q : γ → δ → Prop}

/-- Findings that are the same agree. -/
theorem of_eq {r : α → α → Prop} (hr : ∀ a, r a a) {x y : Except ε α} (h : x = y) :
    Agree r x y := by
  subst h
  cases x with
  | ok a => exact .ok (hr a)
  | error e => exact .error e e

/-- Where nothing is looked at, nothing is found. -/
theorem nothing : Agree (ε := ε) Alike (pure []) (pure []) := .ok (.refl [])

theorem bind {x : Except ε α} {y : Except ε β} {f : α → Except ε γ} {g : β → Except ε δ}
    (h : Agree r x y) (hf : ∀ a b, r a b → Agree q (f a) (g b)) : Agree q (x >>= f) (y >>= g) := by
  cases h with
  | ok h => exact hf _ _ h
  | error e e' => exact .error e e'

theorem map {x : Except ε α} {y : Except ε β} {f : α → γ} {g : β → δ} (h : Agree r x y)
    (hf : ∀ a b, r a b → q (f a) (g b)) : Agree q (x.map f) (y.map g) := by
  cases h with
  | ok h => exact .ok (hf _ _ h)
  | error e e' => exact .error e e'

/-- Walks over a list agree when every step does. -/
theorem mapM {f g : γ → Except ε (List Issue)} (h : ∀ a, Agree Alike (f a) (g a)) (as : List γ) :
    Agree (fun xs ys ↦ Alike xs.flatten ys.flatten) (as.mapM f) (as.mapM g) := by
  induction as with
  | nil => exact .ok (.refl _)
  | cons a as ih =>
    rw [List.mapM_cons, List.mapM_cons]
    exact (h a).bind fun xs ys hx ↦ ih.bind fun xss yss hs ↦ .ok (hx.append hs)

theorem symm {x : Except ε α} {y : Except ε β} (h : Agree r x y) :
    Agree (fun b a ↦ r a b) y x := by
  cases h with
  | ok h => exact .ok h
  | error e e' => exact .error e' e

theorem trans {r : α → β → Prop} {q : β → γ → Prop} {s : α → γ → Prop}
    {x : Except ε α} {y : Except ε β} {z : Except ε γ} (h : Agree r x y) (h' : Agree q y z)
    (hs : ∀ a b c, r a b → q b c → s a c) : Agree s x z := by
  cases h with
  | ok h => cases h' with | ok h' => exact .ok (hs _ _ _ h h')
  | error e e' => cases h' with | error _ e'' => exact .error e e''

/-- A walk over a list comes to the same in every order of the list. -/
theorem mapM_perm {as bs : List γ} (f : γ → Except ε (List Issue)) (h : as.Perm bs) :
    Agree (fun xs ys ↦ Alike xs.flatten ys.flatten) (as.mapM f) (bs.mapM f) := by
  induction h with
  | nil => exact .ok (.refl _)
  | cons a h ih =>
    rw [List.mapM_cons, List.mapM_cons]
    exact (of_eq .refl rfl).bind fun xs ys hx ↦ ih.bind fun xss yss hs ↦
      .ok (.append hx hs)
  | swap a b as =>
    simp only [List.mapM_cons]
    cases f a with
    | error e => cases f b <;> exact .error _ _
    | ok xs =>
      cases f b with
      | error e => exact .error _ _
      | ok ys =>
        cases as.mapM f with
        | error e => exact .error _ _
        | ok xss =>
          refine .ok ?_
          simp only [Alike, List.flatten_cons, List.map_append, ← List.append_assoc]
          exact List.perm_append_comm.append_right _
  | trans h h' ih ih' => exact ih.trans ih' fun _ _ _ ↦ .trans

/-- Issues are put into words wherever they are. -/
theorem worded {xs ys : List Issue} (h : Alike xs ys) : Agree Alike (worded xs) (worded ys) := by
  have hw : xs.all Issue.isWritable = ys.all Issue.isWritable := by
    have hp (zs : List Issue) : zs.all Issue.isWritable =
        (zs.map Issue.cause).all fun c ↦ c.integers.all Numeral.isWritable := by
      rw [List.all_map]
      rfl
    rw [hp, hp, List.Perm.all_eq h]
  unfold Validation.worded
  rw [hw]
  split
  · exact .ok h
  · exact .error _ _

end Agree
end Validation

/-! ### Stats that are found alike -/

section
variable {stats others : List Stat} (h : findStat others = findStat stats)
include h

theorem storedFormula?_congr : storedFormula? others = storedFormula? stats := by
  funext id
  rw [storedFormula?, storedFormula?, h]

theorem resolveOptions_congr : resolveOptions others = resolveOptions stats := by
  funext source
  cases source with
  | own options => rfl
  | sharedWith id => rw [resolveOptions, resolveOptions, h]

theorem sampleValue_congr : sampleValue others = sampleValue stats := by
  funext use id
  simp only [sampleValue, Stat.sample, resolveOptions_congr h, h]

/-- Checkers that serve stats that are found alike give the same answers. -/
theorem CycleChecker.Serves.find {c c' : CycleChecker} (hc : c.Serves others)
    (hc' : c'.Serves stats) (id : Int) (formula : String) :
    (c.find id formula).1 = (c'.find id formula).1 ∧ (c.find id formula).2.Serves others ∧
      (c'.find id formula).2.Serves stats := by
  obtain ⟨ha, hn⟩ := hc.answers id formula
  obtain ⟨ha', hn'⟩ := hc'.answers id formula
  refine ⟨?_, hn, hn'⟩
  have hstored : storedFormula? others = storedFormula? stats := storedFormula?_congr h
  rw [ha, ha', findCycle, findCycle]
  unfold CycleChecker.find CycleChecker.isStored
  cases dependencies formula with
  | error e => rfl
  | ok deps => simp only [hstored, Walk.run_congr hstored]

end

namespace Validation

/-! ### Issues of one stat -/

section
variable {stats others : List Stat} (h : findStat others = findStat stats)
include h

theorem alike_valueIssues (path path' what : String) (id : Int) :
    Alike (valueIssues others path what id) (valueIssues stats path' what id) := by
  rw [valueIssues, valueIssues, h]
  cases findStat stats id with
  | none => exact .single path path' _
  | some s => exact .issueIf _ path path' _

theorem agree_textIssues (path path' what text : String) :
    Agree Alike (textIssues others path what text) (textIssues stats path' what text) :=
  (Agree.of_eq (r := Eq) (fun _ ↦ rfl) rfl).map fun ids _ he ↦ by
    subst he
    exact .flatMap (fun id ↦ alike_valueIssues h path path' what (Int.ofNat id)) ids

omit h in
theorem alike_boundIssues (path path' : String) (min max : Option Number) :
    Alike (boundIssues path min max) (boundIssues path' min max) := by
  unfold boundIssues
  split
  · exact .issueIf _ path path' _
  · exact .refl _

omit h in
theorem alike_optionIssues (path path' : String) (before : List EnumOption) (o : EnumOption) :
    Alike (optionIssues path before o) (optionIssues path' before o) :=
  .append (.issueIf ..) (.issueIf ..)

theorem alike_sourceIssues (strict : Bool) (path path' : String) (source : OptionSource) :
    Alike (sourceIssues others strict path source) (sourceIssues stats strict path' source) := by
  cases source with
  | own options =>
    exact .append (.issueIf ..) (.eachWithPrevious (alike_optionIssues path path') [] options)
  | sharedWith id =>
    rw [sourceIssues, sourceIssues, h]
    split
    · exact .refl _
    · cases findStat stats id with
      | none => exact .single ..
      | some s => exact .issueIf ..

theorem agree_formIssues (path path' formula : String) :
    Agree Alike (formIssues others path formula) (formIssues stats path' formula) := by
  rw [formIssues, formIssues, sampleValue_congr h]
  refine (Agree.of_eq (r := Eq) (fun _ ↦ rfl) rfl).map fun expression _ he ↦ ?_
  subst he
  cases Arithmetic.checkForm expression with
  | none => exact .refl _
  | some error => exact .single ..

/-- What is found for a formula does not depend on what was found before. -/
theorem agree_formulaIssues (strict : Bool) (path path' : String) (id : Int) (formula : String)
    {c c' : CycleChecker} (hc : c.Serves others) (hc' : c'.Serves stats) :
    Agree (fun p q ↦ Alike p.1 q.1 ∧ p.2.Serves others ∧ q.2.Serves stats)
      (formulaIssues others strict path id formula c)
      (formulaIssues stats strict path' id formula c') := by
  obtain ⟨ha, hn, hn'⟩ := hc.find h hc' id formula
  unfold formulaIssues
  split
  · exact .ok ⟨.single .., hc, hc'⟩
  · simp only [ha]
    refine (Agree.of_eq (r := Eq) (fun _ ↦ rfl) rfl).bind fun answer _ he ↦ ?_
    subst he
    have hcycle : Alike (answer.map fun p ↦ (⟨path ++ ".formula", .cycle p⟩ : Issue)).toList
        (answer.map fun p ↦ (⟨path' ++ ".formula", .cycle p⟩ : Issue)).toList := by
      cases answer with
      | none => exact .refl _
      | some p => exact .single ..
    refine (Agree.worded hcycle).bind fun cycles cycles' h₁ ↦ ?_
    refine (agree_textIssues h ..).bind fun references references' h₂ ↦ ?_
    split
    · exact (agree_formIssues h ..).bind fun _ _ h₃ ↦ .ok ⟨(h₁.append h₂).append h₃, hn, hn'⟩
    · exact Agree.nothing.bind fun _ _ h₃ ↦ .ok ⟨(h₁.append h₂).append h₃, hn, hn'⟩

theorem agree_detailIssues (strict : Bool) (path path' : String) (s : Stat)
    {c c' : CycleChecker} (hc : c.Serves others) (hc' : c'.Serves stats) :
    Agree (fun p q ↦ Alike p.1 q.1 ∧ p.2.Serves others ∧ q.2.Serves stats)
      (detailIssues others strict path s c) (detailIssues stats strict path' s c') := by
  unfold detailIssues
  cases s.detail with
  | numeric min max rolls =>
    exact (Agree.worded (alike_boundIssues ..)).map fun _ _ ha ↦ ⟨ha, hc, hc'⟩
  | enumeration source rolls =>
    exact (Agree.worded (alike_sourceIssues h ..)).map fun _ _ ha ↦ ⟨ha, hc, hc'⟩
  | calculated formula rolls => exact agree_formulaIssues h strict path path' s.id formula hc hc'
  | boolean rolls => exact .ok ⟨.refl _, hc, hc'⟩
  | text low high => exact .ok ⟨.refl _, hc, hc'⟩

theorem agree_diceIssues (path path' : String) (d : Dice) :
    Agree Alike (diceIssues others path d) (diceIssues stats path' d) := by
  unfold diceIssues
  refine (agree_textIssues h ..).bind fun _ _ h₁ ↦ ?_
  cases d.condition with
  | none => exact .ok h₁
  | some c =>
    refine (agree_textIssues h ..).bind fun _ _ h₂ ↦ ?_
    exact (agree_textIssues h ..).bind fun _ _ h₃ ↦ .ok ((h₁.append h₂).append h₃)

theorem alike_replacementOptionIssues (path path' : String) (id : Int) :
    Alike (replacementOptionIssues others path id) (replacementOptionIssues stats path' id) := by
  rw [replacementOptionIssues, replacementOptionIssues, h]
  cases findStat stats id with
  | none => exact .single ..
  | some s => exact .issueIf ..

theorem agree_replacementsIssues (path path' : String) (s : Stat) :
    Agree Alike (replacementsIssues others path s) (replacementsIssues stats path' s) := by
  unfold replacementsIssues
  split
  · exact .ok (.refl _)
  · refine (Agree.of_eq (r := Eq) (fun _ ↦ rfl) rfl).bind fun used _ he ↦ ?_
    subst he
    refine Agree.worded (.mapIdx (fun i r ↦ ?_) s.replacements)
    exact .append (.issueIf ..)
      (.mapIdx (fun j id ↦ alike_replacementOptionIssues h _ _ id) r.options)

omit h in
theorem agree_pageIssues (sections : List Int) (path path' what : String) (pages : List Int) :
    Agree Alike (pageIssues sections path what pages) (pageIssues sections path' what pages) :=
  Agree.worded (.flatMap (fun _ ↦ .issueIf ..) pages)

theorem agree_strictStatIssues (sections : List Int) (path path' : String) (s : Stat) :
    Agree Alike (strictStatIssues others sections path s)
      (strictStatIssues stats sections path' s) := by
  unfold strictStatIssues
  have hdice (e : Nat × Dice) := agree_diceIssues h (path ++ ".dices[" ++ toString e.1 ++ "]")
    (path' ++ ".dices[" ++ toString e.1 ++ "]") e.2
  refine (Agree.mapM hdice _).bind fun _ _ h₁ ↦ ?_
  refine (agree_replacementsIssues h ..).bind fun _ _ h₂ ↦ ?_
  exact (agree_pageIssues ..).bind fun _ _ h₃ ↦ .ok ((h₁.append h₂).append h₃)

end

section
variable {d d' : Draft} (h : findStat d'.readStats = findStat d.readStats)
  (hs : d'.sectionIds = d.sectionIds) (strict : Bool)
include h hs

/-- A stat has the same issues at every place of the list, paths apart. -/
theorem agree_statIssues (path path' : String) (s : Stat) {c c' : CycleChecker}
    (hc : c.Serves d'.readStats) (hc' : c'.Serves d.readStats) :
    Agree (fun p q ↦ Alike p.1 q.1 ∧ p.2.Serves d'.readStats ∧ q.2.Serves d.readStats)
      (statIssues d' strict path s c) (statIssues d strict path' s c') := by
  unfold statIssues
  refine (agree_detailIssues h strict path path' s hc hc').bind ?_
  rintro ⟨detail, c⟩ ⟨detail', c'⟩ ⟨h₂, hc, hc'⟩
  have h₁ := Alike.issueIf s.name.default.isEmpty (path ++ ".name.default")
    (path' ++ ".name.default") (.required "name.default")
  rw [hs]
  dsimp only
  split
  · exact (agree_strictStatIssues h ..).bind fun _ _ h₃ ↦ .ok ⟨(h₁.append h₂).append h₃, hc, hc'⟩
  · exact Agree.nothing.bind fun _ _ h₃ ↦ .ok ⟨(h₁.append h₂).append h₃, hc, hc'⟩

end

/-! ### Issues of schemas -/

/-- The issues that a stat has whatever stands before it, with paths from the stat. -/
def ownIssues (d : Draft) (strict : Bool) (s : Stat) : Findings :=
  (statIssues d strict "" s ⟨d.readStats, [], []⟩).map Prod.fst

theorem duplicateIssues_eq_nil {collection : String} {before : List (Option Int)} {id : Int}
    (h : some id ∉ before) : duplicateIssues collection before (some id) = [] := by
  rw [duplicateIssues, List.idxOf?_eq_none_iff.mpr h]

section
variable {d d' : Draft} (h : findStat d'.readStats = findStat d.readStats)
  (hs : d'.sectionIds = d.sectionIds) (strict : Bool)
include h hs

/-- Stats with distinct ids have the issues that each of them has on its own. -/
theorem agree_allStatIssues {stats : List Stat} (hd : (stats.map (·.id)).Nodup)
    {before : List (Option Int)} (hb : ∀ s ∈ stats, some s.id ∉ before) {c : CycleChecker}
    (hc : c.Serves d'.readStats) :
    Agree (fun xs yss ↦ Alike xs yss.flatten)
      (allStatIssues d' strict before c (stats.map (Entry.ofItem Stat.id)))
      (stats.mapM (ownIssues d strict)) := by
  induction stats generalizing before c with
  | nil => exact .ok (.refl [])
  | cons s stats ih =>
    obtain ⟨hs', hd'⟩ := List.nodup_cons.mp hd
    obtain ⟨hb', hbs⟩ := List.forall_mem_cons.mp hb
    have hnext : ∀ t ∈ stats, some t.id ∉ before ++ [some s.id] := by
      intro t ht hm
      rcases List.mem_append.mp hm with hm | hm
      · exact hbs t ht hm
      · have hid : t.id = s.id := Option.some.inj (List.mem_singleton.mp hm)
        exact hs' (List.mem_map.mpr ⟨t, ht, hid⟩)
    rw [List.map_cons, allStatIssues_cons, duplicateIssues_eq_nil hb', List.mapM_cons, ownIssues]
    have hown := agree_statIssues h hs strict (itemPath "stats" before.length) "" s hc
      (CycleChecker.serves_new d.readStats)
    generalize statIssues d' strict _ s c = found at hown
    generalize statIssues d strict "" s _ = own at hown
    cases hown with
    | error e e' => exact .error e e'
    | @ok p q hp =>
      refine (ih hd' hnext hp.2.1).bind fun xs yss hx ↦ .ok ?_
      exact hp.1.append hx

theorem allSectionIssues_congr (before : List (Option Int)) (es : List (Entry SheetSection)) :
    allSectionIssues d' strict before es = allSectionIssues d strict before es := by
  have hown (path : String) (s : SheetSection) :
      sectionIssues d' strict path s = sectionIssues d strict path s := by
    have hp : previewIssues d'.readStats = previewIssues d.readStats := by
      funext sections path token
      cases token with
      | expression kind body => rfl
      | reference r => rw [previewIssues, previewIssues, h]
    simp only [sectionIssues, strictSectionIssues, hp, hs]
  induction es generalizing before with
  | nil => rfl
  | cons e es ih => simp only [allSectionIssues, hown, ih]

omit hs in
theorem integrationIssues_congr (found : Checked (Option Integrations)) :
    integrationIssues d'.readStats strict found = integrationIssues d.readStats strict found := by
  have ht : textIssues d'.readStats = textIssues d.readStats := by
    funext path what text
    simp only [textIssues, valueIssues, h]
  have hi : strictIntegrationIssues d'.readStats = strictIntegrationIssues d.readStats := by
    funext i
    simp only [strictIntegrationIssues, ht, initiativeIssues, authorizedIssues, h]
  unfold integrationIssues
  rw [hi]

end

end Validation

section
variable {s : GameSystem} {stats : List Stat} (hd : s.HasDistinctIds) (hp : stats.Perm s.stats)
include hd hp

/-- A schema has the same issues when stats with distinct ids change places, paths apart. -/
theorem GameSystem.agree_issues (strict : Bool) :
    Agree Alike (({ s with stats } : GameSystem).issues strict) (s.issues strict) := by
  let d := Draft.ofSystem s
  let d' := Draft.ofSystem { s with stats }
  have hr : d.readStats = s.stats := Draft.readStats_ofSystem s
  have hr' : d'.readStats = stats := Draft.readStats_ofSystem { s with stats }
  have h : findStat d'.readStats = findStat d.readStats := by rw [hr, hr', findStat_perm hp hd]
  have hs : d'.sectionIds = d.sectionIds := rfl
  have hd' : (stats.map (·.id)).Nodup := (hp.map _).nodup_iff.mpr hd
  have hnone (ss : List Stat) : ∀ s ∈ ss, some s.id ∉ ([] : List (Option Int)) := by simp
  have hnew := agree_allStatIssues h hs strict hd' (hnone stats)
    (CycleChecker.serves_new d'.readStats)
  have hold := agree_allStatIssues (d := d) rfl rfl strict hd (hnone s.stats)
    (CycleChecker.serves_new d.readStats)
  -- both lists of stats come to what their stats have on their own
  have hmoved : Agree (fun xs yss ↦ Alike xs yss.flatten)
      (allStatIssues d' strict [] ⟨d'.readStats, [], []⟩ (stats.map (Entry.ofItem Stat.id)))
      (s.stats.mapM (ownIssues d strict)) :=
    hnew.trans (.mapM_perm _ hp) fun _ _ _ ↦ .trans
  have hstats : Agree Alike
      (allStatIssues d' strict [] ⟨d'.readStats, [], []⟩ (stats.map (Entry.ofItem Stat.id)))
      (allStatIssues d strict [] ⟨d.readStats, [], []⟩ (s.stats.map (Entry.ofItem Stat.id))) :=
    hmoved.trans hold.symm fun _ _ _ ha hb ↦ ha.trans hb.symm
  refine hstats.bind fun xs ys hx ↦ ?_
  rw [allSectionIssues_congr h hs, integrationIssues_congr h]
  refine (Agree.of_eq (r := Eq) (fun _ ↦ rfl) rfl).bind fun sections _ hsec ↦ ?_
  refine (Agree.of_eq (r := Eq) (fun _ ↦ rfl) rfl).bind fun integrations _ hint ↦ ?_
  subst hsec hint
  exact .ok (((Alike.append (.refl _) hx).append (.refl _)).append (.refl _))

/-- What is reported of a schema does not depend on the order of its stats. -/
theorem GameSystem.reports_perm (strict : Bool) :
    ({ s with stats } : GameSystem).reports strict = s.reports strict := by
  have h := agree_issues hd hp strict
  unfold reports
  generalize ({ s with stats } : GameSystem).issues strict = found at h
  generalize s.issues strict = found' at h
  cases h with
  | error e e' => rfl
  | @ok xs ys h =>
    have hr (zs : List Issue) : zs.map Issue.report =
        (zs.map Issue.cause).map fun c ↦ (c.kind, c.message, c.context) := by
      rw [List.map_map]
      rfl
    simp only [Except.toOption, Option.map_some, Option.some.injEq, Multiset.coe_eq_coe]
    rw [hr, hr]
    exact h.map _

end

/-! ### Previews -/

namespace Preview
variable {m : Type → Type}

/-- The same previews of a system with other stats. -/
def withStats (p : Preview m) (stats : List Stat) : Preview m :=
  { p with system := { p.system with stats } }

section
variable {p : Preview m} {stats : List Stat} (h : findStat stats = findStat p.system.stats)
include h

theorem reference_congr : (p.withStats stats).reference = p.reference := by
  have hshown : (p.withStats stats).shownValue = p.shownValue := by
    funext s
    unfold shownValue
    rw [withStats]
    simp only [resolveOptions_congr h]
    rfl
  have hstat : (p.withStats stats).statProperty = p.statProperty := by
    funext id word
    unfold statProperty
    rw [hshown, withStats]
    simp only [h]
    rfl
  funext r
  unfold reference property
  rw [hstat]
  rfl

theorem payload_congr : (p.withStats stats).payload = p.payload := by
  funext use body
  unfold payload
  rw [reference_congr h, withStats]
  simp only [sampleValue_congr h]

/-- A preview shows the same for stats that are found alike. -/
theorem render_congr [Monad m] : (p.withStats stats).render = p.render := by
  have htoken : (p.withStats stats).token = p.token := by
    funext t
    cases t with
    | reference r => rw [token, token, reference_congr h]
    | expression kind body =>
      cases kind with
      | math => simp only [token, math, payload_congr h]; rfl
      | dice => simp only [token, dice, payload_congr h]; rfl
  have hsegment : (p.withStats stats).segment = p.segment := by
    funext s
    cases s with
    | literal text => rfl
    | token t source => rw [segment, segment, htoken]
  funext text
  rw [render, render, hsegment]

end

end Preview

/-! ### Main statement -/

/-- A schema with distinct ids whose stats have changed places reports the same issues, paths apart,
and every text is previewed as before. Moving a stat does nothing else. -/
theorem GameSystem.order_of_stats {s : GameSystem} {stats : List Stat} (hd : s.HasDistinctIds)
    (hp : stats.Perm s.stats) :
    (∀ strict, ({ s with stats } : GameSystem).reports strict = s.reports strict) ∧
      (∀ {m : Type → Type} [Monad m] (p : Preview m), p.system = s →
        (p.withStats stats).render = p.render) ∧
      ∀ index steps, ∃ moved : List Stat,
        moved.Perm s.stats ∧ s.moveStat index steps = { s with stats := moved } := by
  refine ⟨reports_perm hd hp, fun p hs ↦ ?_, fun index steps ↦ ?_⟩
  · subst hs
    exact Preview.render_congr (findStat_perm hp hd)
  · exact ⟨_, moveItem_perm index steps s.stats, rfl⟩

/-- A stat with its bounds the wrong way round, and one that shares the options of the first, which
has none. -/
def unsound : GameSystem where
  stats := [
    { id := 1, name := { default := "A" },
      detail := .numeric (some (.int 2)) (some (.int 1)) {} },
    { id := 2, name := { default := "B" }, detail := .enumeration (.sharedWith 1) {} }]

/-- The two stats are reported in either order. -/
theorem GameSystem.order_of_stats_unsound :
    unsound.HasDistinctIds ∧ unsound.stats.reverse.Perm unsound.stats ∧
      (∀ strict, ({ unsound with stats := unsound.stats.reverse } : GameSystem).reports strict =
        unsound.reports strict) ∧
      (unsound.issues true).toOption.map (List.map Issue.line) =
        some ["config.id: config.id is required",
          "config.name.default: config.name.default is required",
          "stats[0]: min > max (2 > 1)",
          "stats[1].options: options must reference an enum with its own options: 1"] := by
  have hd : unsound.HasDistinctIds := by decide
  have hp : unsound.stats.reverse.Perm unsound.stats := List.reverse_perm _
  exact ⟨hd, hp, (order_of_stats hd hp).1, by decide +kernel⟩

end CharacterSheet
