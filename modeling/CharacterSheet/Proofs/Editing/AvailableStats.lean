import CharacterSheet.Proofs.Editing.FormulaEdits
import CharacterSheet.Proofs.Schema.Reading
import CharacterSheet.Proofs.Token.Rerendering
import CharacterSheet.Proofs.Validation.Clean

/-!
# Stats for a formula

A stat is offered for a formula after the formula was tried with one more reference, to that stat.
The formula may end within a token, but the reference stands behind a blank, which no reference
has, so that the formula then asks for what it asked for before and for that stat. The graph of
formulas gets one more edge, and a graph without cycles gets one by it exactly when the stat depends
on where the edge starts. Main statement: the stats that are offered are those that do not depend on
the stat with the formula, and for these the longer formula can be set.
-/

namespace CharacterSheet

open Relation Mention

/-! ### One more reference -/

/-- A formula to which the value of a stat is added. -/
def addingValue (formula : String) (id : Int) : String :=
  formula ++ " + <stat:" ++ toString id ++ ":value>"

section
variable {formula : String} {n : Nat}

theorem toList_addingValue :
    (addingValue formula n).toList =
      formula.toList ++ ' ' :: (['+'] ++ ' ' :: (Reference.mention ⟨.stat, n, .value⟩).source) := by
  have hid : (toString (n : Int)).toList = Nat.toDigits 10 n := Nat.toList_repr
  simp only [addingValue, String.toList_append, hid, Reference.mention, source, opening, closing]
  simp [Subject.word, Property.word]

/-- The mentions in the longer formula are those of the formula and the one that is added. -/
theorem occursIn_addingValue_iff {m : Mention} :
    m.OccursIn (addingValue formula n).toList ↔
      m.OccursIn formula.toList ∨ m = Reference.mention ⟨.stat, n, .value⟩ := by
  have hblank : IsForeign ' ' := isForeign_of_mem (by decide)
  have hplus : ¬ m.OccursIn ['+'] := by
    rw [← mem_readAll_iff, readAll_cons (read?_of_ne (by decide) []), readAll_nil]
    exact List.not_mem_nil
  have hadded : m.OccursIn (Reference.mention ⟨.stat, n, .value⟩).source ↔
      m = Reference.mention ⟨.stat, n, .value⟩ := by
    have hread := read?_source (Reference.isProper_mention ⟨.stat, n, .value⟩) []
    rw [List.append_nil] at hread
    rw [← mem_readAll_iff, readAll_of_read? hread, readAll_nil, List.mem_singleton]
  rw [toList_addingValue, occursIn_append_cons_iff hblank, occursIn_append_cons_iff hblank, hadded]
  simp [hplus]

/-- The longer formula asks for what the formula asks for, and for the stat that is added. -/
theorem asksFor_addingValue_iff {id : Int} :
    AsksFor (addingValue formula n) id ↔ AsksFor formula id ∨ id = n := by
  have hvalue : Text.digitsValue (Nat.toDigits 10 n) = n := Text.digitsValue_toDigits n
  constructor
  · rintro ⟨m, hm, hv, hid⟩
    rcases occursIn_addingValue_iff.mp hm with h | rfl
    · exact .inl ⟨m, h, hv, hid⟩
    · right
      rw [← hid, Reference.mention, hvalue]
  · rintro (⟨m, hm, hv, hid⟩ | rfl)
    · exact ⟨m, occursIn_addingValue_iff.mpr (.inl hm), hv, hid⟩
    · refine ⟨_, occursIn_addingValue_iff.mpr (.inr rfl), rfl, ?_⟩
      rw [Reference.mention, hvalue]

theorem readableIds_addingValue (hf : ReadableIds formula)
    (hw : Numeral.isWritable n = true) : ReadableIds (addingValue formula n) := by
  intro m hm
  rcases occursIn_addingValue_iff.mp hm with h | rfl
  · exact hf m h
  · exact (Nat.length_toDigits_le_iff (by decide) (by decide)).mpr (of_decide_eq_true hw)

end

/-! ### One more edge -/

section
variable {r q : Int → Int → Prop} {start stop : Int}
  (h : ∀ a b, r a b ↔ q a b ∨ (a = start ∧ b = stop))
include h

/-- A way in a graph with one more edge is an old one, or there are old ways to the edge and on
from it. -/
theorem transGen_or_by_edge {a b : Int} (hr : TransGen r a b) :
    TransGen q a b ∨ (ReflTransGen q a start ∧ ReflTransGen q stop b) := by
  induction hr with
  | single hab =>
    rcases (h _ _).mp hab with hq | ⟨rfl, rfl⟩
    · exact .inl (.single hq)
    · exact .inr ⟨.refl, .refl⟩
  | tail _ hbc ih =>
    rcases (h _ _).mp hbc with hq | ⟨rfl, rfl⟩
    · rcases ih with hold | ⟨hto, hfrom⟩
      · exact .inl (hold.tail hq)
      · exact .inr ⟨hto, hfrom.tail hq⟩
    · rcases ih with hold | ⟨hto, -⟩
      · exact .inr ⟨hold.to_reflTransGen, .refl⟩
      · exact .inr ⟨hto, .refl⟩

/-- One more edge closes a cycle in a graph without cycles exactly when it leads back. -/
theorem reachesCycle_by_edge_iff (hc : ∀ v, ¬ TransGen q v v) :
    ReachesCycle r start ↔ ReflTransGen q stop start := by
  constructor
  · rintro ⟨v, -, hv⟩
    rcases transGen_or_by_edge h hv with hold | ⟨hto, hfrom⟩
    · exact absurd hold (hc v)
    · exact hfrom.trans hto
  · intro hback
    have hold : ReflTransGen r stop start :=
      ReflTransGen.mono (fun a b hq ↦ (h a b).mpr (.inl hq)) _ _ hback
    exact ⟨start, .refl, .head' ((h _ _).mpr (.inr ⟨rfl, rfl⟩)) hold⟩

end

/-! ### The graph of formulas -/

/-- One id leads to another in a graph that is given by the dependencies of each id. -/
def Leads (graph : List (Int × List Int)) (a b : Int) : Prop := ∃ deps, (a, deps) ∈ graph ∧ b ∈ deps

section
variable {stats : List Stat} {graph : List (Int × List Int)}

/-- Nothing is left out where no id occurs twice. -/
theorem foldl_of_nodup {rest seen : List (Stat × String)}
    (h : ((seen ++ rest).map (·.1.id)).Nodup) :
    rest.foldl (fun seen (s, f) ↦
      if seen.any (·.1.id == s.id) then seen else seen ++ [(s, f)]) seen = seen ++ rest := by
  induction rest generalizing seen with
  | nil => exact (List.append_nil seen).symm
  | cons p rest ih =>
    obtain ⟨s, f⟩ := p
    have hnew : ¬ seen.any (·.1.id == s.id) = true := by
      intro hany
      obtain ⟨other, hm, he⟩ := List.any_eq_true.mp hany
      rw [List.map_append, List.map_cons] at h
      exact List.disjoint_of_nodup_append h (List.mem_map_of_mem hm) (by simp [beq_iff_eq.mp he])
    rw [List.foldl_cons]
    dsimp only
    rw [if_neg hnew, ih (by simpa using h), List.append_assoc]
    rfl

theorem distinctCalculated_of_nodup (hd : (stats.map (·.id)).Nodup) :
    distinctCalculated stats = stats.filterMap fun s ↦ s.formula?.map fun f ↦ (s, f) := by
  have hfold := @foldl_of_nodup (stats.filterMap fun s ↦ s.formula?.map fun f ↦ (s, f)) []
  refine hfold ?_
  rw [List.nil_append]
  refine List.Pairwise.map _ (fun _ _ ↦ id) (List.Pairwise.filterMap _ ?_ (List.pairwise_map.mp hd))
  rintro s t hne _ hs _ ht
  obtain ⟨_, -, rfl⟩ := Option.map_eq_some_iff.mp hs
  obtain ⟨_, -, rfl⟩ := Option.map_eq_some_iff.mp ht
  exact hne

theorem mem_distinctCalculated_iff (hd : (stats.map (·.id)).Nodup) {s : Stat} {f : String} :
    (s, f) ∈ distinctCalculated stats ↔ s ∈ stats ∧ s.formula? = some f := by
  simp [distinctCalculated_of_nodup hd, Option.map_eq_some_iff]

variable (hd : (stats.map (·.id)).Nodup) (hg : dependencyGraph stats = .ok graph)
include hd hg

/-- The graph lists what the formula of each calculated stat depends on. -/
theorem mem_dependencyGraph_iff {id : Int} {deps : List Int} :
    (id, deps) ∈ graph ↔
      ∃ f, storedFormula? stats id = some f ∧ dependencies f = .ok deps := by
  have hall := forall₂_of_mapM hg
  constructor
  · intro hm
    obtain ⟨⟨s, f⟩, hs, he⟩ := Checked.exists_mem_of_forall₂ hall hm
    obtain ⟨deps', hdeps, he⟩ := Json.Bounded.exists_of_map_eq_ok he
    obtain ⟨rfl, rfl⟩ := Prod.mk.inj he
    obtain ⟨hs, hf⟩ := (mem_distinctCalculated_iff hd).mp hs
    exact ⟨f, (storedFormula?_eq_some_iff hd).mpr ⟨s, hs, rfl, hf⟩, hdeps⟩
  · rintro ⟨f, hf, hdeps⟩
    obtain ⟨s, hs, rfl, hsf⟩ := (storedFormula?_eq_some_iff hd).mp hf
    obtain ⟨entry, hm, he⟩ := Checked.exists_mem_of_forall₂ hall.flip
      ((mem_distinctCalculated_iff hd).mpr ⟨hs, hsf⟩)
    simp only [hdeps] at he
    cases he
    exact hm

/-- Where the graph was made, the ids in all formulas could be read. -/
theorem readableFormulas_of_dependencyGraph {f : String} {s : Stat} (hm : s ∈ stats)
    (hf : s.formula? = some f) : ReadableIds f := by
  obtain ⟨entry, -, he⟩ := Checked.exists_mem_of_forall₂ (forall₂_of_mapM hg).flip
    ((mem_distinctCalculated_iff hd).mpr ⟨hm, hf⟩)
  obtain ⟨deps, hdeps, -⟩ := Json.Bounded.exists_of_map_eq_ok he
  exact readableIds_of_dependencies hdeps

/-- Along the graph an id leads to those whose values its formula asks for. -/
theorem leads_eq : Leads graph = DependsOn (storedFormula? stats) := by
  funext a b
  refine propext ⟨?_, ?_⟩
  · rintro ⟨deps, hm, hb⟩
    obtain ⟨f, hf, hdeps⟩ := (mem_dependencyGraph_iff hd hg).mp hm
    exact ⟨f, hf, (mem_dependencies_iff hdeps b).mp hb⟩
  · rintro ⟨f, hf, hb⟩
    obtain ⟨s, hs, -, hsf⟩ := (storedFormula?_eq_some_iff hd).mp hf
    obtain ⟨deps, hdeps, -, hm⟩ :=
      exists_dependencies (readableFormulas_of_dependencyGraph hd hg hs hsf)
    exact ⟨deps, (mem_dependencyGraph_iff hd hg).mpr ⟨f, hf, hdeps⟩, (hm b).mpr hb⟩

end

/-- A stat may join the formula of the stat with an id: it is another one, no text, and there is no
way from it to that stat in the graph. -/
def Stat.MayJoin (stat : Stat) (graph : List (Int × List Int)) (id : Int) : Prop :=
  stat.id ≠ id ∧ stat.isText = false ∧ ¬ TransGen (Leads graph) stat.id id

/-! ### Trying a formula -/

section
variable {s : GameSystem} {id : Int} {formula : String} {stat : Stat}
  (hcalc : stat.isCalculated = true) (hne : stat.id ≠ id)
include hcalc hne

/-- A calculated stat is tried with one more reference, to it, where its id can be written. -/
theorem isAvailable_of_isCalculated : s.isAvailable id formula stat =
    if Numeral.isWritable stat.id then
      (findCycle s.stats id (addingValue formula stat.id)).map Option.isNone
    else .error .tooLargeToWrite := by
  have ht : stat.isText = false := by
    obtain ⟨f, hf⟩ := Option.isSome_iff_exists.mp hcalc
    obtain ⟨rolls, hd⟩ := Stat.detail_of_formula? hf
    simp [Stat.isText, Stat.kind, hd]
  rw [GameSystem.isAvailable, if_neg (by simp [hne, ht]), if_pos hcalc, Numeral.writeInteger]
  split
  · change (findCycle s.stats id (addingValue formula stat.id)).bind _ = _
    cases findCycle s.stats id (addingValue formula stat.id) <;> rfl
  · rfl

theorem isAvailable_eq_error (hw : Numeral.isWritable stat.id = false) :
    s.isAvailable id formula stat = .error .tooLargeToWrite := by
  rw [isAvailable_of_isCalculated hcalc hne, if_neg (by simp [hw])]

end

section
variable {s : GameSystem} {graph : List (Int × List Int)} (hd : s.HasDistinctIds)
  (hg : dependencyGraph s.stats = .ok graph)
include hd hg

/-- The formula that is tried adds one edge to the graph. -/
theorem dependsWith_addingValue_iff {id : Int} {n : Nat} (a b : Int) :
    s.DependsWith id (addingValue ((storedFormula? s.stats id).getD "") n) a b ↔
      Leads graph a b ∨ (a = id ∧ b = n) := by
  rw [leads_eq hd hg, GameSystem.DependsWith, DependsOn, DependsOn]
  by_cases ha : a = id
  · subst ha
    simp only [formulaAt_target, Option.some.injEq, exists_eq_left', asksFor_addingValue_iff,
      true_and]
    cases storedFormula? s.stats a with
    | none => simp [not_asksFor_empty]
    | some f => simp
  · simp [formulaAt_of_ne ha, ha]

/-- The ids in the formula that is tried can be read before the stat is added. -/
theorem readableIds_getD_storedFormula? (id : Int) :
    ReadableIds ((storedFormula? s.stats id).getD "") := by
  cases hf : storedFormula? s.stats id with
  | none => exact readableIds_of_length_le (by decide)
  | some f =>
    obtain ⟨stat, hm, -, hs⟩ := (storedFormula?_eq_some_iff hd).mp hf
    exact readableFormulas_of_dependencyGraph hd hg hm hs

variable (hc : ∀ v, ¬ TransGen (Leads graph) v v)
include hc

/-- The formula that is tried leads to a cycle exactly when the stat that is added depends on the
one with the formula. -/
theorem reachesCycle_addingValue_iff {id : Int} {n : Nat} (hne : (n : Int) ≠ id) :
    ReachesCycle (s.DependsWith id (addingValue ((storedFormula? s.stats id).getD "") n)) id ↔
      TransGen (Leads graph) n id := by
  rw [reachesCycle_by_edge_iff (dependsWith_addingValue_iff hd hg) hc,
    reflTransGen_iff_eq_or_transGen]
  exact or_iff_right hne.symm

/-- A trial finds no cycle exactly when the stat that is added does not depend on the one with the
formula. -/
theorem exists_findCycle_addingValue {id : Int} {n : Nat} (hne : (n : Int) ≠ id)
    (hw : Numeral.isWritable n = true) :
    ∃ cycle,
      findCycle s.stats id (addingValue ((storedFormula? s.stats id).getD "") n) = .ok cycle ∧
      (cycle.isNone = true ↔ ¬ TransGen (Leads graph) n id) := by
  have hread : ReadableFormulas (formulaAt s.stats id
      (addingValue ((storedFormula? s.stats id).getD "") n)) :=
    readableFormulas_formulaAt
      (readableIds_addingValue (readableIds_getD_storedFormula? hd hg id) hw)
      fun stat hm f hf ↦ readableFormulas_of_dependencyGraph hd hg hm hf
  rw [← reachesCycle_addingValue_iff hd hg hc hne]
  rcases findCycle_cases hread with ⟨hp, hnone⟩ | ⟨path, hp, hl⟩
  · exact ⟨none, hp, iff_of_true rfl hnone⟩
  · exact ⟨some path, hp, iff_of_false (by simp) (not_not_intro hl.reachesCycle)⟩

omit hc in
/-- A stat that is not calculated depends on nothing. -/
theorem not_transGen_of_not_isCalculated {stat : Stat} (hm : stat ∈ s.stats)
    (hcalc : ¬ stat.isCalculated = true) (id : Int) : ¬ TransGen (Leads graph) stat.id id := by
  rw [leads_eq hd hg]
  intro h
  obtain ⟨_, ⟨f, hf, -⟩, -⟩ := TransGen.head'_iff.mp h
  obtain ⟨other, ho, he, hof⟩ := (storedFormula?_eq_some_iff hd).mp hf
  obtain rfl : other = stat := List.inj_on_of_nodup_map hd ho hm he
  exact hcalc (Option.isSome_iff_exists.mpr ⟨f, hof⟩)

open scoped Classical in
/-- Where its id can be written, a stat is found to be available when it is another one, no text,
and does not depend on the stat with the formula. -/
theorem isAvailable_eq_ok {id : Int} {stat : Stat} (hm : stat ∈ s.stats) (hn : 0 ≤ stat.id)
    (hw : stat.isCalculated = true → stat.id ≠ id → Numeral.isWritable stat.id = true) :
    s.isAvailable id ((storedFormula? s.stats id).getD "") stat =
      .ok (decide (stat.MayJoin graph id)) := by
  by_cases hout : stat.id = id ∨ stat.isText = true
  · rw [GameSystem.isAvailable, if_pos (by simpa using hout), decide_eq_false]
    rintro ⟨hne, ht, -⟩
    exact hout.elim hne (by simp [ht])
  · obtain ⟨hne, ht⟩ := not_or.mp hout
    have ht : stat.isText = false := by simpa using ht
    by_cases hcalc : stat.isCalculated = true
    · obtain ⟨n, hid⟩ := Int.eq_ofNat_of_zero_le hn
      have hwritable := hw hcalc hne
      obtain ⟨cycle, hcycle, hnone⟩ :=
        exists_findCycle_addingValue hd hg hc (hid ▸ hne) (hid ▸ hwritable)
      rw [isAvailable_of_isCalculated hcalc hne, if_pos hwritable, hid, hcycle]
      have hjoin : stat.MayJoin graph id ↔ cycle.isNone = true := by
        rw [hnone, ← hid]
        exact ⟨(·.2.2), fun h ↦ ⟨hne, ht, h⟩⟩
      exact congrArg Except.ok (by rw [Bool.eq_iff_iff, decide_eq_true_iff, hjoin])
    · rw [GameSystem.isAvailable, if_neg (by simp [hne, ht]), if_neg hcalc, decide_eq_true]
      exact ⟨hne, ht, not_transGen_of_not_isCalculated hd hg hm hcalc id⟩

end

/-! ### Trying all stats -/

section
variable {α ε : Type} {p : α → Except ε Bool}

theorem filterM_eq_ok {keep : α → Bool} {xs : List α} (h : ∀ x ∈ xs, p x = .ok (keep x)) :
    xs.filterM p = .ok (xs.filter keep) := by
  have haux : ∀ kept, xs.filterAuxM p kept = .ok ((xs.filter keep).reverse ++ kept) := by
    induction xs with
    | nil => exact fun _ ↦ rfl
    | cons x xs ih =>
      intro kept
      obtain ⟨hx, hxs⟩ := List.forall_mem_cons.mp h
      simp only [List.filterAuxM, hx]
      refine (ih hxs _).trans ?_
      cases hk : keep x <;> simp [hk]
  rw [List.filterM, haux]
  simp [pure, Except.pure, bind, Except.bind]

theorem filterM_eq_error {e : ε} {xs : List α} (h : ∀ x ∈ xs, (∃ b, p x = .ok b) ∨ p x = .error e)
    (hx : ∃ x ∈ xs, p x = .error e) : xs.filterM p = .error e := by
  have haux : ∀ kept, xs.filterAuxM p kept = .error e := by
    induction xs with
    | nil => simp at hx
    | cons x xs ih =>
      intro kept
      obtain ⟨hfirst, hrest⟩ := List.forall_mem_cons.mp h
      rcases hfirst with ⟨b, hb⟩ | hb
      · have hlater : ∃ x ∈ xs, p x = .error e := by simpa [hb] using hx
        simp only [List.filterAuxM, hb]
        exact ih hrest hlater _
      · simp only [List.filterAuxM, hb]
        rfl
  rw [List.filterM, haux]
  rfl

end

namespace GameSystem

section
variable {s : GameSystem} {graph : List (Int × List Int)} {id : Int} (hd : s.HasDistinctIds)
  (hn : ∀ stat ∈ s.stats, 0 ≤ stat.id) (hg : dependencyGraph s.stats = .ok graph)
  (hc : ∀ v, ¬ TransGen (Leads graph) v v)
include hd hn hg hc

open scoped Classical in
/-- Where the ids of calculated stats can be written, all stats that may join are offered. -/
theorem availableStats_eq_ok (hw : ∀ stat ∈ s.stats, stat.isCalculated = true → stat.id ≠ id →
    Numeral.isWritable stat.id = true) :
    s.availableStats id = .ok (s.stats.filter fun stat ↦ decide (stat.MayJoin graph id)) :=
  filterM_eq_ok fun stat hm ↦ isAvailable_eq_ok hd hg hc hm (hn stat hm) (hw stat hm)

/-- Where the id of another calculated stat cannot be written, there is no list. -/
theorem availableStats_eq_error {stat : Stat} (hm : stat ∈ s.stats)
    (hcalc : stat.isCalculated = true) (hne : stat.id ≠ id)
    (hw : Numeral.isWritable stat.id = false) : s.availableStats id = .error .tooLargeToWrite := by
  refine filterM_eq_error (fun other ho ↦ ?_) ⟨stat, hm, isAvailable_eq_error hcalc hne hw⟩
  by_cases hother : other.isCalculated = true ∧ other.id ≠ id ∧
      Numeral.isWritable other.id = false
  · exact .inr (isAvailable_eq_error hother.1 hother.2.1 hother.2.2)
  · refine .inl ⟨_, isAvailable_eq_ok hd hg hc ho (hn other ho) fun hcalc hne ↦ ?_⟩
    simpa [hcalc, hne] using hother

/-- The value of another stat can be added to a formula exactly when that stat does not depend on
the one with the formula. -/
theorem exists_setFormula_addingValue_iff {formula : String}
    (hf : storedFormula? s.stats id = some formula) {stat : Stat} (hm : stat ∈ s.stats)
    (hne : stat.id ≠ id) (hw : Numeral.isWritable stat.id = true) :
    (∃ next, s.setFormula id (addingValue formula stat.id) = .ok next) ↔
      ¬ TransGen (Leads graph) stat.id id := by
  obtain ⟨target, htarget, hid, htf⟩ := (storedFormula?_eq_some_iff hd).mp hf
  have hfind : findStat s.stats id = some target := (findStat_eq_some_iff hd).mpr ⟨htarget, hid⟩
  have hcalc : target.isCalculated = true := Option.isSome_iff_exists.mpr ⟨formula, htf⟩
  have hr : s.HasReadableFormulas := fun stat hm f hf ↦
    readableFormulas_of_dependencyGraph hd hg hm hf
  obtain ⟨n, hstat⟩ := Int.eq_ofNat_of_zero_le (hn stat hm)
  rw [hstat] at hne hw ⊢
  have hread : ReadableIds (addingValue formula n) :=
    readableIds_addingValue (hr target htarget formula htf) hw
  have hcycle := reachesCycle_addingValue_iff hd hg hc hne
  rw [hf, Option.getD_some] at hcycle
  rw [exists_setFormula_eq_ok_iff hr hread hfind, hcycle]
  exact and_iff_right hcalc

end

open scoped Classical in
/-- The stats that are offered for the formula of a stat are, in order, the other ones that are no
texts and do not depend on it; only that a calculated stat whose id has too many digits cannot be
tried. A stat whose id can be written is offered exactly when the formula with one more reference,
to that stat, can be set. -/
theorem availableStats_exact {s : GameSystem} {graph : List (Int × List Int)}
    (hd : s.HasDistinctIds) (hn : ∀ stat ∈ s.stats, 0 ≤ stat.id)
    (hg : dependencyGraph s.stats = .ok graph) (hc : ∀ v, ¬ TransGen (Leads graph) v v)
    (id : Int) :
    ((∀ stat ∈ s.stats, stat.isCalculated = true → stat.id ≠ id →
        Numeral.isWritable stat.id = true) →
      s.availableStats id = .ok (s.stats.filter fun stat ↦ decide (stat.MayJoin graph id))) ∧
    ((∃ stat ∈ s.stats, stat.isCalculated = true ∧ stat.id ≠ id ∧
        Numeral.isWritable stat.id = false) →
      s.availableStats id = .error .tooLargeToWrite) ∧
    ∀ formula, storedFormula? s.stats id = some formula → ∀ offered,
      s.availableStats id = .ok offered → ∀ stat ∈ s.stats, stat.id ≠ id → stat.isText = false →
      Numeral.isWritable stat.id = true →
        (stat ∈ offered ↔ ∃ next, s.setFormula id (addingValue formula stat.id) = .ok next) := by
  refine ⟨availableStats_eq_ok hd hn hg hc, ?_, ?_⟩
  · rintro ⟨stat, hm, hcalc, hne, hw⟩
    exact availableStats_eq_error hd hn hg hc hm hcalc hne hw
  · intro formula hf offered ho stat hm hne ht hw
    -- a list was returned, so the id of every other calculated stat can be written
    have hwritable : ∀ stat ∈ s.stats, stat.isCalculated = true → stat.id ≠ id →
        Numeral.isWritable stat.id = true := by
      intro other hother hcalc hne
      by_contra hunwritable
      cases ho.symm.trans
        (availableStats_eq_error hd hn hg hc hother hcalc hne (by simpa using hunwritable))
    obtain rfl := Except.ok.inj (ho.symm.trans (availableStats_eq_ok hd hn hg hc hwritable))
    rw [exists_setFormula_addingValue_iff hd hn hg hc hf hm hne hw, List.mem_filter,
      decide_eq_true_iff]
    exact ⟨fun h ↦ h.2.2.2, fun h ↦ ⟨hm, hne, ht, h⟩⟩

open scoped Classical in
/-- Of a stat that depends on the first one, a number and a text, the number is offered, and its
value can be added. -/
theorem availableStats_exact_chain :
    let first : Stat := { id := 1, detail := .calculated "<stat:3:value>" {} }
    let second : Stat := { id := 2, detail := .calculated "<stat:1:value>" {} }
    let number : Stat := { id := 3, detail := .numeric none none {} }
    let text : Stat := { id := 4, detail := .text none none }
    let s : GameSystem := { stats := [first, second, number, text] }
    s.availableStats 1 = .ok [number] ∧
      ∃ next, s.setFormula 1 (addingValue "<stat:3:value>" 3) = .ok next := by
  intro first second number text s
  have hnumber : dependencies "<stat:3:value>" = .ok [3] :=
    dependencies_of_mention (m := ⟨.stat, ['3'], .value⟩) (by decide) rfl (by decide)
  have hfirst : dependencies "<stat:1:value>" = .ok [1] :=
    dependencies_of_mention (m := ⟨.stat, ['1'], .value⟩) (by decide) rfl (by decide)
  have hg : dependencyGraph s.stats = .ok [(1, [3]), (2, [1])] := by
    simp [dependencyGraph, distinctCalculated, s, first, second, number, text, Stat.formula?,
      hnumber, hfirst, Except.map, pure, Except.pure, bind, Except.bind]
  have hleads : ∀ a b, Leads [(1, [3]), (2, [1])] a b → (a = 1 ∧ b = 3) ∨ (a = 2 ∧ b = 1) := by
    rintro a b ⟨deps, hm, hb⟩
    rcases List.mem_pair.mp hm with h | h <;> cases h
    · exact .inl ⟨rfl, List.mem_singleton.mp hb⟩
    · exact .inr ⟨rfl, List.mem_singleton.mp hb⟩
  -- every edge goes to a stat that stands later in 2, 1, 3
  have hways : ∀ a b, TransGen (Leads [(1, [3]), (2, [1])]) a b →
      (a = 1 ∧ b = 3) ∨ (a = 2 ∧ (b = 1 ∨ b = 3)) := by
    intro a b h
    induction h with
    | single hab => have := hleads _ _ hab; omega
    | tail _ hbc ih => have := hleads _ _ hbc; omega
  have hself : ¬ first.MayJoin [(1, [3]), (2, [1])] 1 := fun h ↦ h.1 rfl
  have hsecond : ¬ second.MayJoin [(1, [3]), (2, [1])] 1 :=
    fun h ↦ h.2.2 (.single ⟨[1], .tail _ (.head _), List.mem_singleton.mpr rfl⟩)
  have hthird : number.MayJoin [(1, [3]), (2, [1])] 1 :=
    ⟨by decide, rfl, fun h ↦ by have := hways 3 1 h; omega⟩
  have htext : ¬ text.MayJoin [(1, [3]), (2, [1])] 1 := fun h ↦ absurd h.2.1 (by decide)
  have hd : s.HasDistinctIds := by decide
  obtain ⟨hoffered, -, htaken⟩ := availableStats_exact hd (by decide) hg
    (fun v hv ↦ by have := hways v v hv; omega) 1
  have hone : s.availableStats 1 = .ok [number] := by
    rw [hoffered (by decide +kernel)]
    simp [s, hself, hsecond, hthird, htext]
  refine ⟨hone, ?_⟩
  exact (htaken "<stat:3:value>" rfl _ hone number (by simp [s]) (by decide) rfl
    (by decide +kernel)).mp (by simp)

/-- No list is made where a formula holds an id with too many digits. -/
theorem exists_findCycle_eq_error {stats : List Stat} {id : Int} {formula : String}
    (h : ¬ ReadableIds formula) : ∃ e, findCycle stats id formula = .error e := by
  cases hdeps : dependencies formula with
  | ok deps => exact absurd (readableIds_of_dependencies hdeps) h
  | error e => exact ⟨e, by simp [findCycle, CycleChecker.find, hdeps]⟩

theorem not_readableIds_addingValue {formula : String} {n : Nat}
    (h : ¬ ReadableIds formula ∨ Numeral.isWritable n = false) :
    ¬ ReadableIds (addingValue formula n) := by
  intro hr
  rcases h with hf | hn
  · exact hf fun m hm ↦ hr m (occursIn_addingValue_iff.mpr (.inl hm))
  · have hlength := hr _ (occursIn_addingValue_iff.mpr (.inr rfl))
    have hlt := (Nat.length_toDigits_le_iff (by decide) (by decide)).mp hlength
    rw [Numeral.isWritable, decide_eq_false_iff_not] at hn
    exact hn hlt

/-- Where an id has too many digits, in a stat that would be offered or in a formula, there is no
list at all. -/
theorem no_availableStats_with_long_id :
    let long : Nat := 10 ^ maxDigits
    let s : GameSystem := { stats := [
      { id := 1, detail := .calculated "" {} }, { id := long, detail := .calculated "" {} }] }
    let s' : GameSystem := { stats := [
      { id := 1, detail := .calculated (addingValue "" long) {} },
      { id := 2, detail := .calculated "" {} }] }
    (s.HasDistinctIds ∧ (∀ stat ∈ s.stats, 0 ≤ stat.id) ∧
      ¬ HasFormulaCycle (storedFormula? s.stats) ∧
      s.availableStats 1 = .error .tooLargeToWrite) ∧
    s'.HasDistinctIds ∧ (∀ stat ∈ s'.stats, 0 ≤ stat.id) ∧
      ¬ HasFormulaCycle (storedFormula? s'.stats) ∧ ∃ e, s'.availableStats 1 = .error e := by
  intro long s s'
  have hne : (long : Int) ≠ 1 := by decide +kernel
  have hw : Numeral.isWritable long = false := by decide +kernel
  have hd : s.HasDistinctIds := by
    change [1, (long : Int)].Nodup
    exact List.nodup_cons.mpr ⟨fun hm ↦ hne (List.mem_singleton.mp hm).symm, List.nodup_singleton _⟩
  have hd' : s'.HasDistinctIds := by decide
  refine ⟨⟨hd, ?_, ?_, ?_⟩, hd', by decide, ?_, ?_⟩
  · intro stat hm
    rcases List.mem_pair.mp hm with rfl | rfl
    · exact Int.one_nonneg
    · exact Int.natCast_nonneg long
  · rintro ⟨id, h⟩
    obtain ⟨_, ⟨f, hf, hask⟩, -⟩ := TransGen.head'_iff.mp h
    obtain ⟨stat, hm, -, hsf⟩ := (storedFormula?_eq_some_iff hd).mp hf
    rcases List.mem_pair.mp hm with rfl | rfl <;>
      obtain rfl := Option.some.inj hsf <;> exact not_asksFor_empty _ hask
  · have hlong : s.isAvailable 1 "" { id := long, detail := .calculated "" {} } =
        .error .tooLargeToWrite := isAvailable_eq_error rfl hne hw
    refine filterM_eq_error (fun stat hm ↦ ?_) ⟨_, .tail _ (.head _), hlong⟩
    rcases List.mem_pair.mp hm with rfl | rfl
    · exact .inl ⟨false, rfl⟩
    · exact .inr hlong
  · have honly : ∀ a b, DependsOn (storedFormula? s'.stats) a b → a = 1 ∧ b = long := by
      rintro a b ⟨f, hf, hask⟩
      obtain ⟨stat, hm, rfl, hsf⟩ := (storedFormula?_eq_some_iff hd').mp hf
      rcases List.mem_pair.mp hm with rfl | rfl <;> obtain rfl := Option.some.inj hsf
      · exact ⟨rfl, (asksFor_addingValue_iff.mp hask).resolve_left (not_asksFor_empty b)⟩
      · exact absurd hask (not_asksFor_empty b)
    rintro ⟨id, h⟩
    obtain ⟨_, hfirst, -⟩ := TransGen.head'_iff.mp h
    obtain ⟨_, -, hlast⟩ := TransGen.tail'_iff.mp h
    exact hne ((honly _ _ hlast).2.symm.trans (honly _ _ hfirst).1)
  · have hunreadable : ¬ ReadableIds (addingValue (addingValue "" long) (2 : Nat)) :=
      not_readableIds_addingValue (.inl (not_readableIds_addingValue (.inr hw)))
    obtain ⟨e, he⟩ := @exists_findCycle_eq_error s'.stats 1 _ hunreadable
    have hsecond : s'.isAvailable 1 (addingValue "" long)
        { id := 2, detail := .calculated "" {} } = .error e := by
      rw [isAvailable_of_isCalculated rfl (by decide), if_pos (by decide +kernel)]
      exact congrArg (Except.map Option.isNone) he
    refine ⟨e, filterM_eq_error (fun stat hm ↦ ?_) ⟨_, .tail _ (.head _), hsecond⟩⟩
    rcases List.mem_pair.mp hm with rfl | rfl
    · exact .inl ⟨false, rfl⟩
    · exact .inr hsecond

end GameSystem
end CharacterSheet
