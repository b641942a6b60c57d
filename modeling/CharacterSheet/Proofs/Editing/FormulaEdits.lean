import CharacterSheet.Proofs.Editing.Changes
import CharacterSheet.Proofs.Validation.Parts

/-!
# Formulas are checked before they are set

A formula is set for the first stat with an id, unless that stat is missing or not calculated, or
the formula leads from it to a cycle. The check walks from that stat only, which is enough: a
cycle that is not there before goes through the stat whose formula is new. Main statement: which
refusal or which schema comes of setting a formula, and that no cycle comes of it.
-/

namespace CharacterSheet

open Relation

/-! ### Graphs that differ at one id -/

/-- When only the ways out of one id are new, a way is an old one or goes on from that id. -/
theorem transGen_or_through {r r' : Int → Int → Prop} {id : Int}
    (h : ∀ a b, a ≠ id → r' a b → r a b) {a b : Int} (hab : TransGen r' a b) :
    TransGen r a b ∨ (ReflTransGen r' a id ∧ TransGen r' id b) := by
  induction hab with
  | single hb =>
    by_cases ha : a = id
    · subst ha
      exact .inr ⟨.refl, .single hb⟩
    · exact .inl (.single (h _ _ ha hb))
  | @tail b c hab hbc ih =>
    by_cases hb : b = id
    · subst hb
      exact .inr ⟨hab.to_reflTransGen, .single hbc⟩
    · rcases ih with ih | ⟨hto, hfrom⟩
      · exact .inl (ih.tail (h _ _ hb hbc))
      · exact .inr ⟨hto, hfrom.tail hbc⟩

/-- Some id leads back to itself along the dependencies of formulas. -/
def HasFormulaCycle (formulas : Int → Option String) : Prop :=
  ∃ id, TransGen (DependsOn formulas) id id

/-- A cycle that comes of one new formula is reached from the stat with that formula. -/
theorem reachesCycle_of_hasFormulaCycle {stats : List Stat} {id : Int} {formula : String}
    (h : HasFormulaCycle (formulaAt stats id formula))
    (hn : ¬ HasFormulaCycle (storedFormula? stats)) :
    ReachesCycle (DependsOn (formulaAt stats id formula)) id := by
  have hsame : ∀ a b, a ≠ id → DependsOn (formulaAt stats id formula) a b →
      DependsOn (storedFormula? stats) a b := by
    rintro a b ha ⟨f, hf, hb⟩
    exact ⟨f, by rwa [formulaAt_of_ne ha] at hf, hb⟩
  obtain ⟨v, hv⟩ := h
  rcases transGen_or_through hsame hv with hold | ⟨hto, hfrom⟩
  · exact absurd ⟨v, hold⟩ hn
  · exact ⟨id, .refl, hfrom.trans_left hto⟩

/-- Every id of a chain but the first is led to by one. -/
theorem exists_of_isChain {r : Int → Int → Prop} {first : Int} {path : List Int}
    (h : (first :: path).IsChain r) : ∀ v ∈ path, ∃ u, r u v := by
  induction path generalizing first with
  | nil => simp
  | cons next path ih =>
    obtain ⟨hr, hc⟩ := List.isChain_cons_cons.mp h
    exact List.forall_mem_cons.mpr ⟨⟨first, hr⟩, ih hc⟩

/-- The ids of a lasso can be written when those in formulas can be read and the first can be
written. -/
theorem IsLasso.isWritable {formulas : Int → Option String} {id : Int} {path : List Int}
    (h : IsLasso (DependsOn formulas) id path) (hr : ReadableFormulas formulas)
    (hw : Numeral.isWritable id = true) : ∀ v ∈ path, Numeral.isWritable v = true := by
  cases path with
  | nil => simp
  | cons first path =>
    obtain rfl : first = id := by simpa using h.starts
    refine List.forall_mem_cons.mpr ⟨hw, fun v hv ↦ ?_⟩
    obtain ⟨u, f, hf, ha⟩ := exists_of_isChain h.follows v hv
    exact ha.isWritable (hr u f hf)

/-! ### What comes of setting a formula -/

namespace GameSystem

/-- A schema is another one but for the formula of its first stat with an id. -/
def ReplacesFormula (s : GameSystem) (id : Int) (formula : String) (next : GameSystem) : Prop :=
  ∃ before stat after old rolls, s.stats = before ++ stat :: after ∧
    (∀ t ∈ before, t.id ≠ id) ∧ stat.id = id ∧ stat.detail = .calculated old rolls ∧
    next = { s with
      stats := before ++ { stat with detail := .calculated formula rolls } :: after }

end GameSystem

section
variable {s next : GameSystem} {id : Int} {formula : String}

theorem findStat_eq_none_iff {stats : List Stat} :
    findStat stats id = none ↔ ∀ stat ∈ stats, stat.id ≠ id := by
  simp [findStat]

/-- The stat that counts for an id stands behind stats with other ids. -/
theorem findStat_append {before after : List Stat} {stat : Stat} (hb : ∀ t ∈ before, t.id ≠ id)
    (hs : stat.id = id) : findStat (before ++ stat :: after) id = some stat := by
  rw [findStat, List.find?_append, List.find?_eq_none.mpr (by simpa using hb)]
  simp [hs]

/-- The place of the first stat with an id parts the list. -/
theorem exists_of_findIdx? {stats : List Stat} {i : Nat}
    (hi : stats.findIdx? (·.id == id) = some i) :
    ∃ before stat after, stats = before ++ stat :: after ∧ before.length = i ∧
      (∀ t ∈ before, t.id ≠ id) ∧ stat.id = id := by
  obtain ⟨hlt, hid, hbefore⟩ := List.findIdx?_eq_some_iff_getElem.mp hi
  refine ⟨stats.take i, stats[i], stats.drop (i + 1), ?_, ?_, ?_, by simpa using hid⟩
  · rw [List.getElem_cons_drop, List.take_append_drop]
  · rw [List.length_take, Nat.min_eq_left hlt.le]
  · intro t ht
    obtain ⟨j, hj, rfl⟩ := List.mem_take_iff_getElem.mp ht
    simpa using hbefore j (by omega)

/-- Where the formula of one stat is replaced, it is the only one that changes. -/
theorem GameSystem.ReplacesFormula.storedFormula?_eq (h : s.ReplacesFormula id formula next) :
    storedFormula? next.stats = formulaAt s.stats id formula := by
  obtain ⟨before, stat, after, old, rolls, he, hb, hid, hd, rfl⟩ := h
  funext other
  by_cases ho : other = id
  · subst ho
    rw [formulaAt_target, storedFormula?]
    dsimp only
    rw [findStat_append hb (by exact hid)]
    rfl
  · rw [formulaAt_of_ne ho, he, storedFormula?, storedFormula?]
    have hne : stat.id ≠ other := fun h ↦ ho (h.symm.trans hid)
    simp [findStat, List.find?_append, hne]

/-- A path is found exactly when a cycle is reached. -/
theorem exists_findCycle_iff (hr : s.HasReadableFormulas) (hf : ReadableIds formula) :
    (∃ path, findCycle s.stats id formula = .ok (some path)) ↔
      ReachesCycle (s.DependsWith id formula) id := by
  rcases findCycle_cases (readableFormulas_formulaAt hf hr) with ⟨hp, hn⟩ | ⟨path, hp, hl⟩
  · exact ⟨fun ⟨path, hp'⟩ ↦ by simp [hp] at hp', fun h ↦ absurd h hn⟩
  · exact ⟨fun _ ↦ hl.reachesCycle, fun _ ↦ ⟨path, hp⟩⟩

/-- No formula is set for a stat that is not there. -/
theorem setFormula_of_forall_ne (h : ∀ stat ∈ s.stats, stat.id ≠ id) :
    s.setFormula id formula = .error (.unknownStat id) := by
  have hi : s.stats.findIdx? (·.id == id) = none :=
    List.findIdx?_eq_none_iff.mpr (by simpa using h)
  rw [GameSystem.setFormula, hi]

/-- A formula is checked from the first stat with an id, if that is calculated, and set there. -/
theorem setFormula_cases {stat : Stat} (hr : s.HasReadableFormulas) (hf : ReadableIds formula)
    (hs : findStat s.stats id = some stat) :
    (stat.isCalculated = false ∧
      s.setFormula id formula = .error (.worded [id] (.notCalculated id stat.kind))) ∨
    (stat.isCalculated = true ∧ ∃ path, findCycle s.stats id formula = .ok (some path) ∧
      IsLasso (s.DependsWith id formula) id path ∧
      s.setFormula id formula = .error (.worded (id :: path) (.circular id path))) ∨
    (stat.isCalculated = true ∧ findCycle s.stats id formula = .ok none ∧
      ¬ ReachesCycle (s.DependsWith id formula) id ∧
      ∃ next, s.setFormula id formula = .ok next ∧ s.ReplacesFormula id formula next) := by
  cases hi : s.stats.findIdx? (·.id == id) with
  | none =>
    have := List.findIdx?_eq_none_iff.mp hi stat (mem_of_findStat hs)
    simp [id_of_findStat hs] at this
  | some i =>
    obtain ⟨before, first, after, he, rfl, hb, hid⟩ := exists_of_findIdx? hi
    obtain rfl : first = stat := by
      rw [he, findStat_append hb hid] at hs
      exact Option.some.inj hs
    have hat : s.stats[before.length]? = some first := by simp [he]
    simp only [GameSystem.setFormula, hi, hat]
    by_cases hc : first.isCalculated = true
    · rw [if_pos hc, GameSystem.checkFormula]
      rcases findCycle_cases (readableFormulas_formulaAt hf hr) with ⟨hp, hn⟩ | ⟨path, hp, hl⟩
      · obtain ⟨old, hold⟩ := Option.isSome_iff_exists.mp hc
        obtain ⟨rolls, hd⟩ := Stat.detail_of_formula? hold
        refine .inr (.inr ⟨hc, hp, hn, _, by rw [hp]; rfl, before, first, after, old, rolls, he, hb,
          hid, hd, ?_⟩)
        rw [he, List.set_append_right _ _ (Nat.le_refl _), Nat.sub_self, List.set_cons_zero,
          Stat.withFormula, hd]
      · exact .inr (.inl ⟨hc, path, hp, hl, by rw [hp]; rfl⟩)
    · exact .inl ⟨by simpa using hc, if_neg hc⟩

/-! ### What is written in a refusal -/

theorem EditError.worded_of_isWritable {written : List Int} {refusal : EditError}
    (h : ∀ n ∈ written, Numeral.isWritable n = true) : refusal.worded written = refusal :=
  if_pos (List.all_eq_true.mpr h)

/-- A refusal in which an id with too many digits is written says so instead. -/
theorem EditError.worded_cons_of_not_isWritable {written : List Int} {refusal : EditError}
    (h : Numeral.isWritable id = false) :
    refusal.worded (id :: written) = .numeral .tooLargeToWrite :=
  if_neg (by simp [h])

/-- Only the refusal for an unknown stat is put into words as such. -/
theorem EditError.worded_ne_unknownStat {written : List Int} {refusal : EditError} {other : Int}
    (h : refusal ≠ .unknownStat other) : refusal.worded written ≠ .unknownStat other := by
  unfold EditError.worded
  split
  · exact h
  · simp

/-! ### Which refusal it is -/

theorem setFormula_eq_unknownStat_iff (hr : s.HasReadableFormulas) (hf : ReadableIds formula) :
    s.setFormula id formula = .error (.unknownStat id) ↔ ∀ stat ∈ s.stats, stat.id ≠ id := by
  refine ⟨fun h ↦ ?_, setFormula_of_forall_ne⟩
  cases hs : findStat s.stats id with
  | none => exact findStat_eq_none_iff.mp hs
  | some stat =>
    rcases setFormula_cases hr hf hs with ⟨-, ho⟩ | ⟨-, path, -, -, ho⟩ | ⟨-, -, -, next, ho, -⟩
    · exact absurd (Except.error.inj (ho.symm.trans h)) (EditError.worded_ne_unknownStat (by simp))
    · exact absurd (Except.error.inj (ho.symm.trans h)) (EditError.worded_ne_unknownStat (by simp))
    · cases ho.symm.trans h

theorem exists_setFormula_eq_ok_iff {stat : Stat} (hr : s.HasReadableFormulas)
    (hf : ReadableIds formula) (hs : findStat s.stats id = some stat) :
    (∃ next, s.setFormula id formula = .ok next) ↔
      stat.isCalculated = true ∧ ¬ ReachesCycle (s.DependsWith id formula) id := by
  rcases setFormula_cases hr hf hs with ⟨hc, ho⟩ | ⟨hc, path, hp, hl, ho⟩ |
    ⟨hc, -, hn, next, ho, -⟩
  · simp [ho, hc]
  · simp [ho, hl.reachesCycle]
  · simp [ho, hc, hn]

/-- Where the id of a stat can be written, a formula is refused for it because of its kind when it
is not calculated, and with the path that is found when it is. -/
theorem refusals_of_isWritable {stat : Stat} (hr : s.HasReadableFormulas)
    (hf : ReadableIds formula) (hs : findStat s.stats id = some stat)
    (hw : Numeral.isWritable id = true) :
    (∀ kind, s.setFormula id formula = .error (.notCalculated id kind) ↔
      stat.isCalculated = false ∧ kind = stat.kind) ∧
    ∀ path, s.setFormula id formula = .error (.circular id path) ↔
      stat.isCalculated = true ∧ findCycle s.stats id formula = .ok (some path) := by
  rcases setFormula_cases hr hf hs with ⟨hc, ho⟩ | ⟨hc, path, hp, hl, ho⟩ |
    ⟨hc, hp, -, next, ho, -⟩
  · rw [EditError.worded_of_isWritable (by simpa using hw)] at ho
    simp [ho, hc, eq_comm]
  · have hpath := hl.isWritable (readableFormulas_formulaAt hf hr) hw
    rw [EditError.worded_of_isWritable (List.forall_mem_cons.mpr ⟨hw, hpath⟩)] at ho
    simp [ho, hc, hp]
  · simp [ho, hp, hc]

/-- Where the id of a stat cannot be written, neither can any refusal for that stat. -/
theorem refusal_of_not_isWritable {stat : Stat} (hr : s.HasReadableFormulas)
    (hf : ReadableIds formula) (hs : findStat s.stats id = some stat)
    (hw : Numeral.isWritable id = false) :
    s.setFormula id formula = .error (.numeral .tooLargeToWrite) ↔
      stat.isCalculated = false ∨ ReachesCycle (s.DependsWith id formula) id := by
  rcases setFormula_cases hr hf hs with ⟨hc, ho⟩ | ⟨hc, path, hp, hl, ho⟩ |
    ⟨hc, hp, hn, next, ho, -⟩
  · simp [ho, hc, EditError.worded_cons_of_not_isWritable hw]
  · simp [ho, hl.reachesCycle, EditError.worded_cons_of_not_isWritable hw]
  · simp [ho, hc, hn]

/-- The formula of one stat is replaced when a formula is set, and no cycle comes of it. -/
theorem replacesFormula_of_setFormula (hr : s.HasReadableFormulas) (hf : ReadableIds formula)
    (h : s.setFormula id formula = .ok next) :
    s.ReplacesFormula id formula next ∧
      (¬ HasFormulaCycle (storedFormula? s.stats) →
        ¬ HasFormulaCycle (storedFormula? next.stats)) := by
  cases hs : findStat s.stats id with
  | none => cases h.symm.trans (setFormula_of_forall_ne (findStat_eq_none_iff.mp hs))
  | some stat =>
    rcases setFormula_cases hr hf hs with ⟨-, ho⟩ | ⟨-, path, -, -, ho⟩ | ⟨-, -, hn, _, ho, hrep⟩
    · cases h.symm.trans ho
    · cases h.symm.trans ho
    · cases h.symm.trans ho
      refine ⟨hrep, fun hnone hcycle ↦ hn (reachesCycle_of_hasFormulaCycle ?_ hnone)⟩
      rwa [← hrep.storedFormula?_eq]

end

/-! ### Main statement -/

namespace GameSystem

/-- A formula is set for the first stat with an id: it is refused for a stat that is not there, for
one that is not calculated, and when a cycle is reached, with the path that is found; otherwise
that formula is replaced, and a schema whose formulas have no cycle still has none. A refusal that
writes the id cannot be put into words when the id has too many digits. -/
theorem setFormula_exact {s : GameSystem} {formula : String} (hr : s.HasReadableFormulas)
    (hf : ReadableIds formula) (id : Int) :
    (s.setFormula id formula = .error (.unknownStat id) ↔ ∀ stat ∈ s.stats, stat.id ≠ id) ∧
    ((∃ path, findCycle s.stats id formula = .ok (some path)) ↔
      ReachesCycle (s.DependsWith id formula) id) ∧
    (∀ stat, findStat s.stats id = some stat →
      ((∃ next, s.setFormula id formula = .ok next) ↔
        stat.isCalculated = true ∧ ¬ ReachesCycle (s.DependsWith id formula) id) ∧
      (Numeral.isWritable id = true →
        (∀ kind, s.setFormula id formula = .error (.notCalculated id kind) ↔
          stat.isCalculated = false ∧ kind = stat.kind) ∧
        ∀ path, s.setFormula id formula = .error (.circular id path) ↔
          stat.isCalculated = true ∧ findCycle s.stats id formula = .ok (some path)) ∧
      (Numeral.isWritable id = false →
        (s.setFormula id formula = .error (.numeral .tooLargeToWrite) ↔
          stat.isCalculated = false ∨ ReachesCycle (s.DependsWith id formula) id))) ∧
    ∀ next, s.setFormula id formula = .ok next →
      s.ReplacesFormula id formula next ∧
        (¬ HasFormulaCycle (storedFormula? s.stats) →
          ¬ HasFormulaCycle (storedFormula? next.stats)) := by
  refine ⟨setFormula_eq_unknownStat_iff hr hf, exists_findCycle_iff hr hf, fun stat hs ↦ ?_,
    fun next ↦ replacesFormula_of_setFormula hr hf⟩
  exact ⟨exists_setFormula_eq_ok_iff hr hf hs, refusals_of_isWritable hr hf hs,
    refusal_of_not_isWritable hr hf hs⟩

/-- A formula that closes a cycle of two stats is refused with a path. -/
theorem setFormula_exact_mutual :
    let s : GameSystem := { stats := [
      { id := 1, detail := .calculated "" {} },
      { id := 2, detail := .calculated "<stat:1:value>" {} }] }
    ∃ path, findCycle s.stats 1 "<stat:2:value>" = .ok (some path) ∧
      s.setFormula 1 "<stat:2:value>" = .error (.circular 1 path) := by
  intro s
  have hr : s.HasReadableFormulas := by
    intro stat hm f hf
    rcases List.mem_pair.mp hm with rfl | rfl <;>
      obtain rfl := Option.some.inj hf <;>
      exact readableIds_of_length_le (by decide)
  have hthere : s.DependsWith 1 "<stat:2:value>" 1 2 :=
    ⟨_, rfl, asksFor_of_mention (m := ⟨.stat, ['2'], .value⟩) (by decide) rfl⟩
  have hback : s.DependsWith 1 "<stat:2:value>" 2 1 :=
    ⟨_, rfl, asksFor_of_mention (m := ⟨.stat, ['1'], .value⟩) (by decide) rfl⟩
  have hf : ReadableIds "<stat:2:value>" := readableIds_of_length_le (by decide)
  obtain ⟨-, hcycle, hstat, -⟩ := setFormula_exact hr hf 1
  obtain ⟨path, hp⟩ := hcycle.mpr ⟨1, .refl, .tail (.single hthere) hback⟩
  obtain ⟨-, hwritten, -⟩ := hstat _ rfl
  exact ⟨path, hp, ((hwritten (by decide +kernel)).2 path).mpr ⟨rfl, hp⟩⟩

/-- A stat of another kind whose id has too many digits: a formula is refused for it, but not as for
a stat that is not calculated. -/
theorem setFormula_of_long_id :
    let s : GameSystem := { stats := [{ id := 10 ^ maxDigits, detail := .boolean {} }] }
    s.HasReadableFormulas ∧ ReadableIds "" ∧
      (∃ stat, findStat s.stats (10 ^ maxDigits) = some stat ∧ stat.isCalculated = false) ∧
      s.setFormula (10 ^ maxDigits) "" = .error (.numeral .tooLargeToWrite) ∧
      ∀ kind, s.setFormula (10 ^ maxDigits) "" ≠
        .error (.notCalculated (10 ^ maxDigits) kind) := by
  intro s
  have hr : s.HasReadableFormulas := by
    intro stat hm f hf
    obtain rfl := List.mem_singleton.mp hm
    cases hf
  have hf : ReadableIds "" := readableIds_of_length_le (by decide)
  have hfirst : findStat s.stats (10 ^ maxDigits) =
      some { id := 10 ^ maxDigits, detail := .boolean {} } := by simp [s, findStat]
  have hlong : Numeral.isWritable (10 ^ maxDigits) = false := by decide +kernel
  have hrefused := (refusal_of_not_isWritable hr hf hfirst hlong).mpr (.inl rfl)
  exact ⟨hr, hf, ⟨_, hfirst, rfl⟩, hrefused, fun kind ↦ by simp [hrefused]⟩

end GameSystem
end CharacterSheet
