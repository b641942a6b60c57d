import CharacterSheet.Proofs.Preview.Conditions
import CharacterSheet.Proofs.Validation.Replacements

/-!
# The values that a roll depends on

The ids that dice use are collected token by token, from their expressions and from both sides of
their conditions, while the values are put in by a substitution, and only for the dice that the
choice comes to. Main statement: nothing that is read on the way is missing from the ids that were
collected. Two lookups that find the same for these choose the same dice and put the same text into
them, and with an evaluator that does nothing but find or refuse the first dice are chosen that have
no condition or one that is met.
-/

namespace CharacterSheet

open Preview (threeDice isRefusal_of_evaluator)

section
variable {m : Type → Type} [Monad m]

/-- Two lookups find the same for the ids of a list. -/
def AgreeOn (ids : List Int) (f g : Nat → Except NumeralError String) : Prop :=
  ∀ id : Nat, (id : Int) ∈ ids → f id = g id

/-- With two lookups the same dice are chosen, and the same text is put together for them, as for
any others of the list. -/
structure RollsAlike (evaluate : Evaluator m) (dice : List Dice)
    (f g : Nat → Except NumeralError String) : Prop where
  choice : chooseDice evaluate f dice = chooseDice evaluate g dice
  expression : ∀ d ∈ dice,
    substituteStatValues f d.expression = substituteStatValues g d.expression

end

/-- Dice have no condition, or one with a finding for each side that compare as it says. -/
def Dice.IsMet (evaluate : Evaluator Id) (value : Nat → Except NumeralError String) (d : Dice) :
    Prop :=
  ∀ c ∈ d.condition, ∃ low high left right,
    substituteStatValues value c.left = .ok low ∧ substituteStatValues value c.right = .ok high ∧
      evaluate low = pure left ∧ evaluate high = pure right ∧
      Number.compare c.comparison left.value right.value = true

/-- A choice among dice is the first that are met, with the number of those before them, and there
is none when none are met. -/
def IsFirstMet (evaluate : Evaluator Id) (value : Nat → Except NumeralError String)
    (dice : List Dice) : Option (Nat × Dice) → Prop
  | none => ∀ d ∈ dice, ¬ d.IsMet evaluate value
  | some (n, d) => ∃ before after, dice = before ++ d :: after ∧ before.length = n ∧
      d.IsMet evaluate value ∧ ∀ b ∈ before, ¬ b.IsMet evaluate value

/-! ### What is put into dice -/

/-- Lookups that agree on the ids that dice use put the same into every text of theirs. -/
theorem substituteStatValues_congr_of_used {dice : List Dice} {used : List Int}
    (hu : idsUsedBy dice = .ok used) {f g : Nat → Except NumeralError String}
    (h : AgreeOn used f g) {d : Dice} (hd : d ∈ dice) {text : String} (ht : text ∈ d.texts) :
    substituteStatValues f text = substituteStatValues g text :=
  substituteStatValues_congr fun id ha ↦ h id ((mem_idsUsedBy_iff hu).mpr ⟨d, hd, text, ht, ha⟩)

/-- Values are put into a text when its ids can be read and each of them has a value. -/
theorem exists_substituteStatValues_of_values {text : String} (hr : ReadableIds text)
    {value : Nat → Except NumeralError String}
    (hv : ∀ id : Nat, AsksFor text id → ∃ v, value id = .ok v) :
    ∃ out, substituteStatValues value text = .ok out := by
  have hvalues : ∀ id ∈ mentionedIds text, ∃ v, value id = .ok v := fun id hid ↦
    hv id (mem_filterMap_valueId?_iff.mp hid)
  obtain ⟨values, hvalues⟩ := exists_mapM_eq_ok_iff.mpr hvalues
  rw [substituteStatValues_eq hr, hvalues]
  exact ⟨_, rfl⟩

/-! ### Two lookups -/

section
variable {m : Type → Type} [Monad m] {evaluate : Evaluator m}
  {f g : Nat → Except NumeralError String}

/-- Whether dice apply depends only on what is put into their texts. -/
theorem Dice.applies_congr {d : Dice}
    (h : ∀ text ∈ d.texts, substituteStatValues f text = substituteStatValues g text) :
    d.applies evaluate f = d.applies evaluate g := by
  unfold Dice.texts at h
  unfold Dice.applies
  cases hc : d.condition with
  | none => rfl
  | some c =>
    rw [hc] at h
    have hl : substituteStatValues f c.left = substituteStatValues g c.left := h _ (by simp)
    have hr : substituteStatValues f c.right = substituteStatValues g c.right := h _ (by simp)
    simp only [Condition.holds, Condition.operand, hl, hr]

/-- The choice among dice depends only on what is put into their texts. -/
theorem chooseDice_congr {dice : List Dice} (h : ∀ d ∈ dice, ∀ text ∈ d.texts,
      substituteStatValues f text = substituteStatValues g text) :
    chooseDice evaluate f dice = chooseDice evaluate g dice := by
  induction dice with
  | nil => rfl
  | cons d dice ih =>
    obtain ⟨hd, hs⟩ := List.forall_mem_cons.mp h
    rw [chooseDice, chooseDice, Dice.applies_congr hd, ih hs]

/-- Lookups that agree on the ids that dice use roll them alike. -/
theorem rollsAlike_of_agreeOn {dice : List Dice} {used : List Int}
    (hu : idsUsedBy dice = .ok used) (h : AgreeOn used f g) : RollsAlike evaluate dice f g where
  choice := chooseDice_congr fun _ hd _ ht ↦ substituteStatValues_congr_of_used hu h hd ht
  expression _ hd := substituteStatValues_congr_of_used hu h hd List.mem_cons_self

end

/-! ### The first dice that are met -/

section
variable {evaluate : Evaluator Id} {value : Nat → Except NumeralError String}

/-- Something is found for the two sides of a condition when something is found for each. -/
theorem findings_eq_pure_iff {low high : String} {left right : Finding} :
    findings evaluate low high = pure (left, right) ↔
      evaluate low = pure left ∧ evaluate high = pure right := by
  constructor
  · intro h
    unfold findings at h
    rcases pure_or_throw (evaluate low) with ⟨l, hl⟩ | ⟨e, hl⟩
    · rcases pure_or_throw (evaluate high) with ⟨r, hr⟩ | ⟨e, hr⟩
      · rw [hl, hr, pure_bind, pure_bind] at h
        cases h
        exact ⟨hl, hr⟩
      · rw [hl, hr] at h
        cases h
    · rw [hl] at h
      cases h
  · rintro ⟨hl, hr⟩
    rw [findings, hl, hr]
    rfl

/-- Dice with a condition into whose sides values were put are met when the findings compare. -/
theorem Dice.isMet_iff {d : Dice} {c : Condition} {low high : String}
    (hc : d.condition = some c) (hl : substituteStatValues value c.left = .ok low)
    (hr : substituteStatValues value c.right = .ok high) :
    d.IsMet evaluate value ↔ ∃ found, findings evaluate low high = pure found ∧
      Number.compare c.comparison found.1.value found.2.value = true := by
  constructor
  · intro h
    obtain ⟨low', high', left, right, hl', hr', hleft, hright, hcompare⟩ := h c hc
    cases hl.symm.trans hl'
    cases hr.symm.trans hr'
    exact ⟨(left, right), findings_eq_pure_iff.mpr ⟨hleft, hright⟩, hcompare⟩
  · rintro ⟨⟨left, right⟩, hf, hcompare⟩ c' hc'
    cases hc.symm.trans hc'
    obtain ⟨hleft, hright⟩ := findings_eq_pure_iff.mp hf
    exact ⟨low, high, left, right, hl, hr, hleft, hright, hcompare⟩

/-- Where values can be put into the texts of dice and the evaluator does nothing but find or
refuse, dice apply exactly when they are met. -/
theorem Dice.exists_applies_iff_isMet {d : Dice}
    (hrefuse : ∀ text e, evaluate text = throw e → e.isRefusal = true)
    (h : ∀ text ∈ d.texts, ∃ out, substituteStatValues value text = .ok out) :
    ∃ applied, d.applies evaluate value = pure applied ∧
      (applied = true ↔ d.IsMet evaluate value) := by
  unfold Dice.texts at h
  cases hc : d.condition with
  | none =>
    have hmet : d.IsMet evaluate value := fun c hs ↦ by simp [hc] at hs
    exact ⟨true, by simp only [Dice.applies, hc], iff_of_true rfl hmet⟩
  | some c =>
    rw [hc] at h
    obtain ⟨low, hl⟩ := h c.left (by simp)
    obtain ⟨high, hr⟩ := h c.right (by simp)
    simp only [Dice.applies, hc, Condition.holds_eq hl hr, Dice.isMet_iff hc hl hr]
    rcases pure_or_throw (findings evaluate low high) with ⟨found, hf⟩ | ⟨e, hf⟩
    · refine ⟨Number.compare c.comparison found.1.value found.2.value, ?_, ?_⟩
      · rw [hf, map_pure, tryCatch_pure]
      · constructor
        · exact fun hcompare ↦ ⟨found, hf, hcompare⟩
        · rintro ⟨other, ho, hcompare⟩
          cases hf.symm.trans ho
          exact hcompare
    · -- what the evaluator refuses is passed over
      refine ⟨false, ?_, iff_of_false Bool.false_ne_true ?_⟩
      · rw [hf]
        change tryCatch (throw e) _ = _
        rw [tryCatch_throw, if_pos (isRefusal_of_findings hrefuse hf)]
      · rintro ⟨other, ho, -⟩
        cases hf.symm.trans ho

/-- Where values can be put into dice and the evaluator does nothing but find or refuse, the choice
comes to the first dice that are met. -/
theorem exists_chooseDice_isFirstMet {dice : List Dice}
    (hrefuse : ∀ text e, evaluate text = throw e → e.isRefusal = true)
    (h : ∀ d ∈ dice, ∀ text ∈ d.texts, ∃ out, substituteStatValues value text = .ok out) :
    ∃ choice, chooseDice evaluate value dice = pure choice ∧
      IsFirstMet evaluate value dice choice := by
  induction dice with
  | nil => exact ⟨none, rfl, by simp [IsFirstMet]⟩
  | cons d dice ih =>
    obtain ⟨hd, hs⟩ := List.forall_mem_cons.mp h
    obtain ⟨applied, ha, hmet⟩ := Dice.exists_applies_iff_isMet hrefuse hd
    rw [chooseDice, ha, pure_bind]
    cases applied with
    | true => exact ⟨some (0, d), rfl, [], dice, rfl, rfl, hmet.mp rfl, by simp⟩
    | false =>
      have hmet : ¬ d.IsMet evaluate value := fun hm ↦ Bool.false_ne_true (hmet.mpr hm)
      obtain ⟨choice, hc, hfirst⟩ := ih hs
      rw [if_neg Bool.false_ne_true, hc, pure_bind]
      refine ⟨choice.map fun pair ↦ (pair.1 + 1, pair.2), rfl, ?_⟩
      cases choice with
      | none => exact List.forall_mem_cons.mpr ⟨hmet, hfirst⟩
      | some pair =>
        obtain ⟨before, after, rfl, hn, hp, hb⟩ := hfirst
        exact ⟨d :: before, after, rfl, congrArg (· + 1) hn, hp,
          List.forall_mem_cons.mpr ⟨hmet, hb⟩⟩

end

/-! ### Main statement -/

/-- The ids that dice use, when they can be read, are all that a roll of the dice depends on.
Lookups that agree on them choose the same dice and put the same text into these; so does a lookup
in which the value of any other id was changed. With an evaluator that does nothing but find or
refuse, and values for the ids, the choice comes to the first dice that have no condition or one
that is met. -/
theorem idsUsedBy_complete {evaluate : Evaluator Id} {dice : List Dice}
    (hd : ∀ d ∈ dice, d.IsLegible)
    (hrefuse : ∀ text e, evaluate text = throw e → e.isRefusal = true) :
    ∃ used, idsUsedBy dice = .ok used ∧
      (∀ f g, AgreeOn used f g → RollsAlike evaluate dice f g) ∧
      (∀ (id : Nat) f text, (id : Int) ∉ used →
        RollsAlike evaluate dice (Function.update f id text) f) ∧
      ∀ f, (∀ id : Nat, (id : Int) ∈ used → ∃ text, f id = .ok text) →
        (∃ choice, chooseDice evaluate f dice = pure choice ∧ IsFirstMet evaluate f dice choice) ∧
          ∀ d ∈ dice, ∃ text, substituteStatValues f d.expression = .ok text := by
  obtain ⟨used, hu⟩ := Validation.exists_idsUsedBy hd
  refine ⟨used, hu, fun f g h ↦ rollsAlike_of_agreeOn hu h, fun id f text hid ↦ ?_, fun f hf ↦ ?_⟩
  · refine rollsAlike_of_agreeOn hu fun n hn ↦ ?_
    have hne : n ≠ id := by
      rintro rfl
      exact hid hn
    exact Function.update_of_ne hne text f
  · have htexts : ∀ d ∈ dice, ∀ text ∈ d.texts, ∃ out, substituteStatValues f text = .ok out :=
      fun d hm text ht ↦ exists_substituteStatValues_of_values (hd d hm text ht) fun id ha ↦
        hf id ((mem_idsUsedBy_iff hu).mpr ⟨d, hm, text, ht, ha⟩)
    exact ⟨exists_chooseDice_isFirstMet hrefuse htexts,
      fun d hm ↦ htexts d hm _ List.mem_cons_self⟩

/-- Of the three dice the second are chosen when the one stat that they use has the value 3, and the
value of another stat makes no difference. -/
theorem idsUsedBy_complete_threeDice :
    let evaluate : Evaluator Id := Arithmetic.evaluator
    let value : Nat → Except NumeralError String := fun _ ↦ .ok "3"
    idsUsedBy threeDice = .ok [1] ∧
      (∀ text, RollsAlike evaluate threeDice (Function.update value 2 text) value) ∧
      ∃ choice, chooseDice evaluate value threeDice = pure choice ∧
        choice.map Prod.fst = some 1 ∧ IsFirstMet evaluate value threeDice choice := by
  intro evaluate value
  have hlegible : ∀ d ∈ threeDice, d.IsLegible := by
    have hlength : ∀ d ∈ threeDice, ∀ text ∈ d.texts, text.length ≤ maxDigits := by decide +kernel
    exact fun d hd text ht ↦ readableIds_of_length_le (hlength d hd text ht)
  have hrefuse : ∀ text e, evaluate text = throw e → e.isRefusal = true :=
    fun _ _ ↦ isRefusal_of_evaluator
  obtain ⟨used, hu, -, hother, hfirst⟩ := idsUsedBy_complete hlegible hrefuse
  have hone : idsUsedBy threeDice = .ok [1] := by decide +kernel
  cases hone.symm.trans hu
  obtain ⟨⟨choice, hc, hf⟩, -⟩ := hfirst value fun _ _ ↦ ⟨"3", rfl⟩
  have hn : (chooseDice evaluate value threeDice).run.run.map (·.map Prod.fst) = .ok (some 1) := by
    decide +kernel
  rw [hc] at hn
  exact ⟨hone, fun text ↦ hother 2 value text (by decide), choice, hc, Except.ok.inj hn, hf⟩

end CharacterSheet
