import CharacterSheet.Proofs.Preview.Totality
import CharacterSheet.Proofs.Validation.Totality

/-!
# Validation and the roll for initiative on documents

Documents are decoded with integers of few digits, so that what is wrong with them can be put into
words, and their stats have samples. Two things are left. The text that names the stat for
initiative is taken for an id when it is a row of digits of any kind, and is read only when these
are decimal and few. And samples that are put into dice may make an id longer than an id in the
document is. Main statement: a document whose ids can be read is validated, and previewed as far as
initiative goes, exactly when neither is the case.
-/

namespace CharacterSheet

open Mention

/-! ### Failures that are caught or put in other words -/

section
variable {m : Type → Type} [Monad m] [LawfulMonad m] {ε ε' α β : Type}

theorem throw_bind (e : ε) (f : α → ExceptT ε m β) : throw e >>= f = throw e := by
  apply ExceptT.ext
  rw [ExceptT.run_bind, ExceptT.run_throw, pure_bind, ExceptT.run_throw]

theorem tryCatch_throw (e : ε) (handle : ε → ExceptT ε m α) :
    tryCatch (throw e) handle = handle e := by
  apply ExceptT.ext
  change (ExceptT.run (throw e) >>= fun result ↦ _) = _
  rw [ExceptT.run_throw, pure_bind]
  rfl

theorem tryCatch_pure (a : α) (handle : ε → ExceptT ε m α) :
    tryCatch (pure a) handle = pure a := by
  apply ExceptT.ext
  change (ExceptT.run (pure a) >>= fun result ↦ _) = _
  rw [ExceptT.run_pure, pure_bind]

variable {x : ExceptT ε m α}

theorem Returns.adapt (h : Returns x) (f : ε → ε') : Returns (x.adapt f) := by
  obtain ⟨result, hr⟩ := h
  refine ⟨result, ?_⟩
  change Except.mapError f <$> x.run = _
  rw [hr, Functor.map_map]
  rfl

theorem Fails.adapt (h : Fails x) (f : ε → ε') : Fails (x.adapt f) := by
  obtain ⟨why, hw⟩ := h
  refine ⟨f <$> why, ?_⟩
  change Except.mapError f <$> x.run = _
  rw [hw, Functor.map_map, Functor.map_map]
  rfl

end

/-! ### The choice among dice -/

/-- The evaluator that computes finds something or refuses, and does so without effects. -/
theorem evaluator_cases (expression : String) :
    (∃ finding, ∀ {m : Type → Type} [Monad m],
      (Arithmetic.evaluator expression : ExceptT EvaluationFailure m Finding) = pure finding) ∨
    ∃ e : EvaluationFailure, e.isRefusal = true ∧ ∀ {m : Type → Type} [Monad m],
      (Arithmetic.evaluator expression : ExceptT EvaluationFailure m Finding) = throw e := by
  cases h : Arithmetic.find expression with
  | ok n =>
    refine .inl ⟨.number n, ?_⟩
    intro m _
    rw [Arithmetic.evaluator, h]
    rfl
  | error e =>
    refine .inr ⟨e, ?_, ?_⟩
    · unfold Arithmetic.find at h
      cases he : Arithmetic.evaluate expression {} with
      | ok n => simp [he, Except.mapError] at h
      | error error =>
        rw [he] at h
        cases h
        rfl
    · intro m _
      rw [Arithmetic.evaluator, h]
      rfl

section
variable {stats : List Stat} (h : ∀ s ∈ stats, s.IsLegible)
include h

/-- Legible dice apply to the samples or they do not, and this is found without effects. -/
theorem exists_applies {d : Dice} (hd : d.IsLegible) :
    ∃ b, ∀ {m : Type → Type} [Monad m] [LawfulMonad m],
      d.applies (m := m) Arithmetic.evaluator (fun id ↦ sampleValue stats .dice id) = pure b := by
  unfold Dice.applies
  unfold Dice.IsLegible Dice.texts at hd
  cases hc : d.condition with
  | none => exact ⟨true, fun {m} ↦ rfl⟩
  | some c =>
    simp only [hc, List.forall_mem_cons] at hd
    obtain ⟨left, hl⟩ := exists_substituteStatValues h .dice hd.2.1
    obtain ⟨right, hr⟩ := exists_substituteStatValues h .dice hd.2.2.1
    simp only [Condition.holds, Condition.operand, hl, hr]
    rcases evaluator_cases left with ⟨f, hf⟩ | ⟨e, he, hf⟩
    · rcases evaluator_cases right with ⟨g, hg⟩ | ⟨e, he, hg⟩
      · refine ⟨Number.compare c.comparison f.value g.value, fun {m} _ _ ↦ ?_⟩
        rw [hf, hg, pure_bind, pure_bind, tryCatch_pure]
      · refine ⟨false, fun {m} _ _ ↦ ?_⟩
        rw [hf, hg, pure_bind, throw_bind, tryCatch_throw, he]
        rfl
    · refine ⟨false, fun {m} _ _ ↦ ?_⟩
      rw [hf, throw_bind, tryCatch_throw, he]
      rfl

/-- One of legible dice is chosen or none, and this is found without effects. -/
theorem exists_chooseDice {dice : List Dice} (hd : ∀ d ∈ dice, d.IsLegible) :
    ∃ choice, (∀ pair ∈ choice, pair.2 ∈ dice) ∧
      ∀ {m : Type → Type} [Monad m] [LawfulMonad m],
        chooseDice (m := m) Arithmetic.evaluator (fun id ↦ sampleValue stats .dice id) dice =
          pure choice := by
  induction dice with
  | nil => exact ⟨none, by simp, fun {m} ↦ rfl⟩
  | cons d dice ih =>
    obtain ⟨hd, hs⟩ := List.forall_mem_cons.mp hd
    obtain ⟨choice, hmem, hchoice⟩ := ih hs
    obtain ⟨b, hb⟩ := exists_applies h hd
    cases b with
    | true =>
      refine ⟨some (0, d), by simp, fun {m} _ _ ↦ ?_⟩
      rw [chooseDice, hb, pure_bind, if_pos rfl]
    | false =>
      refine ⟨choice.map fun pair ↦ (pair.1 + 1, pair.2), fun pair hp ↦ ?_, fun {m} _ _ ↦ ?_⟩
      · obtain ⟨chosen, hc, rfl⟩ := Option.map_eq_some_iff.mp hp
        exact List.mem_cons_of_mem d (hmem chosen hc)
      · rw [chooseDice, hb, hchoice, pure_bind, pure_bind]
        rfl

end

/-! ### The dice for initiative -/

/-- The stat that is rolled for initiative, if one is named and is there. -/
def GameSystem.initiativeStat? (s : GameSystem) : Except NumeralError (Option Stat) :=
  match s.integrations.bind (·.initiative) with
  | none => .ok none
  | some i => i.stat?.map fun id ↦ id.bind (findStat s.stats)

/-- The dice that are rolled for initiative: the first of its stat that apply to the samples. -/
def GameSystem.RollsForInitiative (s : GameSystem) (d : Dice) : Prop :=
  ∃ stat, s.initiativeStat? = .ok (some stat) ∧ ∃ n,
    chooseDice (m := Id) Arithmetic.evaluator (fun k ↦ sampleValue s.stats .dice k) stat.dice =
      pure (some (n, d))

theorem GameSystem.exists_initiativeStat?_iff {s : GameSystem} :
    (∃ stat, s.initiativeStat? = .ok stat) ↔ (Draft.ofSystem s).InitiativeIsReadable := by
  unfold initiativeStat? Draft.InitiativeIsReadable Draft.ofSystem
  simp only [Checked.ok.injEq]
  cases s.integrations with
  | none => simp
  | some i =>
    simp only [Option.some.injEq, forall_eq', Option.bind_some]
    cases i.initiative with
    | none => simp
    | some a =>
      simp only [Option.mem_some_iff, forall_eq', ← Initiative.exists_stat?_iff]
      cases a.stat? <;> simp [Except.map]

theorem GameSystem.mem_of_initiativeStat? {s : GameSystem} {stat : Stat}
    (h : s.initiativeStat? = .ok (some stat)) : stat ∈ s.stats := by
  unfold initiativeStat? at h
  split at h
  · cases h
  · next a ha =>
    cases hid : a.stat? with
    | error e => simp [hid, Except.map] at h
    | ok id =>
      obtain ⟨n, -, hf⟩ := Option.bind_eq_some_iff.mp (Except.ok.inj (hid ▸ h))
      exact mem_of_findStat hf

/-- The ids in dice can be read once samples were put into them. -/
def Dice.StaysReadable (stats : List Stat) (d : Dice) : Prop :=
  ∀ expression,
    substituteStatValues (fun k ↦ sampleValue stats .dice k) d.expression = .ok expression →
      ReadableIds expression

/-- The stat for initiative can be read, and so can the ids in its dice. -/
structure GameSystem.CanRollForInitiative (s : GameSystem) : Prop where
  stat : (Draft.ofSystem s).InitiativeIsReadable
  dice : ∀ d, s.RollsForInitiative d → d.StaysReadable s.stats

namespace Preview
variable {m : Type → Type} {p : Preview m}

theorem initiativeRoll_eq [Monad m] : p.initiativeRoll =
    match p.system.initiativeStat? with
    | .error e => throw (.numeral e)
    | .ok none => return none
    | .ok (some s) => p.statRoll s := by
  unfold initiativeRoll GameSystem.initiativeStat?
  cases p.system.integrations.bind (·.initiative) with
  | none => rfl
  | some a =>
    dsimp only
    cases a.stat? with
    | error e => rfl
    | ok id =>
      dsimp only [Except.map]
      cases id.bind (findStat p.system.stats) <;> rfl

variable (h : ∀ s ∈ p.system.stats, s.IsLegible) (hsec : ∀ s ∈ p.system.sections, s.IsLegible)
include h hsec

/-- Among legible stats and sections the body of an expression is handed on exactly when its ids can
still be read once samples were put into it. -/
theorem exists_payload_iff_readableIds (use : SampleUse) {body : String} (hb : ReadableIds body) :
    (∃ text, p.payload use body = .ok text) ↔
      ∀ expression, substituteStatValues (fun k : Nat ↦ sampleValue p.system.stats use k) body =
        .ok expression → ReadableIds expression := by
  obtain ⟨expression, he⟩ := exists_substituteStatValues h use hb
  simp only [payload, he, bind, Except.bind, Except.ok.injEq, forall_eq']
  rw [exists_substituteReferences_iff, and_iff_left fun r _ ↦ exists_reference h hsec r]

variable [Monad m] [LawfulMonad m] (hp : p.evaluate = Arithmetic.evaluator)
include hp

/-- What is rolled for a legible stat comes to an end exactly when the ids in the dice that are
chosen can be read once samples were put into them. -/
theorem returns_or_fails_statRoll {stat : Stat} (hs : stat.IsLegible) :
    ∃ choice, chooseDice (m := Id) Arithmetic.evaluator
        (fun k ↦ sampleValue p.system.stats .dice k) stat.dice = pure choice ∧
      ((∀ pair ∈ choice, pair.2.StaysReadable p.system.stats) → Returns (p.statRoll stat)) ∧
      ((¬ ∀ pair ∈ choice, pair.2.StaysReadable p.system.stats) → Fails (p.statRoll stat)) := by
  obtain ⟨choice, hmem, hchoice⟩ := exists_chooseDice h hs.dice
  refine ⟨choice, hchoice, ?_⟩
  rw [statRoll, hp, hchoice, pure_bind]
  cases choice with
  | none => exact ⟨fun _ ↦ returns_pure none, fun hn ↦ absurd (by simp) hn⟩
  | some pair =>
    have hbody : ReadableIds pair.2.expression :=
      hs.dice _ (hmem pair rfl) _ List.mem_cons_self
    simp only [Option.mem_some_iff, forall_eq', Dice.StaysReadable,
      ← exists_payload_iff_readableIds h hsec .dice hbody]
    constructor
    · intro ht
      exact ((returns_dice ht).adapt _).bind fun text ↦ returns_pure (some text)
    · intro ht
      exact (Fails.adapt ((fails_liftExcept ht).bind _) _).bind _

/-- The roll for initiative comes to an end exactly when the stat for it and the ids in its dice can
be read. -/
theorem returns_or_fails_initiativeRoll :
    (p.system.CanRollForInitiative → Returns p.initiativeRoll) ∧
      (¬ p.system.CanRollForInitiative → Fails p.initiativeRoll) := by
  rw [initiativeRoll_eq]
  rcases hs : p.system.initiativeStat? with e | _ | stat
  · refine ⟨fun hc ↦ ?_, fun _ ↦ fails_throw _⟩
    obtain ⟨stat, hstat⟩ := GameSystem.exists_initiativeStat?_iff.mpr hc.stat
    cases hs.symm.trans hstat
  · refine ⟨fun _ ↦ returns_pure none, fun hc ↦ absurd ⟨?_, ?_⟩ hc⟩
    · exact GameSystem.exists_initiativeStat?_iff.mp ⟨none, hs⟩
    · rintro d ⟨stat, hstat, -⟩
      cases hs.symm.trans hstat
  · obtain ⟨choice, hchoice, hreturns, hfails⟩ :=
      returns_or_fails_statRoll h hsec hp (h stat (GameSystem.mem_of_initiativeStat? hs))
    constructor
    · intro hc
      refine hreturns fun pair hpair ↦ hc.dice pair.2 ⟨stat, hs, pair.1, ?_⟩
      exact hchoice.trans (congrArg pure hpair)
    · refine fun hc ↦ hfails fun hd ↦ hc ⟨?_, ?_⟩
      · exact GameSystem.exists_initiativeStat?_iff.mp ⟨some stat, hs⟩
      · rintro d ⟨other, ho, n, hn⟩
        cases hs.symm.trans ho
        exact hd (n, d) (Except.ok.inj (hchoice.symm.trans hn))

end Preview

/-! ### Main statement -/

/-- A document whose ids can be read is validated, and also strictly unless the stat for initiative
is named by a text that is taken for an id and cannot be read. What it loads as is rolled for
initiative, whatever the roller does, exactly when that text and the ids in the dice can be
read. -/
theorem Json.validates_and_rolls_iff {text : String} {v : Json}
    (h : Json.read text = .ok v) (hr : v.HasReadableIds) :
    (∃ issues, v.schemaIssues false = .ok issues) ∧
      ((∃ issues, v.schemaIssues true = .ok issues) ↔
        ∀ d, Draft.read v = some d → d.InitiativeIsReadable) ∧
      ∀ s, GameSystem.read v = .ok s → ∀ {m : Type → Type} [Monad m] [LawfulMonad m]
        (p : Preview m), p.system = s → p.evaluate = Arithmetic.evaluator →
          (s.CanRollForInitiative → Returns p.initiativeRoll) ∧
            (¬ s.CanRollForInitiative → Fails p.initiativeRoll) := by
  have hv := Json.isLegible_of_read h hr
  refine ⟨?_, ?_, ?_⟩
  · unfold schemaIssues
    cases hd : Draft.read v with
    | none => exact ⟨_, rfl⟩
    | some d =>
      exact (Validation.exists_draftIssues_iff (Draft.isLegible_of_read hv hd) false).mpr (by simp)
  · unfold schemaIssues
    cases hd : Draft.read v with
    | none => simp
    | some d =>
      simpa using Validation.exists_draftIssues_iff (Draft.isLegible_of_read hv hd) true
  · rintro s hs m _ _ p rfl hp
    obtain ⟨fs, hfs, -, hstats, hsections, -⟩ := GameSystem.read_eq_ok_iff.mp hs
    exact Preview.returns_or_fails_initiativeRoll (Stat.yields_read.fieldOr_list hv hfs hstats)
      (SheetSection.yields_read.fieldOr_list hv hfs hsections) hp

/-- The ids in short texts can be read. -/
theorem Json.hasReadableIds_of_length_le {v : Json} (h : ∀ s ∈ v.texts, s.length ≤ maxDigits) :
    v.HasReadableIds := fun s hs ↦ readableIds_of_length_le (h s hs)

/-- A document whose one stat is rolled for initiative if a text names it. -/
def initiativeText (id : String) : String :=
  "\x7b\"stats\": [\x7b\"id\": 2, \"type\": \"boolean\", \"dices\": [\x7b\"expression\": " ++
    "\"1d<stat:2:value>\"\x7d]\x7d], \"integrations\": \x7b\"iniciative\": \x7b\"id\": \"" ++ id ++
    "\"\x7d\x7d\x7d"

/-- The value of that text. -/
def initiativeDocument (id : String) : Json :=
  .object [
    ("stats", .array [.object [("id", .int 2), ("type", .string "boolean"),
      ("dices", .array [.object [("expression", .string "1d<stat:2:value>")]])]]),
    ("integrations", .object [("iniciative", .object [("id", .string id)])])]

/-- What that document loads as. -/
def initiativeSystem (id : String) : GameSystem where
  stats := [{ id := 2, detail := .boolean ⟨some [{ expression := "1d<stat:2:value>" }], none⟩ }]
  integrations := some { initiative := some { id := some (.text id) } }

/-- The stat is named by a digit of another script, and its sample is put into its dice. -/
theorem Json.validates_and_rolls_iff_fullwidth :
    Json.read (initiativeText "２") = .ok (initiativeDocument "２") ∧
      (initiativeDocument "２").HasReadableIds ∧
      (∃ issues, (initiativeDocument "２").schemaIssues true = .ok issues) ∧
      GameSystem.read (initiativeDocument "２") = .ok (initiativeSystem "２") ∧
      ∀ p : Preview Id, p.system = initiativeSystem "２" → p.evaluate = Arithmetic.evaluator →
        Returns p.initiativeRoll := by
  have h : Json.read (initiativeText "２") = .ok (initiativeDocument "２") := by
    set_option maxRecDepth 10000 in with_unfolding_all rfl
  have hr : (initiativeDocument "２").HasReadableIds := hasReadableIds_of_length_le (by decide)
  have hdigit : ∀ a : Initiative, a.id = some (.text "２") → a.IsReadable := by
    intro a ha t ht _
    cases ha.symm.trans ht
    exact ⟨List.all_eq_true.mp (by decide), by decide⟩
  have hsample : (substituteStatValues (fun k ↦ sampleValue (initiativeSystem "２").stats .dice k)
      "1d<stat:2:value>").toOption = some "1d1" := by decide +kernel
  obtain ⟨-, hstrict, hroll⟩ := Json.validates_and_rolls_iff h hr
  refine ⟨h, hr, hstrict.mpr ?_, rfl, fun p hs hp ↦ (hroll _ rfl p hs hp).1 ⟨?_, ?_⟩⟩
  · rintro d ⟨⟩ i ⟨⟩ a ⟨⟩
    exact hdigit _ rfl
  · rintro i ⟨⟩ a ⟨⟩
    exact hdigit _ rfl
  · rintro d ⟨stat, hstat, n, hn⟩ expression he
    cases (show Except.ok _ = Except.ok _ from hstat)
    cases hn
    obtain rfl : expression = "1d1" :=
      Option.some.inj ((congrArg Except.toOption he).symm.trans hsample)
    exact readableIds_of_length_le (by decide)

/-- A superscript digit is taken for an id and cannot be read as one: neither is the document
validated strictly nor is anything rolled. -/
theorem Json.validates_and_rolls_fail_superscript :
    Json.read (initiativeText "²") = .ok (initiativeDocument "²") ∧
      (initiativeDocument "²").HasReadableIds ∧
      (¬ ∃ issues, (initiativeDocument "²").schemaIssues true = .ok issues) ∧
      GameSystem.read (initiativeDocument "²") = .ok (initiativeSystem "²") ∧
      ∀ p : Preview Id, p.system = initiativeSystem "²" → p.evaluate = Arithmetic.evaluator →
        Fails p.initiativeRoll := by
  refine ⟨?_, hasReadableIds_of_length_le (by decide), ?_, rfl, ?_⟩
  · set_option maxRecDepth 10000 in with_unfolding_all rfl
  · have hnone : ((initiativeDocument "²").schemaIssues true).toOption.isSome = false := by
      decide +kernel
    rintro ⟨issues, hi⟩
    rw [hi] at hnone
    cases hnone
  · intro p hs hp
    have hstat : p.system.initiativeStat? = .error (.notAnInteger "²") := by rw [hs]; rfl
    rw [Preview.initiativeRoll_eq, hstat]
    exact fails_throw _

end CharacterSheet
