import CharacterSheet.Proofs.Preview.Initiative

/-!
# Condition previews and the roll

The preview of a condition and the choice among dice both put samples into the two sides of a
condition, have the sides evaluated and compare what is found. The preview takes the samples on the
right from the other end of their range, writes out what is found and shows any failure; the choice
has the samples of dice on both sides and passes over what the evaluator refuses. Main statement: a
stat is rolled with the first of its dice that have no condition or whose condition is reported to
hold, provided that the samples on the right are those of dice or the same as those.
-/

namespace CharacterSheet

open Mention

/-- An item of a list with none before it that is picked. -/
def IsReached {α : Type} (picks : α → Bool) (as : List α) (a : α) : Prop :=
  ∃ before after, as = before ++ a :: after ∧ ∀ b ∈ before, picks b = false

/-- What an evaluator finds for the two sides of a condition. -/
def findings {m : Type → Type} [Monad m] (evaluate : Evaluator m) (left right : String) :
    ExceptT EvaluationFailure m (Finding × Finding) := do
  let first ← evaluate left
  return (first, ← evaluate right)

/-- Whether dice have no condition, or one that a preview reports to hold. -/
def Dice.isReported (shows : Dice → ExceptT NumeralError Id (Option ConditionPreview)) (d : Dice) :
    Bool :=
  match d.condition with
  | none => true
  | some _ =>
    match (shows d).run.run with
    | .ok (some shown) => shown.result == some true
    | _ => false

namespace Preview

section
variable {m : Type → Type} [Monad m]

/-- The preview of the condition of dice, with the samples for a use on the right side. -/
def conditionWith (p : Preview m) (right : SampleUse) (d : Dice) :
    ExceptT NumeralError m (Option ConditionPreview) := do
  match d.condition with
  | none => return none
  | some c =>
    let sample (use : SampleUse) (id : Nat) : Except NumeralError String :=
      sampleValue p.system.stats use id
    let low ← liftExcept (substituteStatValues (sample .dice) c.left)
    let high ← liftExcept (substituteStatValues (sample right) c.right)
    match ← ExceptT.lift (findings p.evaluate low high).run with
    | .error e => return some ⟨low, c.comparison, high, none, some e.message⟩
    | .ok (l, r) =>
      return some ⟨← liftExcept l.text, c.comparison, ← liftExcept r.text,
        some (Number.compare c.comparison l.value r.value), none⟩

/-- The preview of a condition has the samples from the other end of their range there. -/
theorem condition_eq_conditionWith (p : Preview m) :
    p.condition = p.conditionWith .conditionRight := rfl

/-- The roll of dice, if there are any. -/
def rollOf (p : Preview m) : Option Dice → ExceptT EvaluationFailure m (Option String)
  | none => pure none
  | some d => some <$> (p.dice d.expression).adapt .numeral

end

/-- The roll of a stat is that of the first of its dice that have no condition or one that a preview
reports to hold, and there is none exactly when there are no such dice. -/
structure RollsFirst (p : Preview Id) (s : Stat)
    (shows : Dice → ExceptT NumeralError Id (Option ConditionPreview)) : Prop where
  roll : p.statRoll s = p.rollOf (s.dice.find? (·.isReported shows))
  none_iff : p.statRoll s = pure none ↔ ∀ d ∈ s.dice, d.isReported shows = false

/-- On the right side of their condition dice ask only for stats that have the same sample there as
in dice. -/
def AsksAlike (p : Preview Id) (right : SampleUse) (d : Dice) : Prop :=
  ∀ c ∈ d.condition, ∀ id : Nat, AsksFor c.right id →
    sampleValue p.system.stats right id = sampleValue p.system.stats .dice id

end Preview

/-! ### Substitutions that agree -/

/-- A substitution depends only on the values of the ids that the text asks for. -/
theorem substituteStatValues_congr {text : String} {f g : Nat → Except NumeralError String}
    (h : ∀ id : Nat, AsksFor text id → f id = g id) :
    substituteStatValues f text = substituteStatValues g text :=
  substitute_congr fun k hk hv ↦ h k.meaning.id ⟨k, hk, hv, rfl⟩

/-! ### Conditions without effects -/

/-- A computation without effects comes to a result or fails. -/
theorem pure_or_throw {ε α : Type} (x : ExceptT ε Id α) :
    (∃ a, x = pure a) ∨ ∃ e, x = throw e := by
  rcases h : x.run.run with e | a
  · exact .inr ⟨e, h⟩
  · exact .inl ⟨a, h⟩

/-- A computation that comes to something does not come to nothing. -/
theorem map_some_ne {ε α : Type} (x : ExceptT ε Id α) : some <$> x ≠ pure none := by
  rcases pure_or_throw x with ⟨a, rfl⟩ | ⟨e, rfl⟩
  · rw [map_pure]
    exact nofun
  · exact nofun

theorem liftExcept_ok_bind {m : Type → Type} [Monad m] [LawfulMonad m] {ε α β : Type} (a : α)
    (f : α → ExceptT ε m β) : liftExcept (.ok a : Except ε α) >>= f = f a := pure_bind a f

section
variable {evaluate : Evaluator Id} {low high : String}

/-- Where nothing is found for a condition, one of its sides was refused. -/
theorem isRefusal_of_findings {e : EvaluationFailure}
    (hrefuse : ∀ text e, evaluate text = throw e → e.isRefusal = true)
    (h : findings evaluate low high = throw e) : e.isRefusal = true := by
  unfold findings at h
  rcases pure_or_throw (evaluate low) with ⟨f, hf⟩ | ⟨e', hf⟩
  · rw [hf, pure_bind] at h
    rcases pure_or_throw (evaluate high) with ⟨g, hg⟩ | ⟨e', hg⟩
    · rw [hg] at h
      cases h
    · rw [hg] at h
      cases h
      exact hrefuse high e hg
  · rw [hf] at h
    cases h
    exact hrefuse low e hf

/-- Whether a condition holds is decided by what is found for its sides. -/
theorem Condition.holds_eq {value : Nat → Except NumeralError String} {c : Condition}
    (hl : substituteStatValues value c.left = .ok low)
    (hr : substituteStatValues value c.right = .ok high) :
    c.holds evaluate value =
      (fun found ↦ Number.compare c.comparison found.1.value found.2.value) <$>
        findings evaluate low high := by
  simp [holds, operand, hl, hr, findings]

end

namespace Preview
variable {p : Preview Id} {right : SampleUse} {d : Dice} {c : Condition}

/-- The samples for the sides of a condition that has a preview can be put in. -/
theorem exists_sides_of_conditionWith {shown : Option ConditionPreview}
    (hc : d.condition = some c) (h : p.conditionWith right d = pure shown) :
    ∃ low high, substituteStatValues (sampleValue p.system.stats .dice ·) c.left = .ok low ∧
      substituteStatValues (sampleValue p.system.stats right ·) c.right = .ok high := by
  simp only [conditionWith, hc] at h
  cases hl : substituteStatValues (fun id : Nat ↦ sampleValue p.system.stats .dice id) c.left with
  | error e =>
    rw [hl] at h
    cases h
  | ok low =>
    cases hr : substituteStatValues (fun id : Nat ↦ sampleValue p.system.stats right id)
        c.right with
    | error e =>
      rw [hl, hr] at h
      cases h
    | ok high => exact ⟨low, high, rfl, rfl⟩

section
variable {low high : String} (hc : d.condition = some c)
  (hl : substituteStatValues (sampleValue p.system.stats .dice ·) c.left = .ok low)
  (hr : substituteStatValues (sampleValue p.system.stats right ·) c.right = .ok high)
include hc hl hr

/-- The preview of a condition writes out what is found for its sides. -/
theorem conditionWith_of_pure {f g : Finding} (h : findings p.evaluate low high = pure (f, g)) :
    p.conditionWith right d = do
      return some ⟨← liftExcept f.text, c.comparison, ← liftExcept g.text,
        some (Number.compare c.comparison f.value g.value), none⟩ := by
  simp only [conditionWith, hc, hl, hr, liftExcept_ok_bind, h]
  rfl

/-- The preview of a condition for which nothing is found says why. -/
theorem conditionWith_of_throw {e : EvaluationFailure}
    (h : findings p.evaluate low high = throw e) :
    p.conditionWith right d = pure (some ⟨low, c.comparison, high, none, some e.message⟩) := by
  simp only [conditionWith, hc, hl, hr, liftExcept_ok_bind, h]
  rfl

end

/-- A condition whose preview is there is reported to hold when it says so. -/
theorem isReported_of_conditionWith {shown : ConditionPreview} (hc : d.condition = some c)
    (h : p.conditionWith right d = pure (some shown)) :
    d.isReported (p.conditionWith right) = (shown.result == some true) := by
  simp only [Dice.isReported, hc, h]
  rfl

/-- Where something is found for a condition that has a preview, it is reported to hold when it
does. -/
theorem isReported_of_pure {low high : String} {f g : Finding} {shown : Option ConditionPreview}
    (hc : d.condition = some c)
    (hl : substituteStatValues (sampleValue p.system.stats .dice ·) c.left = .ok low)
    (hr : substituteStatValues (sampleValue p.system.stats right ·) c.right = .ok high)
    (h : findings p.evaluate low high = pure (f, g)) (hs : p.conditionWith right d = pure shown) :
    d.isReported (p.conditionWith right) = Number.compare c.comparison f.value g.value := by
  have hshown := conditionWith_of_pure hc hl hr h
  cases hf : f.text with
  | error e =>
    rw [hs, hf] at hshown
    cases hshown
  | ok left =>
    cases hg : g.text with
    | error e =>
      rw [hs, hf, hg] at hshown
      cases hshown
    | ok text =>
      rw [hf, hg, liftExcept_ok_bind, liftExcept_ok_bind] at hshown
      rw [isReported_of_conditionWith hc hshown]
      cases Number.compare c.comparison f.value g.value <;> rfl

/-- Where the samples on the right make no difference, dice with a preview apply exactly when they
are reported. -/
theorem applies_eq_isReported (hrefuse : ∀ text e, p.evaluate text = throw e → e.isRefusal = true)
    (ha : p.AsksAlike right d) (hs : ∃ shown, p.conditionWith right d = pure shown) :
    d.applies p.evaluate (sampleValue p.system.stats .dice ·) =
      pure (d.isReported (p.conditionWith right)) := by
  cases hc : d.condition with
  | none => simp only [Dice.applies, Dice.isReported, hc]
  | some c =>
    obtain ⟨shown, hs⟩ := hs
    obtain ⟨low, high, hl, hr⟩ := exists_sides_of_conditionWith hc hs
    have hsame := (substituteStatValues_congr (ha c hc)).symm.trans hr
    simp only [Dice.applies, hc, Condition.holds_eq hl hsame]
    rcases pure_or_throw (findings p.evaluate low high) with ⟨⟨f, g⟩, h⟩ | ⟨e, h⟩
    · rw [h, map_pure, tryCatch_pure, isReported_of_pure hc hl hr h hs]
    · -- the choice passes over what the preview shows as an error
      have he := isRefusal_of_findings hrefuse h
      rw [h, isReported_of_conditionWith hc (conditionWith_of_throw hc hl hr h)]
      change tryCatch (throw e) _ = _
      rw [tryCatch_throw, if_pos he]
      rfl

end Preview

/-! ### The first dice that apply -/

/-- Of dice that apply or do not, without effects, the first that apply are chosen. -/
theorem exists_chooseDice_eq_find? {m : Type → Type} [Monad m] [LawfulMonad m]
    {evaluate : Evaluator m} {value : Nat → Except NumeralError String} {picks : Dice → Bool}
    {dice : List Dice}
    (h : ∀ d, IsReached picks dice d → d.applies evaluate value = pure (picks d)) :
    ∃ choice, chooseDice evaluate value dice = pure choice ∧
      choice.map Prod.snd = dice.find? picks := by
  induction dice with
  | nil => exact ⟨none, rfl, rfl⟩
  | cons d dice ih =>
    have hd := h d ⟨[], dice, rfl, by simp⟩
    cases hp : picks d with
    | true =>
      refine ⟨some (0, d), ?_, ?_⟩
      · rw [chooseDice, hd, pure_bind, hp, if_pos rfl]
      · rw [List.find?_cons_of_pos hp]
        rfl
    | false =>
      have hrest : ∀ b, IsReached picks dice b → b.applies evaluate value = pure (picks b) := by
        rintro b ⟨before, after, rfl, hn⟩
        exact h b ⟨d :: before, after, rfl, List.forall_mem_cons.mpr ⟨hp, hn⟩⟩
      obtain ⟨choice, hc, hf⟩ := ih hrest
      refine ⟨choice.map fun pair ↦ (pair.1 + 1, pair.2), ?_, ?_⟩
      · rw [chooseDice, hd, pure_bind, hp, if_neg (by decide), hc, pure_bind]
      · rw [List.find?_cons_of_neg (by rw [hp]; decide), ← hf, Option.map_map]
        rfl

/-! ### Main statement -/

namespace Preview
variable {p : Preview Id} {right : SampleUse} {s : Stat}

/-- A stat is rolled with the first of its dice that are reported where the dice up to those have
previews and the samples on the right side of their conditions make no difference. -/
theorem rollsFirst_of_asksAlike
    (hrefuse : ∀ text e, p.evaluate text = throw e → e.isRefusal = true)
    (h : ∀ d, IsReached (·.isReported (p.conditionWith right)) s.dice d →
      (∃ shown, p.conditionWith right d = pure shown) ∧ p.AsksAlike right d) :
    p.RollsFirst s (p.conditionWith right) := by
  obtain ⟨choice, hc, hf⟩ := exists_chooseDice_eq_find? fun d hd ↦
    applies_eq_isReported hrefuse (h d hd).2 (h d hd).1
  have hroll : p.statRoll s = p.rollOf (s.dice.find? (·.isReported (p.conditionWith right))) := by
    rw [statRoll, hc, pure_bind, ← hf]
    rcases choice with _ | ⟨n, d⟩
    · rfl
    · exact bind_pure_comp some _
  refine ⟨hroll, ?_⟩
  rw [hroll]
  cases hfind : s.dice.find? (·.isReported (p.conditionWith right)) with
  | none => exact iff_of_true rfl (by simpa using List.find?_eq_none.mp hfind)
  | some d =>
    refine iff_of_false (map_some_ne _) fun hn ↦ ?_
    have hd := List.find?_some hfind
    rw [hn d (List.mem_of_find?_eq_some hfind)] at hd
    contradiction

/-- With an evaluator that does nothing but find or refuse, a stat is rolled with the first of its
dice that have no condition or one that holds with the samples of dice on both sides, as far as its
previews are there. The preview of a condition, which has other samples on the right, reports the
same as long as the dice up to those ask there for stats with the same sample at both ends. -/
theorem statRoll_first (hrefuse : ∀ text e, p.evaluate text = throw e → e.isRefusal = true) :
    ((∀ d, IsReached (·.isReported (p.conditionWith .dice)) s.dice d →
        ∃ shown, p.conditionWith .dice d = pure shown) →
      p.RollsFirst s (p.conditionWith .dice)) ∧
    ((∀ d, IsReached (·.isReported p.condition) s.dice d →
        (∃ shown, p.condition d = pure shown) ∧ p.AsksAlike .conditionRight d) →
      p.RollsFirst s p.condition) := by
  constructor
  · exact fun h ↦ rollsFirst_of_asksAlike hrefuse fun d hd ↦ ⟨h d hd, fun _ _ _ _ ↦ rfl⟩
  · rw [condition_eq_conditionWith]
    exact rollsFirst_of_asksAlike hrefuse

/-- A stat with two bounds and dice. -/
def diceStat (least greatest : Int) (dice : List Dice) : Stat where
  id := 1
  detail := .numeric (some (.int least)) (some (.int greatest)) { dice := dice }

/-- A preview of a system with that stat, in which dice are handed back as they are. -/
def ofDiceStat (least greatest : Int) (dice : List Dice) : Preview Id where
  system := { stats := [diceStat least greatest dice] }
  locale := "default"
  language := .english
  evaluate := Arithmetic.evaluator
  roll := fun expression ↦ pure expression

/-- Dice with a condition that has no value, dice with one that holds, and dice without one. -/
def threeDice : List Dice := [
  { expression := "1d1", condition := some ⟨"<stat:1:value>/", .eq, "3"⟩ },
  { expression := "2d1", condition := some ⟨"<stat:1:value>", .ge, "<stat:1:value>"⟩ },
  { expression := "3d1" }]

/-- The evaluator that computes does nothing but find or refuse. -/
theorem isRefusal_of_evaluator {text : String} {e : EvaluationFailure}
    (h : Arithmetic.evaluator (m := Id) text = throw e) : e.isRefusal = true := by
  rcases evaluator_cases text with ⟨finding, hf⟩ | ⟨e', he, hf⟩
  · rw [hf] at h
    cases h
  · rw [hf] at h
    cases h
    exact he

/-- The first of those dice are passed over, and the second are rolled. -/
theorem statRoll_first_refused :
    let p := ofDiceStat 3 3 threeDice
    let s := diceStat 3 3 threeDice
    p.RollsFirst s (p.conditionWith .dice) ∧ p.RollsFirst s p.condition ∧
      (p.statRoll s).run.run = .ok (some "🎲 2d1") := by
  intro p s
  have halike (id : Int) :
      sampleValue p.system.stats .conditionRight id = sampleValue p.system.stats .dice id := by
    by_cases hid : id = 1
    · subst hid
      decide +kernel
    · have hn : findStat p.system.stats id = none := by
        simpa [p, ofDiceStat, diceStat, findStat] using fun h ↦ hid h.symm
      rw [sampleValue, sampleValue, hn]
      decide
  have hshown (right : SampleUse) :
      ∀ d ∈ s.dice, ∃ shown, p.conditionWith right d = pure shown := by
    have hok : ∀ d ∈ s.dice, (p.conditionWith right d).run.run.isOk = true := by
      cases right <;> decide +kernel
    intro d hd
    rcases pure_or_throw (p.conditionWith right d) with h | ⟨e, h⟩
    · exact h
    · have hd := hok d hd
      rw [h] at hd
      contradiction
  have hmem {picks : Dice → Bool} {d : Dice} (hd : IsReached picks s.dice d) : d ∈ s.dice := by
    obtain ⟨before, after, hd, -⟩ := hd
    rw [hd]
    simp
  obtain ⟨hlow, hhigh⟩ := statRoll_first (p := p) (s := s) fun text e ↦ isRefusal_of_evaluator
  refine ⟨hlow fun d hd ↦ hshown .dice d (hmem hd), hhigh fun d hd ↦ ?_, by decide +kernel⟩
  exact ⟨hshown .conditionRight d (hmem hd), fun _ _ id _ ↦ halike id⟩

/-- The preview of the one condition puts the greatest value on its right side and reports that it
does not hold; the choice among dice has the least value there, and takes the dice. -/
theorem not_rollsFirst_condition :
    let d : Dice :=
      { expression := "1d1", condition := some ⟨"<stat:1:value>", .eq, "<stat:1:value>"⟩ }
    let p := ofDiceStat 1 5 [d]
    let s := diceStat 1 5 [d]
    (p.condition d).run.run = .ok (some ⟨"1", .eq, "5", some false, none⟩) ∧
      (p.statRoll s).run.run = .ok (some "🎲 1d1") ∧ ¬ p.RollsFirst s p.condition := by
  intro d p s
  have hroll : (p.statRoll s).run.run = .ok (some "🎲 1d1") := by decide +kernel
  refine ⟨by decide +kernel, hroll, fun h ↦ ?_⟩
  have hnone : (p.statRoll s).run.run = .ok none := by
    rw [h.none_iff.mpr (by decide +kernel)]
    rfl
  rw [hroll] at hnone
  contradiction

end Preview
end CharacterSheet
