import CharacterSheet.Proofs.Preview.Simultaneity

/-!
# What a preview depends on

A preview looks up the stats and the sections that its text refers to, in the bodies of expressions
as elsewhere. Of a stat that shares its options it looks up the other stat as well, and no further:
an enumeration that only shares options has none to share. Main statement: two schemas in which the
same is found for everything that a text refers to give the same preview of it.
-/

namespace CharacterSheet

open Mention

/-- The stat with which a stat shares its options, if it does, is the same in two schemas. -/
def Stat.SharesAlike (s t : GameSystem) (a : Stat) : Prop :=
  ∀ id ∈ a.sharesWith?, findStat s.stats id = findStat t.stats id

/-- In two schemas the same is found for a reference. -/
structure Reference.FoundAlike (s t : GameSystem) (r : Reference) : Prop where
  stat : r.subject = .stat → findStat s.stats r.id = findStat t.stats r.id
  shared : r.subject = .stat → ∀ a ∈ findStat s.stats r.id, a.SharesAlike s t
  sheetSection : r.subject = .sheetSection →
    findSection s.sections r.id = findSection t.sections r.id

/-- The same preview of another schema. -/
def Preview.withSystem {m : Type → Type} (p : Preview m) (t : GameSystem) : Preview m :=
  { p with system := t }

/-! ### Tokens refer to what their text refers to -/

/-- The mentions in the tokens of a text are mentions of the text. -/
theorem exists_readFrom_of_mem {text : String} (h : ReadableIds text) {t : Token}
    (ht : t ∈ (scan text).found) :
    ∃ ms, t.ReadFrom ms ∧ ∀ k ∈ ms, k.OccursIn text.toList := by
  obtain ⟨-, parts, hp, he⟩ := Scan.fromRun_readFrom [] (allReadable_of_readableIds h)
  obtain ⟨ms, hms, hr⟩ := Checked.exists_mem_of_forall₂ (List.Forall₂.flip hp) ht
  refine ⟨ms, hr, fun k hk ↦ mem_readAll_iff.mp ?_⟩
  rw [← he]
  exact List.mem_flatten.mpr ⟨ms, hms, hk⟩

/-- The stats to which a text refers are those of the stat references that are listed for it, with
those in expressions. -/
theorem exists_statReferences {text : String} (h : ReadableIds text) :
    ∃ rs, statReferences text = .ok rs ∧ ∀ r, r ∈ rs ↔ RefersTo text r ∧ r.subject = .stat := by
  refine ⟨_, statReferences_eq h, fun r ↦ ?_⟩
  have hs (k : Mention) : k.statMeaning? = some r ↔ k.meaning = r ∧ r.subject = .stat := by
    change (if k.meaning.subject = .stat then some k.meaning else none) = some r ↔ _
    split_ifs with hk
    · constructor
      · rintro ⟨⟩
        exact ⟨rfl, hk⟩
      · rintro ⟨rfl, -⟩
        rfl
    · constructor
      · nofun
      · rintro ⟨rfl, hr⟩
        exact absurd hr hk
  simp only [List.mem_filterMap, mem_readAll_iff, hs, RefersTo]
  constructor
  · rintro ⟨k, hk, rfl, hr⟩
    exact ⟨⟨k, hk, rfl⟩, hr⟩
  · rintro ⟨⟨k, hk, rfl⟩, hr⟩
    exact ⟨k, hk, rfl, hr⟩

/-- A reference that is a token of a text is one to which the text refers. -/
theorem refersTo_of_mem {text : String} (h : ReadableIds text) {r : Reference}
    (hr : .reference r ∈ (scan text).found) : RefersTo text r := by
  obtain ⟨ms, hms, hk⟩ := exists_readFrom_of_mem h hr
  cases hms with
  | @reference k hd => exact ⟨k, hk k (List.mem_singleton_self k), rfl⟩

/-- A text refers to everything that the body of one of its expressions refers to. -/
theorem RefersTo.of_body {text : String} (h : ReadableIds text) {kind : ExpressionKind}
    {body : String} (hb : .expression kind body ∈ (scan text).found) {r : Reference}
    (hr : RefersTo body r) : RefersTo text r := by
  obtain ⟨k, hk, rfl⟩ := hr
  obtain ⟨ms, hms, ho⟩ := exists_readFrom_of_mem h hb
  cases hms with
  | @expression _ body hu =>
    rw [String.toList_ofList] at hk
    exact ⟨k, ho k (mem_readAll_iff.mpr hk), rfl⟩

/-- When all references are replaced, what is put in depends on the references of the text. -/
theorem substituteReferences_congr {text : String} {f g : Reference → Except NumeralError String}
    (h : ∀ r, RefersTo text r → f r = g r) :
    substituteReferences f text = substituteReferences g text :=
  substitute_congr fun k hk _ ↦ h k.meaning ⟨k, hk, rfl⟩

/-! ### What is found for references -/

section
variable {s t : GameSystem} {a : Stat}

/-- The options of an enumeration are the same where those that it shares are. -/
theorem Stat.SharesAlike.resolveOptions_eq (h : a.SharesAlike s t) {source : OptionSource}
    {rolls : Rolls} (hd : a.detail = .enumeration source rolls) :
    resolveOptions s.stats source = resolveOptions t.stats source := by
  cases source with
  | own options => rfl
  | sharedWith id =>
    have hid : id ∈ a.sharesWith? := by rw [sharesWith?, hd]; rfl
    rw [resolveOptions, resolveOptions, h id hid]

theorem Stat.SharesAlike.sample_eq (h : a.SharesAlike s t) (profile : SampleProfile) :
    a.sample s.stats profile = a.sample t.stats profile := by
  unfold sample
  split
  · rfl
  · rfl
  · next source rolls hd => rw [h.resolveOptions_eq hd]
  · rfl
  · rfl

variable {m : Type → Type} {p : Preview m}

theorem Stat.SharesAlike.shownValue_eq (h : a.SharesAlike p.system t) :
    (p.withSystem t).shownValue a = p.shownValue a := by
  unfold Preview.shownValue
  split
  · rfl
  · rfl
  · rfl
  · rfl
  · next source rolls hd =>
    rw [h.resolveOptions_eq hd]
    rfl

namespace Preview
variable {r : Reference}

theorem reference_withSystem (h : r.FoundAlike p.system t) :
    (p.withSystem t).reference r = p.reference r := by
  obtain ⟨subject, id, property⟩ := r
  cases subject with
  | stat =>
    have hs : findStat p.system.stats id = findStat (p.withSystem t).system.stats id := h.stat rfl
    have hshared := h.shared rfl
    dsimp only [reference, Preview.property]
    unfold statProperty
    rw [← hs]
    cases hf : findStat p.system.stats id with
    | none => rfl
    | some a =>
      simp only [(hshared a hf).shownValue_eq]
      rfl
  | sheetSection =>
    have hs : findSection p.system.sections id = findSection (p.withSystem t).system.sections id :=
      h.sheetSection rfl
    dsimp only [reference, Preview.property]
    unfold sectionProperty
    rw [← hs]
    rfl

theorem insertion_withSystem (h : r.FoundAlike p.system t) (use : SampleUse) :
    (p.withSystem t).insertion use r = p.insertion use r := by
  unfold insertion
  split
  · next hv =>
    have hsubject : r.subject = .stat := by
      simp only [Reference.isStatValue, Bool.and_eq_true, decide_eq_true_eq] at hv
      exact hv.1
    have hs : findStat (p.withSystem t).system.stats r.id = findStat p.system.stats r.id :=
      (h.stat hsubject).symm
    rw [sampleValue, sampleValue, hs]
    cases hf : findStat p.system.stats r.id with
    | none => rfl
    | some a => exact ((h.shared hsubject a hf).sample_eq use.profile).symm
  · exact reference_withSystem h

/-! ### Previews -/

/-- The body of an expression is handed on alike where the same is found for its references. -/
theorem payload_withSystem {body : String} (hu : Unclosed body.toList) (hr : ReadableIds body)
    (h : ∀ r, RefersTo body r → r.FoundAlike p.system t) (use : SampleUse) :
    (p.withSystem t).payload use body = p.payload use body := by
  rw [payload_eq_substituteReferences hu hr, payload_eq_substituteReferences hu hr]
  exact substituteReferences_congr fun r hb ↦ insertion_withSystem (h r hb) use

variable [Monad m]

/-- What takes the place of a token is the same where the same is found for its references. -/
theorem token_withSystem {text : String} (hr : ReadableIds text)
    (h : ∀ r, RefersTo text r → r.FoundAlike p.system t) {u : Token} (hu : u ∈ (scan text).found) :
    (p.withSystem t).token u = p.token u := by
  cases u with
  | reference r => rw [token, token, reference_withSystem (h r (refersTo_of_mem hr hu))]
  | expression kind body =>
    obtain ⟨source, hreads⟩ := Scan.exists_reads hu
    obtain ⟨hclosed, hbody⟩ := hreads.body
    have hpayload := payload_withSystem hclosed hbody fun r hb ↦ h r (hb.of_body hr hu)
    cases kind with
    | math =>
      rw [token, token, math, math, hpayload]
      rfl
    | dice =>
      rw [token, token, dice, dice, hpayload]
      rfl

/-- A preview depends only on what its text refers to: in two schemas where the same stats and
sections are found for the references of a text, in expressions as elsewhere, and the same stats for
the options that the stats among them share, it is the same, with the same locale and language, and
whatever the evaluator and the roller do. -/
theorem render_withSystem [LawfulMonad m] (p : Preview m) (t : GameSystem) {text : String}
    (hr : ReadableIds text) (h : ∀ r, RefersTo text r → r.FoundAlike p.system t) :
    (p.withSystem t).render text = p.render text := by
  rw [render_eq_join hr, render_eq_join hr]
  refine congrArg _ (mapM_congr fun seg hs ↦ ?_)
  cases seg with
  | literal run => rfl
  | token u source =>
    have hu : u ∈ (scan text).found := List.mem_filterMap.mpr ⟨_, hs, rfl⟩
    exact token_withSystem hr h hu

/-- A schema in which a stat shares the options of another, a number and a section, among other
stats. -/
def amongOthers (others : List Stat) : GameSystem where
  stats :=
    { id := 1, name := { default := "A" }, detail := .enumeration (.sharedWith 2) {} } ::
      others ++ [
        { id := 2, name := { default := "B" },
          detail := .enumeration (.own [{ value := 8, name := { default := "x" } }]) {} },
        { id := 3, name := { default := "C" }, detail := .numeric (some (.int 4)) none {} }]
  sections := [{ id := 5, name := { default := "P" } }]

/-- A text that refers to the stat with shared options, in an expression as well, and to the
section. -/
def referringText : String :=
  "<stat:1:value> <math:2*<stat:3:value>+<stat:1:value>> <section:5:name>"

/-- A stat that the text does not refer to and that no options are shared with may come between the
others. -/
theorem render_withSystem_other :
    let p : Preview Id := { ofOpening with system := amongOthers [] }
    let t := amongOthers [{ id := 7, detail := .boolean {} }]
    ReadableIds referringText ∧ (∀ r, RefersTo referringText r → r.FoundAlike p.system t) ∧
      (p.withSystem t).render referringText = p.render referringText ∧
      ((p.withSystem t).render referringText).run.run = .ok "x 16 P" := by
  intro p t
  have hr : ReadableIds referringText := readableIds_of_length_le (by decide)
  have h : ∀ r, RefersTo referringText r → r.FoundAlike p.system t := by
    rintro r ⟨k, hk, rfl⟩
    have hall : (readAll referringText.toList).map Mention.meaning =
        [⟨.stat, 1, .value⟩, ⟨.stat, 3, .value⟩, ⟨.stat, 1, .value⟩,
          ⟨.sheetSection, 5, .name⟩] := by decide +kernel
    have hm := List.mem_map_of_mem (f := Mention.meaning) (mem_readAll_iff.mpr hk)
    rw [hall] at hm
    have hshared : (⟨.stat, 1, .value⟩ : Reference).FoundAlike p.system t := by
      refine ⟨fun _ ↦ rfl, fun _ a ha id hid ↦ ?_, nofun⟩
      cases ha
      cases hid
      rfl
    have hnumber : (⟨.stat, 3, .value⟩ : Reference).FoundAlike p.system t := by
      refine ⟨fun _ ↦ rfl, fun _ a ha id hid ↦ ?_, nofun⟩
      cases ha
      cases hid
    have hsection : (⟨.sheetSection, 5, .name⟩ : Reference).FoundAlike p.system t :=
      ⟨nofun, nofun, fun _ ↦ rfl⟩
    simp only [List.mem_cons, List.not_mem_nil, or_false] at hm
    rcases hm with hm | hm | hm | hm <;> rw [hm] <;> assumption
  exact ⟨hr, h, render_withSystem p t hr h, by decide +kernel⟩

end Preview
end
end CharacterSheet
