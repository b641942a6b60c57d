import CharacterSheet.Proofs.Schema.Legible
import CharacterSheet.Proofs.Token.Lookups

/-!
# Legible drafts

A draft of a legible document is legible, and so are the stats that were read for it: the ids in
their texts can be read, and their samples can be written. The text that names the stat for
initiative has no place in this. A row of digits of any kind is taken for an id there, but an
integer is read from decimal digits only, and not from too many. Main statements: the draft of a
legible document is legible, and which texts for initiative can be read.
-/

namespace CharacterSheet

/-! ### The stat for initiative -/

namespace Text
variable {p : Char → Bool} {cs : List Char} {c : Char}

theorem mem_of_mem_trimWhere (h : c ∈ trimWhere p cs) : c ∈ cs := by
  have hd := (List.dropWhile_sublist _).subset (List.mem_reverse.mp h)
  exact (List.dropWhile_sublist _).subset (List.mem_reverse.mp hd)

theorem mem_dropWhile_or (h : c ∈ cs) : p c = true ∨ c ∈ cs.dropWhile p := by
  rw [← List.takeWhile_append_dropWhile (p := p) (l := cs)] at h
  exact (List.mem_append.mp h).imp_left (List.all_eq_true.mp List.all_takeWhile c)

/-- Trimming takes away nothing but characters of its class. -/
theorem mem_trimWhere_or (h : c ∈ cs) : p c = true ∨ c ∈ trimWhere p cs := by
  rcases mem_dropWhile_or h with hp | hd
  · exact .inl hp
  · exact (mem_dropWhile_or (List.mem_reverse.mpr hd)).imp_right List.mem_reverse.mpr

end Text

namespace Numeral
open Text

/-- A text without underscores is none the shorter without them. -/
theorem dropSeparators?_eq {cs : List Char} (h : '_' ∉ cs) (afterDigit : Bool) :
    dropSeparators? afterDigit cs = some cs := by
  induction cs generalizing afterDigit with
  | nil => rfl
  | cons c cs ih =>
    have hc : c ≠ '_' := (List.ne_of_not_mem_cons h).symm
    unfold dropSeparators?
    split
    · contradiction
    · next heq =>
      exact absurd (List.cons.inj heq).1 hc
    · next heq =>
      obtain ⟨rfl, rfl⟩ := List.cons.inj heq
      rw [if_neg hc, ih (List.not_mem_of_not_mem_cons h)]
      rfl

theorem splitSign_eq {cs : List Char} (hm : '-' ∉ cs) (hp : '+' ∉ cs) :
    splitSign cs = (false, cs) := by
  unfold splitSign
  split
  · exact absurd List.mem_cons_self hm
  · exact absurd List.mem_cons_self hp
  · rfl

/-- A row of digits is read as an integer exactly when its digits are decimal, are not too many and
have nothing but white space around them. -/
theorem exists_readInteger_iff {t : String} (h : looksLikeId t = true) :
    (∃ n, readInteger t = .ok n) ↔
      (∀ c ∈ trimWhere isWhiteSpace t.toList, isDecimalDigit c = true) ∧
        (trimWhere isWhiteSpace t.toList).length ≤ maxDigits := by
  simp only [looksLikeId, Bool.and_eq_true, Bool.not_eq_true', List.isEmpty_eq_false_iff] at h
  obtain ⟨hne, hdigits⟩ := h
  -- the text holds no sign and no underscore, for these are neither blanks nor digits
  have hclean (c : Char) (hc : isBlank c = false) (hd : isAnyDigit c = false) :
      c ∉ trimWhere isWhiteSpace t.toList := by
    intro hm
    rcases mem_trimWhere_or (p := isBlank) (mem_of_mem_trimWhere hm) with hb | ht
    · rw [hc] at hb
      contradiction
    · rw [List.all_eq_true.mp hdigits c ht] at hd
      contradiction
  have hfull : trimWhere isWhiteSpace t.toList ≠ [] := by
    intro he
    refine hne (trimWhere_eq_nil (List.all_eq_true.mpr fun c hc ↦ ?_))
    rcases mem_trimWhere_or (p := isWhiteSpace) hc with hw | hm
    · exact (Bool.and_eq_true_iff.mp hw).1
    · rw [he] at hm
      cases hm
  unfold readInteger
  rw [splitSign_eq (hclean '-' (by decide) (by decide)) (hclean '+' (by decide) (by decide))]
  dsimp only
  rw [dropSeparators?_eq (hclean '_' (by decide) (by decide)) false]
  generalize trimWhere isWhiteSpace t.toList = ds at hfull
  simp only [readDigits, Bool.and_eq_true, Bool.not_eq_true', List.isEmpty_eq_false_iff,
    List.all_eq_true, ne_eq, hfull, not_false_eq_true, true_and]
  by_cases hd : ∀ c ∈ ds, isDecimalDigit c = true
  · rw [if_pos hd]
    by_cases hl : ds.length ≤ maxDigits
    · simpa [hl, Except.map] using hd
    · simp [hl, Except.map]
  · simp [hd]

end Numeral

/-- The stat for initiative is named by nothing that is taken for an id and cannot be read: a row of
digits has decimal digits only, not too many, and nothing but white space around them. -/
def Initiative.IsReadable (i : Initiative) : Prop :=
  ∀ t, i.id = some (.text t) → looksLikeId t = true →
    (∀ c ∈ Text.trimWhere Text.isWhiteSpace t.toList, Text.isDecimalDigit c = true) ∧
      (Text.trimWhere Text.isWhiteSpace t.toList).length ≤ maxDigits

theorem Initiative.exists_stat?_iff {i : Initiative} :
    (∃ id, i.stat? = .ok id) ↔ i.IsReadable := by
  unfold Initiative.stat? Initiative.IsReadable
  cases i.id with
  | none => simp
  | some id =>
    cases id with
    | number n => simp
    | text s =>
      by_cases hs : looksLikeId s = true
      · have hread := Numeral.exists_readInteger_iff hs
        simp only [Option.some.injEq, InitiativeId.text.injEq, forall_eq', hs, if_true,
          forall_const, ← hread]
        cases Numeral.readInteger s <;> simp [Except.map]
      · simp [hs]

/-! ### Drafts of legible documents -/

/-- The item of an entry has a property, and the id of the entry can be written. -/
structure Entry.IsLegible {α : Type} (q : α → Prop) (e : Entry α) : Prop where
  item : ∀ a ∈ e.item, q a
  id : ∀ id ∈ e.id, Numeral.isWritable id = true

/-- A draft in which all ids can be read and all integers can be written. -/
structure Draft.IsLegible (d : Draft) : Prop where
  stats : ∀ e ∈ d.stats.getD [], e.IsLegible Stat.IsLegible
  sections : ∀ e ∈ d.sections.getD [], e.IsLegible SheetSection.IsLegible
  integrations : ∀ i, d.integrations = .ok (some i) → i.IsLegible

/-- The stat for initiative is named by nothing that is taken for an id and cannot be read. -/
def Draft.InitiativeIsReadable (d : Draft) : Prop :=
  ∀ i, d.integrations = .ok (some i) → ∀ a ∈ i.initiative, a.IsReadable

section
variable {α : Type} {id : α → Int} {read : Json → Checked α} {q : α → Prop}

theorem Entry.isLegible_read (h : Checked.Yields read q)
    (hq : ∀ a, q a → Numeral.isWritable (id a) = true) {v : Json} (hv : v.IsLegible) :
    (Entry.read id read v).IsLegible q := by
  unfold Entry.read
  cases hr : read v with
  | ok a =>
    have ha := h hv hr
    exact ⟨by rintro b ⟨⟩; exact ha, by rintro n ⟨⟩; exact hq a ha⟩
  | bad faults =>
    refine ⟨by rintro b ⟨⟩, fun n hn ↦ ?_⟩
    change n ∈ rawId? v at hn
    unfold rawId? at hn
    split at hn
    · next k hk =>
      obtain ⟨fs, hfs, hk⟩ := Option.bind_eq_some_iff.mp hk
      cases hn
      exact (hv.of_get? hfs hk).writable (.int n) List.mem_cons_self n rfl
    · cases hn

theorem Draft.isLegible_readEntries (h : Checked.Yields read q)
    (hq : ∀ a, q a → Numeral.isWritable (id a) = true) {v : Json} (hv : v.IsLegible) :
    ∀ e ∈ (readEntries id read v).getD [], e.IsLegible q := by
  unfold readEntries
  split
  · next items =>
    intro e he
    obtain ⟨w, hw, rfl⟩ := List.mem_map.mp he
    exact Entry.isLegible_read h hq (hv.of_mem hw)
  · simp

end

/-- The draft in a legible document is legible. -/
theorem Draft.isLegible_of_read {v : Json} {d : Draft} (hv : v.IsLegible) (h : read v = some d) :
    d.IsLegible := by
  obtain ⟨fs, hfs, rfl⟩ := Option.map_eq_some_iff.mp h
  have hfield (key : String) : ((Json.Fields.get? key fs).getD .null).IsLegible := by
    cases hk : Json.Fields.get? key fs with
    | none => exact ⟨rfl, List.forall_mem_nil _, List.forall_mem_nil _⟩
    | some w => exact hv.of_get? hfs hk
  exact {
    stats := isLegible_readEntries Stat.yields_read (fun _ hs ↦ hs.id) (hfield "stats")
    sections :=
      isLegible_readEntries SheetSection.yields_read (fun _ hs ↦ hs.id) (hfield "sections")
    integrations := fun i hi ↦
      Integrations.yields_read.nullable (hfield "integrations") hi i rfl }

/-- The stats of a legible draft are legible. -/
theorem Draft.IsLegible.readStats {d : Draft} (h : d.IsLegible) :
    ∀ s ∈ d.readStats, s.IsLegible := by
  intro s hs
  obtain ⟨e, he, hi⟩ := List.mem_filterMap.mp hs
  exact (h.stats e he).item s hi

namespace Stat.IsLegible
variable {s : Stat} (h : s.IsLegible)
include h

theorem rolls : s.rolls.IsLegible := by
  have hd := h.detail
  unfold Stat.rolls
  cases hs : s.detail with
  | numeric min max rolls => rw [hs] at hd; exact hd.2.2
  | enumeration source rolls => rw [hs] at hd; exact hd.2
  | boolean rolls => rw [hs] at hd; exact hd
  | text low high => exact ⟨by rintro _ ⟨⟩, by rintro _ ⟨⟩⟩
  | calculated formula rolls => rw [hs] at hd; exact hd.2

theorem dice : ∀ d ∈ s.dice, d.IsLegible := by
  unfold Stat.dice
  cases hr : s.rolls.dice with
  | none => simp
  | some ds => exact h.rolls.dice ds hr

theorem replacements : ∀ r ∈ s.replacements, r.IsLegible := by
  unfold Stat.replacements
  cases hr : s.rolls.replacements with
  | none => simp
  | some rs => exact h.rolls.replacements rs hr

theorem formula {f : String} (hf : f ∈ s.formula?) : ReadableIds f := by
  have hd := h.detail
  unfold Stat.formula? at hf
  split at hf
  · next f' rolls hs =>
    cases hf
    rw [hs] at hd
    exact hd.1
  · cases hf

end Stat.IsLegible

/-! ### Samples and shown texts -/

theorem Number.isWritable_getD {o : Option Number} (h : ∀ n ∈ o, n.IsWritable) {k : Int}
    (hk : k.natAbs < 10) : (o.getD (.int k)).IsWritable := by
  cases o with
  | none =>
    rintro i ⟨⟩
    exact Numeral.isWritable_of_lt (k := 1) (by decide) hk
  | some n => exact h n rfl

section
variable {stats : List Stat} (h : ∀ s ∈ stats, s.IsLegible)
include h

/-- The options of a legible enumeration are legible. -/
theorem isLegible_of_resolveOptions {source : OptionSource} (hs : source.IsLegible)
    {options : List EnumOption} (ho : resolveOptions stats source = some options) :
    ∀ o ∈ options, o.IsLegible := by
  cases source with
  | own own =>
    cases ho
    exact hs
  | sharedWith id =>
    obtain ⟨s, hf, ho⟩ := Option.bind_eq_some_iff.mp ho
    have hd := (h s (mem_of_findStat hf)).detail
    unfold Stat.ownOptions? at ho
    split at ho
    · next own rolls hs =>
      cases ho
      rw [hs] at hd
      exact hd.1
    · cases ho

/-- The sample of a legible stat can be written. -/
theorem isWritable_of_sampleInteger? {use : SampleUse} {id n : Int}
    (hn : n ∈ sampleInteger? stats use id) : Numeral.isWritable n = true := by
  obtain ⟨s, hs, hn⟩ := Option.bind_eq_some_iff.mp hn
  have hd := (h s (mem_of_findStat hs)).detail
  split at hn
  · next min max rolls he =>
    rw [he] at hd
    have hbound : ∀ n ∈ (if use.profile.takesMax then max else min), n.IsWritable := by
      split
      · exact hd.2.1
      · exact hd.1
    exact Number.isWritable_getD hbound (by cases use <;> decide) n hn
  · next source rolls he =>
    rw [he] at hd
    obtain ⟨o, ho, rfl⟩ := Option.map_eq_some_iff.mp hn
    have hm := List.mem_of_getElem? ho
    cases hr : resolveOptions stats source with
    | none => simp [hr] at hm
    | some options =>
      rw [hr] at hm
      exact (isLegible_of_resolveOptions h hd.1 hr o hm).value
  · cases hn
  · cases hn
  · cases hn

theorem exists_sampleValue (use : SampleUse) (id : Int) :
    ∃ text, sampleValue stats use id = .ok text :=
  exists_sampleValue_iff.mpr fun _ hn ↦ isWritable_of_sampleInteger? h hn

/-- Samples are put in the places of the values that a text with readable ids asks for. -/
theorem exists_substituteStatValues (use : SampleUse) {text : String} (ht : ReadableIds text) :
    ∃ expression, substituteStatValues (fun id : Nat ↦ sampleValue stats use id) text =
      .ok expression := by
  have hs : ∃ texts, (mentionedIds text).mapM (fun id : Nat ↦ sampleValue stats use id) =
      .ok texts := exists_mapM_eq_ok_iff.mpr fun id _ ↦ exists_sampleValue h use id
  obtain ⟨texts, hs⟩ := hs
  rw [substituteStatValues_eq ht, hs]
  exact ⟨_, rfl⟩

end

namespace Preview
variable {m : Type → Type} {p : Preview m} (h : ∀ s ∈ p.system.stats, s.IsLegible)
include h

/-- What is shown for the value of a legible stat can be written. -/
theorem isWritable_of_valueIntegers {s : Stat} (hs : s.IsLegible) {n : Int}
    (hn : n ∈ p.valueIntegers s) : Numeral.isWritable n = true := by
  have hd := hs.detail
  unfold valueIntegers at hn
  split at hn
  · next min max rolls he =>
    rw [he] at hd
    exact Number.isWritable_getD hd.1 (by decide) n (Option.mem_toList.mp hn)
  · next source rolls he =>
    rw [he] at hd
    split at hn
    · next o options ho =>
      have ho := isLegible_of_resolveOptions h hd.1 ho o List.mem_cons_self
      exact ho.name.writable.of_mem_shownIntegers hn
    · cases hn
    · split at hn
      · rw [List.mem_singleton.mp hn]
        exact hd.1
      · cases hn
  · cases hn
  · cases hn
  · cases hn

/-- What is shown for a reference can be written where stats and sections are legible. -/
theorem exists_reference (hsec : ∀ s ∈ p.system.sections, s.IsLegible) (r : Reference) :
    ∃ text, p.reference r = .ok text := by
  refine exists_reference_iff.mpr fun n hn ↦ ?_
  unfold shownIntegers at hn
  split at hn
  · cases hs : findStat p.system.stats r.id with
    | none => simp [hs] at hn
    | some s =>
      rw [hs] at hn
      exact isWritable_of_valueIntegers h (h s (mem_of_findStat hs)) hn
  · cases hs : findStat p.system.stats r.id with
    | none => simp [hs] at hn
    | some s =>
      rw [hs] at hn
      exact (h s (mem_of_findStat hs)).name.writable.of_mem_shownIntegers hn
  · cases hs : findSection p.system.sections r.id with
    | none => simp [hs] at hn
    | some s =>
      rw [hs] at hn
      have hs := hsec s (List.mem_of_find?_eq_some hs)
      exact hs.name.writable.of_mem_shownIntegers hn
  · cases hn

end Preview

end CharacterSheet
