import CharacterSheet.Proofs.Schema.Displays
import CharacterSheet.Proofs.Schema.Reading
import CharacterSheet.Proofs.Validation.Links

/-!
# What is read from legible documents

A document is legible when the ids in its texts can be read and its integers can be written. The
integers of a document that was decoded can be, because as many digits are read as are written, so
only its texts count. Main statements: what is read from a legible value has integers that can be
written and texts whose ids can be read, record by record.
-/

namespace CharacterSheet

/-! ### Values -/

/-- The integer that a number is can be written. -/
def Number.IsWritable (n : Number) : Prop := ∀ i ∈ n.int?, Numeral.isWritable i = true

/-- A value of a document in which all ids can be read and all integers can be written. -/
structure Json.IsLegible (v : Json) : Prop where
  plain : v.isPlain = true
  readable : v.HasReadableIds
  writable : ∀ n ∈ v.numbers, n.IsWritable

namespace Json

theorem itemNumbers_eq (xs : List Json) : itemNumbers xs = xs.flatMap numbers := by
  induction xs with
  | nil => rfl
  | cons x xs ih => rw [itemNumbers, ih, List.flatMap_cons]

theorem itemTexts_eq (xs : List Json) : itemTexts xs = xs.flatMap texts := by
  induction xs with
  | nil => rfl
  | cons x xs ih => rw [itemTexts, ih, List.flatMap_cons]

theorem fieldTexts_eq (fs : Fields) : fieldTexts fs = fs.flatMap fun f ↦ f.1 :: texts f.2 := by
  induction fs with
  | nil => rfl
  | cons f fs ih => rw [fieldTexts, ih, List.flatMap_cons]

/-- A document is legible when the ids in its texts can be read. -/
theorem isLegible_of_read {text : String} {v : Json} (h : read text = .ok v)
    (hr : v.HasReadableIds) : v.IsLegible where
  plain := isPlain_of_read h
  readable := hr
  writable := holds_of_read (p := fun v ↦ ∀ n ∈ v.numbers, n.IsWritable)
    { null := by simp [numbers]
      bool := by simp [numbers]
      number := fun n hn ↦ List.forall_mem_singleton.mpr hn
      string := by simp [numbers]
      unpaired := by simp [numbers]
      array := fun xs hxs ↦ by
        rw [numbers, itemNumbers_eq, List.forall_mem_flatMap]
        exact hxs
      object := fun fs hfs ↦ by
        rw [numbers, fieldNumbers_eq, List.forall_mem_flatMap]
        exact hfs } h

namespace IsLegible
variable {v w : Json} {fs : Fields} {xs : List Json}

/-- The value of a field is legible. -/
theorem of_mem_fields (h : (object fs).IsLegible) {key : String} (hw : (key, w) ∈ fs) :
    w.IsLegible where
  plain := arePlainFields_iff.mp h.plain _ hw
  readable s hs := h.readable s <| by
    rw [texts, fieldTexts_eq]
    exact List.mem_flatMap.mpr ⟨_, hw, List.mem_cons_of_mem _ hs⟩
  writable n hn := h.writable n <| by
    rw [numbers, fieldNumbers_eq]
    exact List.mem_flatMap.mpr ⟨_, hw, hn⟩

theorem of_get? (h : v.IsLegible) (hfs : v.fields? = some fs) {key : String}
    (hw : fs.get? key = some w) : w.IsLegible := by
  obtain rfl := eq_object_of_isPlain h.plain hfs
  exact h.of_mem_fields (mem_of_get? hw)

/-- An item is legible. -/
theorem of_mem (h : (array xs).IsLegible) (hw : w ∈ xs) : w.IsLegible where
  plain := arePlainItems_iff.mp h.plain _ hw
  readable s hs := h.readable s <| by
    rw [texts, itemTexts_eq]
    exact List.mem_flatMap.mpr ⟨_, hw, hs⟩
  writable n hn := h.writable n <| by
    rw [numbers, itemNumbers_eq]
    exact List.mem_flatMap.mpr ⟨_, hw, hn⟩

end IsLegible
end Json

/-! ### Integers that are read leniently -/

/-- An integer in plain form can be written. -/
theorem LenientText.isWritable_of_plainInteger {cs : List Char} {n : Int}
    (h : plainInteger cs = .ok n) : Numeral.isWritable n = true := by
  unfold plainInteger at h
  split at h
  next negative body hsplit =>
  have hle : body.length ≤ cs.length := by
    split at hsplit
    · cases hsplit
      simp
    · cases hsplit
      exact Nat.le_refl _
  dsimp only at h
  split at h
  · split at h
    · cases h
      exact Numeral.isWritable_of_lt (k := 1) (by decide) (by decide)
    · cases h
  · split at h
    · cases h
    · next hmax =>
      split at h
      · cases h
      · cases h
        have hlength : (body.takeWhile Char.isDigit).length ≤ maxDigits := by omega
        exact Json.Reader.isWritable_of_readDigits (if_pos hlength) negative

/-- An integer that a text stands for can be written. -/
theorem LenientText.isWritable_of_readInteger {s : String} {n : Int}
    (h : readInteger s = .ok n) : Numeral.isWritable n = true := by
  unfold readInteger at h
  split at h
  · next hn =>
    cases h
    exact isWritable_of_plainInteger hn
  · cases h
  · split at h
    · next cs hcs =>
      cases hp : plainInteger cs with
      | error e => simp [hp, Except.mapError] at h
      | ok k =>
        rw [hp] at h
        cases h
        exact isWritable_of_plainInteger hp
    · cases h

namespace Checked

/-- What is read from legible values has a property. -/
def Yields {α : Type} (read : Json → Checked α) (q : α → Prop) : Prop :=
  ∀ ⦃v a⦄, v.IsLegible → read v = .ok a → q a

theorem yields_text : Yields text ReadableIds := by
  intro v s hv h
  cases v with
  | string t =>
    cases h
    exact hv.readable s List.mem_cons_self
  | _ => cases h

/-- An integer that is read can be written. -/
theorem yields_integer : Yields integer (Numeral.isWritable · = true) := by
  intro v n hv h
  cases v with
  | number x =>
    cases x with
    | int k =>
      cases h
      exact hv.writable (.int n) List.mem_cons_self n rfl
    | float x =>
      change integerOfFloat x = .ok n at h
      unfold integerOfFloat at h
      split at h
      · cases h
      · split at h
        · cases h
        · split at h
          · next hlt =>
            cases h
            have hten : 2 ^ 63 < 10 ^ 19 := by decide
            exact Numeral.isWritable_of_lt (k := 19) (by decide) (Nat.lt_trans hlt hten)
          · cases h
  | bool b =>
    cases h
    cases b <;> exact Numeral.isWritable_of_lt (k := 1) (by decide) (by decide)
  | string s =>
    change ofExcept (LenientText.readInteger s) = .ok n at h
    cases hr : LenientText.readInteger s with
    | error e => simp [hr, ofExcept, fail] at h
    | ok k =>
      rw [hr] at h
      cases h
      exact LenientText.isWritable_of_readInteger hr
  | _ => cases h

/-- The integer of a number that is read can be written. -/
theorem yields_number : Yields number Number.IsWritable := by
  intro v n hv h
  unfold number at h
  split at h
  · cases h
    exact hv.writable n List.mem_cons_self
  · split at h
    · next k hk =>
      cases h
      rintro i ⟨⟩
      exact yields_integer hv hk
    · dsimp only at h
      split at h
      · cases h
        rintro i ⟨⟩
      · cases h

section
variable {α : Type} {read : Json → Checked α} {q : α → Prop} {v : Json} {fs : Json.Fields}
  {key : String}

theorem Yields.list (h : Yields read q) : Yields (Checked.list read) fun as ↦ ∀ a ∈ as, q a := by
  intro v as hv hr a ha
  obtain ⟨items, rfl, hs⟩ := list_eq_ok_iff.mp hr
  obtain ⟨w, hw, hr⟩ := exists_mem_of_forall₂ hs ha
  exact h (hv.of_mem hw) hr

theorem Yields.nullable (h : Yields read q) :
    Yields (Checked.nullable read) fun o ↦ ∀ a ∈ o, q a := by
  intro v o hv hr
  rcases nullable_eq_ok_iff.mp hr with ⟨-, rfl⟩ | ⟨-, a, ha, rfl⟩
  · rintro a ⟨⟩
  · rintro b ⟨⟩
    exact h hv ha

/-- The field of a legible record has a property, or it is missing and its default has it. -/
theorem Yields.fieldOr (h : Yields read q) (hv : v.IsLegible) (hfs : v.fields? = some fs)
    {default a : α} (hd : q default) (hr : Checked.fieldOr fs key default read = .ok a) : q a := by
  rcases fieldOr_eq_ok_iff.mp hr with ⟨w, hw, hr⟩ | ⟨-, rfl⟩
  · exact h (hv.of_get? hfs hw) hr
  · exact hd

theorem Yields.required (h : Yields read q) (hv : v.IsLegible) (hfs : v.fields? = some fs) {a : α}
    (hr : Checked.required fs key read = .ok a) : q a := by
  obtain ⟨w, hw, hr⟩ := required_eq_ok_iff.mp hr
  exact h (hv.of_get? hfs hw) hr

/-- A field of a legible record that may be null or missing. -/
theorem Yields.fieldOr_nullable (h : Yields read q) (hv : v.IsLegible)
    (hfs : v.fields? = some fs) {o : Option α}
    (hr : Checked.fieldOr fs key none (Checked.nullable read) = .ok o) : ∀ a ∈ o, q a :=
  h.nullable.fieldOr hv hfs (by rintro a ⟨⟩) hr

/-- A field of a legible record that is a list or missing. -/
theorem Yields.fieldOr_list (h : Yields read q) (hv : v.IsLegible) (hfs : v.fields? = some fs)
    {as : List α} (hr : Checked.fieldOr fs key [] (Checked.list read) = .ok as) : ∀ a ∈ as, q a :=
  h.list.fieldOr hv hfs (by simp) hr

end
end Checked

open Checked

theorem readableIds_empty : ReadableIds "" := readableIds_of_length_le (by decide)

/-! ### Stats -/

/-- The ids in the texts of dice can be read. -/
def Dice.IsLegible (d : Dice) : Prop := ∀ text ∈ d.texts, ReadableIds text

/-- The ids of a replacement can be written. -/
structure Replacement.IsLegible (r : Replacement) : Prop where
  key : Numeral.isWritable r.key = true
  options : ∀ id ∈ r.options, Numeral.isWritable id = true

/-- What can be rolled for a stat is legible. -/
structure Rolls.IsLegible (r : Rolls) : Prop where
  dice : ∀ ds ∈ r.dice, ∀ d ∈ ds, d.IsLegible
  replacements : ∀ rs ∈ r.replacements, ∀ r ∈ rs, r.IsLegible

/-- The ids in a localized text can be read, and the integers in it can be written. -/
structure Localization.IsLegible (l : Localization) : Prop where
  default : ReadableIds l.default
  displayed : ∀ shown ∈ l.displayed, ReadableIds shown.2
  writable : l.IsWritable

/-- The value of an option and the integers in its name can be written. -/
structure EnumOption.IsLegible (o : EnumOption) : Prop where
  value : Numeral.isWritable o.value = true
  name : o.name.IsLegible

/-- The options are legible, or the id of the stat that has them can be written. -/
def OptionSource.IsLegible : OptionSource → Prop
  | .own options => ∀ o ∈ options, o.IsLegible
  | .sharedWith id => Numeral.isWritable id = true

/-- What belongs to the kind of a stat is legible. -/
def StatDetail.IsLegible : StatDetail → Prop
  | .numeric min max rolls =>
    (∀ n ∈ min, n.IsWritable) ∧ (∀ n ∈ max, n.IsWritable) ∧ rolls.IsLegible
  | .enumeration source rolls => source.IsLegible ∧ rolls.IsLegible
  | .boolean rolls => rolls.IsLegible
  | .text .. => True
  | .calculated formula rolls => ReadableIds formula ∧ rolls.IsLegible

/-- A stat in which all ids can be read and all integers can be written. -/
structure Stat.IsLegible (s : Stat) : Prop where
  id : Numeral.isWritable s.id = true
  name : s.name.IsLegible
  pages : ∀ pages ∈ s.editPages, ∀ page ∈ pages, Numeral.isWritable page = true
  detail : s.detail.IsLegible

theorem Localization.isLegible_empty : ({} : Localization).IsLegible :=
  ⟨readableIds_empty, List.forall_mem_nil _, List.forall_mem_nil _⟩

/-- The variants of a text that is read are kept as they are, because a legible value has nothing to
settle. -/
theorem Localization.yields_read : Yields Localization.read Localization.IsLegible := by
  intro v l hv h
  obtain ⟨fs, hfs, -, hd, hl⟩ := Localization.read_eq_ok_iff.mp h
  obtain rfl := Json.eq_object_of_isPlain hv.plain hfs
  have hvariant : ∀ variant ∈ l.variants, variant.2.IsLegible := by
    rw [hl, others]
    intro variant hm
    obtain ⟨⟨key, w⟩, hw, rfl⟩ := List.mem_map.mp hm
    have hleg := hv.of_mem_fields (List.mem_of_mem_filter hw)
    dsimp only
    rwa [Json.settled_of_isPlain w hleg.plain]
  refine ⟨yields_text.fieldOr hv hfs readableIds_empty hd, List.forall_mem_map.mpr ?_, ?_⟩
  · exact fun variant hm ↦
      Json.readableIds_display (hvariant variant hm).plain (hvariant variant hm).readable
  · intro variant hm n hn
    obtain ⟨number, hnumber, hi⟩ := List.mem_filterMap.mp hn
    exact (hvariant variant hm).writable number hnumber n hi

theorem Condition.yields_read :
    Yields Condition.read fun c ↦ ReadableIds c.left ∧ ReadableIds c.right := by
  intro v c hv h
  obtain ⟨fs, hfs, hl, -, hr⟩ := Condition.read_eq_ok_iff.mp h
  exact ⟨yields_text.fieldOr hv hfs readableIds_empty hl,
    yields_text.fieldOr hv hfs readableIds_empty hr⟩

theorem Dice.yields_read : Yields Dice.read Dice.IsLegible := by
  intro v d hv h
  obtain ⟨fs, hfs, he, hc⟩ := Dice.read_eq_ok_iff.mp h
  refine List.forall_mem_cons.mpr ⟨yields_text.fieldOr hv hfs readableIds_empty he, ?_⟩
  have hcondition := Condition.yields_read.fieldOr_nullable hv hfs hc
  cases hd : d.condition with
  | none => simp
  | some c => simpa using hcondition c hd

theorem Replacement.yields_read : Yields Replacement.read Replacement.IsLegible := by
  intro v r hv h
  obtain ⟨fs, hfs, hk, ho⟩ := Replacement.read_eq_ok_iff.mp h
  exact ⟨yields_integer.required hv hfs hk, yields_integer.fieldOr_list hv hfs ho⟩

theorem Rolls.isLegible_of_read {v : Json} {fs : Json.Fields} (hv : v.IsLegible)
    (hfs : v.fields? = some fs) {r : Rolls} (h : Rolls.read fs = .ok r) : r.IsLegible := by
  obtain ⟨hd, hr⟩ := Rolls.read_eq_ok_iff.mp h
  exact ⟨Dice.yields_read.list.fieldOr_nullable hv hfs hd,
    Replacement.yields_read.list.fieldOr_nullable hv hfs hr⟩

theorem EnumOption.yields_read : Yields EnumOption.read EnumOption.IsLegible := by
  intro v o hv h
  obtain ⟨fs, hfs, hvalue, hn, -⟩ := EnumOption.read_eq_ok_iff.mp h
  exact ⟨yields_integer.required hv hfs hvalue,
    Localization.yields_read.fieldOr hv hfs Localization.isLegible_empty hn⟩

theorem OptionSource.yields_read : Yields OptionSource.read OptionSource.IsLegible := by
  intro v source hv h
  rcases OptionSource.read_eq_ok_iff.mp h with ⟨options, ho, rfl⟩ | ⟨-, id, -, hid, rfl⟩
  · exact EnumOption.yields_read.list hv ho
  · exact yields_integer hv hid

theorem StatDetail.isLegible_of_read {v : Json} {fs : Json.Fields} {kind : StatKind}
    (hv : v.IsLegible) (hfs : v.fields? = some fs) {detail : StatDetail}
    (h : StatDetail.read fs kind = .ok detail) : detail.IsLegible := by
  have hd := StatDetail.read_eq_ok_iff.mp h
  split at hd
  · next min max rolls =>
    exact ⟨yields_number.fieldOr_nullable hv hfs hd.1, yields_number.fieldOr_nullable hv hfs hd.2.1,
      Rolls.isLegible_of_read hv hfs hd.2.2⟩
  · next source rolls =>
    have hown : (OptionSource.own []).IsLegible := List.forall_mem_nil _
    exact ⟨OptionSource.yields_read.fieldOr hv hfs hown hd.1, Rolls.isLegible_of_read hv hfs hd.2⟩
  · exact Rolls.isLegible_of_read hv hfs hd
  · exact trivial
  · next formula rolls =>
    exact ⟨yields_text.fieldOr hv hfs readableIds_empty hd.1,
      Rolls.isLegible_of_read hv hfs hd.2⟩
  · exact hd.elim

theorem Stat.yields_read : Yields Stat.read Stat.IsLegible := by
  intro v s hv h
  obtain ⟨fs, kind, -, hfs, -, -, hk⟩ := Stat.read_eq_ok_iff.mp h
  obtain ⟨hid, hn, -, hp, hd⟩ := Stat.readKind_eq_ok_iff.mp hk
  exact ⟨yields_integer.required hv hfs hid,
    Localization.yields_read.fieldOr hv hfs Localization.isLegible_empty hn,
    yields_integer.list.fieldOr_nullable hv hfs hp, StatDetail.isLegible_of_read hv hfs hd⟩

/-! ### Sections -/

/-- A section in which all ids can be read and all integers can be written. -/
structure SheetSection.IsLegible (s : SheetSection) : Prop where
  id : Numeral.isWritable s.id = true
  name : s.name.IsLegible
  pages : ∀ page ∈ s.viewPages, Numeral.isWritable page = true
  content : s.preview.content.IsLegible

/-- The ids in the texts of a legible section can be read. -/
theorem SheetSection.IsLegible.texts {s : SheetSection} (h : s.IsLegible) :
    ∀ text ∈ s.preview.texts, ReadableIds text :=
  List.forall_mem_cons.mpr ⟨h.content.default, List.forall_mem_map.mpr h.content.displayed⟩

theorem SectionPreview.yields_read :
    Yields SectionPreview.read fun p ↦ p.content.IsLegible := by
  intro v p hv h
  obtain ⟨fs, hfs, -, hc⟩ := SectionPreview.read_eq_ok_iff.mp h
  exact Localization.yields_read.fieldOr hv hfs Localization.isLegible_empty hc

theorem SheetSection.yields_read : Yields SheetSection.read SheetSection.IsLegible := by
  intro v s hv h
  obtain ⟨fs, hfs, hid, hn, -, -, hp, hpages⟩ := SheetSection.read_eq_ok_iff.mp h
  exact ⟨yields_integer.required hv hfs hid,
    Localization.yields_read.fieldOr hv hfs Localization.isLegible_empty hn,
    yields_integer.fieldOr_list hv hfs hpages,
    SectionPreview.yields_read.fieldOr hv hfs Localization.isLegible_empty hp⟩

/-! ### Settings for other programs -/

/-- The id of the stat for initiative can be written, or is a text. -/
def InitiativeId.IsLegible : InitiativeId → Prop
  | .number id => Numeral.isWritable id = true
  | .text _ => True

/-- Settings in which all ids can be read and all integers can be written. -/
structure Integrations.IsLegible (i : Integrations) : Prop where
  initiative : ∀ a ∈ i.initiative, ∀ id ∈ a.id, id.IsLegible
  attributeRoll : ∀ text ∈ i.attributeRoll, ReadableIds text
  authorized : ∀ s ∈ i.schemas, ∀ id ∈ s.authorizedStats, Numeral.isWritable id = true

theorem InitiativeId.yields_read : Yields InitiativeId.read InitiativeId.IsLegible := by
  intro v id hv h
  rcases InitiativeId.read_eq_ok_iff.mp h with ⟨s, -, rfl⟩ | ⟨-, n, hn, rfl⟩
  · exact trivial
  · exact yields_integer hv hn

theorem Initiative.yields_read :
    Yields Initiative.read fun a ↦ ∀ id ∈ a.id, id.IsLegible := by
  intro v a hv h
  obtain ⟨fs, hfs, -, hid, -⟩ := Initiative.read_eq_ok_iff.mp h
  exact InitiativeId.yields_read.fieldOr_nullable hv hfs hid

theorem IntegrationSchema.yields_read : Yields IntegrationSchema.read fun s ↦
    ∀ id ∈ s.authorizedStats, Numeral.isWritable id = true := by
  intro v s hv h
  obtain ⟨fs, hfs, -, -, -, -, -, -, ha, -⟩ := IntegrationSchema.read_eq_ok_iff.mp h
  exact yields_integer.fieldOr_list hv hfs ha

theorem Integrations.yields_read : Yields Integrations.read Integrations.IsLegible := by
  intro v i hv h
  obtain ⟨fs, hfs, -, hi, hr, hs, -⟩ := Integrations.read_eq_ok_iff.mp h
  exact ⟨Initiative.yields_read.fieldOr_nullable hv hfs hi,
    yields_text.fieldOr_nullable hv hfs hr, IntegrationSchema.yields_read.fieldOr_list hv hfs hs⟩

end CharacterSheet
