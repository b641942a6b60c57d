import CharacterSheet.Proofs.Schema.Rereading

/-!
# What a document keeps of its source

A schema is written with what its records kept, at the places where it stood in the value that it
was read from. Main statement: the document of a schema shows every field that a record keeps
beside its declared ones, and every modifier that an integration allows, where the source has it.
-/

namespace CharacterSheet
open Checked
open Json (Fields)

/-- A record that keeps the fields which it does not declare stands at a place of a document. -/
inductive OpenAt (v : Json) : OpenRecord → List Step → Prop where
  | configText {text : String} (ht : text ∈ ["name", "description"]) :
    OpenAt v .localization [.field "config", .field text]
  | statName (i : Int) : OpenAt v .localization [.field "stats", .index i, .field "name"]
  /-- Only an enumeration has options. -/
  | optionName (i j : Int)
    (ht : v.at? [.field "stats", .index i, .field "type"] =
      some (.string StatKind.enumeration.word)) :
    OpenAt v .localization
      [.field "stats", .index i, .field "options", .index j, .field "name"]
  | sectionName (i : Int) : OpenAt v .localization [.field "sections", .index i, .field "name"]
  | sectionContent (i : Int) :
    OpenAt v .localization [.field "sections", .index i, .field "preview", .field "content"]
  | integrations : OpenAt v .integrations [.field "integrations"]
  | initiative : OpenAt v .initiative [.field "integrations", .field "iniciative"]
  | integration (i : Int) :
    OpenAt v .integration [.field "integrations", .field "schemas", .index i]
  | integrationText (i : Int) {text : String} (ht : text ∈ ["name", "description"]) :
    OpenAt v .localization [.field "integrations", .field "schemas", .index i, .field text]

/-- The place of a modifier that an integration allows. -/
def modifierPlace (i j : Int) : List Step :=
  [.field "integrations", .field "schemas", .index i, .field "AutorizedModifierList", .index j]

/-- Whatever stands at a place of a value and has a property stands there in another value. -/
def Shows (p : Json → Prop) (place : List Step) (v w : Json) : Prop :=
  ∀ x, p x → v.at? place = some x → w.at? place = some x

/-! ### Fields that are left out -/

/-- Leaving out other fields does not touch a field. -/
theorem get?_filter {key : String} {q : String × Json → Bool} {fs : Fields} {x : Json}
    (h : fs.get? key = some x) (hq : q (key, x) = true) :
    Fields.get? key (fs.filter q) = some x := by
  induction fs with
  | nil => cases h
  | cons f fs ih =>
    obtain ⟨k, w⟩ := f
    rw [Fields.get?] at h
    rw [List.filter_cons]
    split at h
    · next hk =>
      subst hk
      cases h
      rw [if_pos hq, Fields.get?, if_pos rfl]
    · next hk =>
      split
      · rw [Fields.get?, if_neg hk, ih h]
      · exact ih h

/-! ### Steps to a place -/

namespace Shows
variable {α : Type} {p : Json → Prop} {place : List Step} {read : Json → Checked α} {v : Json}
  {fs gs : Fields} {key : String}

theorem refl (v : Json) : Shows p place v v := fun _ _ h ↦ h

/-- What stands under a key of a plain value that has fields. -/
theorem exists_of_at?_field {x : Json} (hv : v.isPlain = true) (hfs : v.fields? = some fs)
    (h : v.at? (.field key :: place) = some x) :
    ∃ u, v.at? [.field key] = some u ∧ fs.get? key = some u ∧ u.isPlain = true ∧
      u.at? place = some x := by
  rw [Json.at?_cons] at h
  obtain ⟨u, hu, h⟩ := Option.bind_eq_some_iff.mp h
  have hget : fs.get? key = some u := by
    rwa [Json.at?_field, Json.get?, hfs, Option.bind_some] at hu
  exact ⟨u, hu, hget, Json.isPlain_of_get? hv hfs hget, h⟩

/-- What stands under a key of an object. -/
theorem at?_object {w : Json} (hg : gs.get? key = some w) :
    (Json.object gs).at? (.field key :: place) = w.at? place := by
  rw [Json.at?, Json.get?, Json.fields?, Option.bind_some, hg, Option.bind_some]

/-- A field is shown when what was read from it is. -/
theorem fieldOr (write : α → Json) {default a : α} (hv : v.isPlain = true)
    (hfs : v.fields? = some fs) (hr : Checked.fieldOr fs key default read = .ok a)
    (hg : gs.get? key = some (write a))
    (h : ∀ u, v.at? [.field key] = some u → u.isPlain = true → read u = .ok a →
      Shows p place u (write a)) :
    Shows p (.field key :: place) v (.object gs) := by
  intro x hx hat
  obtain ⟨u, hu, hget, hp, hat⟩ := exists_of_at?_field hv hfs hat
  rw [at?_object hg]
  rcases fieldOr_eq_ok_iff.mp hr with ⟨w, hw, hread⟩ | ⟨hn, -⟩
  · rw [hget] at hw
    cases hw
    exact h u hu hp hread x hx hat
  · rw [hget] at hn
    cases hn

/-- A field that may be null is shown when what was read from it is; nothing stands inside of
null. -/
theorem nullable (write : α → Json) {step : Step} {o : Option α} (hv : v.isPlain = true)
    (hfs : v.fields? = some fs) (hr : Checked.fieldOr fs key none (.nullable read) = .ok o)
    (hg : gs.get? key = o.map write)
    (h : ∀ a ∈ o, ∀ u, u.isPlain = true → read u = .ok a →
      Shows p (step :: place) u (write a)) :
    Shows p (.field key :: step :: place) v (.object gs) := by
  intro x hx hat
  obtain ⟨u, -, hget, hp, hat⟩ := exists_of_at?_field hv hfs hat
  rcases fieldOr_eq_ok_iff.mp hr with ⟨w, hw, hread⟩ | ⟨hn, -⟩
  · rw [hget] at hw
    cases hw
    rcases nullable_eq_ok_iff.mp hread with ⟨rfl, -⟩ | ⟨-, a, hval, rfl⟩
    · cases step <;> cases hat
    · rw [at?_object hg]
      exact h a rfl u hp hval x hx hat
  · rw [hget] at hn
    cases hn

/-- An item is shown when what was read from it is. -/
theorem item (write : α → Json) {i : Int} {as : List α} (hv : v.isPlain = true)
    (hr : list read v = .ok as)
    (h : ∀ a ∈ as, ∀ u, v.at? [.index i] = some u → u.isPlain = true → read u = .ok a →
      Shows p place u (write a)) :
    Shows p (.index i :: place) v (.ofList write as) := by
  intro x hx hat
  rw [Json.at?_cons] at hat ⊢
  obtain ⟨u, hu, hin⟩ := Option.bind_eq_some_iff.mp hat
  refine Option.bind_eq_some_iff.mpr ?_
  obtain ⟨items, rfl, hi⟩ := list_eq_ok_iff.mp hr
  have hget := hu
  rw [Json.at?_index] at hget
  split at hget
  · cases hget
  · next hpos =>
    obtain ⟨a, ha, hread⟩ := exists_getElem?_of_forall₂ hi hget
    have hp := Json.arePlainItems_iff.mp hv u (List.mem_of_getElem? hget)
    refine ⟨write a, ?_, h a (List.mem_of_getElem? ha) u hu hp hread x hx hin⟩
    rw [Json.ofList, Json.at?_index, if_neg hpos, List.getElem?_map, ha, Option.map_some]

/-- A field that is kept beside the declared ones is shown. -/
theorem kept {declared : List String} {extra : Fields} (hv : v.isPlain = true)
    (hfs : v.fields? = some fs) (ho : extra = others declared fs) (hk : Kept declared extra)
    (gs : Fields) (hg : gs.keys ⊆ declared) (hkey : key ∉ declared) :
    Shows (· ≠ .null) [.field key] v (.object (gs ++ Extent.brief.kept extra)) := by
  intro x hx hat
  obtain ⟨u, -, hget, -, hat⟩ := exists_of_at?_field hv hfs hat
  cases hat
  have hp : Json.arePlainFields fs = true := by rwa [Json.eq_object_of_isPlain hv hfs] at hv
  have hextra : extra.get? key = some x := by
    rw [ho, Kept.others_eq hp]
    exact get?_filter hget (by simpa using hkey)
  have hnull : (!x.isNull) = true := by cases x <;> first | rfl | contradiction
  have hnone : gs.get? key = none := Fields.get?_eq_none fun f hf he ↦
    hkey (he ▸ hg (List.mem_map_of_mem hf))
  rw [at?_object, Json.at?]
  rw [Fields.get?_append, hnone, Option.none_or, hk.kept_eq]
  exact get?_filter hextra hnull

end Shows

/-! ### Records that keep fields -/

section
variable {v : Json} {key : String} (hv : v.isPlain = true)
include hv

theorem Localization.shows {l : Localization} (h : Localization.read v = .ok l)
    (hn : ∀ n ∈ l.numbers, n.isFinite = true) (hk : key ∉ OpenRecord.localization.declared) :
    Shows (· ≠ .null) [.field key] v (l.toJson .brief) := by
  obtain ⟨fs, hfs, -, -, ho⟩ := read_eq_ok_iff.mp h
  exact Shows.kept hv hfs ho (kept hv h hn) [("default", .string l.default)] (by simp) hk

theorem IntegrationSchema.shows {s : IntegrationSchema} (h : IntegrationSchema.read v = .ok s)
    (hn : ∀ n ∈ s.numbers, n.isFinite = true) (hk : key ∉ OpenRecord.integration.declared) :
    Shows (· ≠ .null) [.field key] v (s.toJson .brief) := by
  obtain ⟨fs, hfs, -, -, -, -, -, -, -, ho⟩ := read_eq_ok_iff.mp h
  refine Shows.kept hv hfs ho (kept hv h hn) _ ?_ hk
  simp [Extent.keys_field_subset]

theorem Initiative.shows {i : Initiative} (h : Initiative.read v = .ok i)
    (hn : ∀ n ∈ i.numbers, n.isFinite = true) (hk : key ∉ OpenRecord.initiative.declared) :
    Shows (· ≠ .null) [.field key] v (i.toJson .brief) := by
  obtain ⟨fs, hfs, -, -, ho⟩ := read_eq_ok_iff.mp h
  exact Shows.kept hv hfs ho (kept hv h hn) _ (Extent.keys_field_subset (by decide) _) hk

theorem Integrations.shows {i : Integrations} (h : Integrations.read v = .ok i)
    (hn : ∀ n ∈ i.numbers, n.isFinite = true) (hk : key ∉ OpenRecord.integrations.declared) :
    Shows (· ≠ .null) [.field key] v (i.toJson .brief) := by
  obtain ⟨fs, hfs, -, -, -, -, ho⟩ := read_eq_ok_iff.mp h
  refine Shows.kept hv hfs ho (kept hv h hn) _ ?_ hk
  simp [Extent.keys_field_subset]

/-! ### Records inside of others -/

theorem Localization.shows_field {fs gs : Fields} {text : String} {l : Localization}
    (hfs : v.fields? = some fs) (h : fieldOr fs text {} Localization.read = .ok l)
    (hg : gs.get? text = some (l.toJson .brief)) (hn : ∀ n ∈ l.numbers, n.isFinite = true)
    (hk : key ∉ OpenRecord.localization.declared) :
    Shows (· ≠ .null) [.field text, .field key] v (.object gs) :=
  Shows.fieldOr (toJson .brief) hv hfs h hg fun _ _ hu hr ↦ shows hu hr hn hk

theorem SystemConfig.shows {c : SystemConfig} (h : SystemConfig.read v = .ok c)
    (hn : ∀ n ∈ c.numbers, n.isFinite = true) {text : String}
    (ht : text ∈ ["name", "description"]) (hk : key ∉ OpenRecord.localization.declared) :
    Shows (· ≠ .null) [.field text, .field key] v (c.toJson .brief) := by
  obtain ⟨fs, hfs, -, hname, hdescription⟩ := read_eq_ok_iff.mp h
  obtain ⟨hnname, hndescription⟩ := List.forall_mem_append.mp hn
  rcases List.mem_pair.mp ht with rfl | rfl
  · exact Localization.shows_field hv hfs hname (by simp) hnname hk
  · exact Localization.shows_field hv hfs hdescription (by simp) hndescription hk

theorem EnumOption.shows_name {o : EnumOption} (h : EnumOption.read v = .ok o)
    (hn : ∀ n ∈ o.numbers, n.isFinite = true) (hk : key ∉ OpenRecord.localization.declared) :
    Shows (· ≠ .null) [.field "name", .field key] v (o.toJson .brief) := by
  obtain ⟨fs, hfs, -, hname, -⟩ := read_eq_ok_iff.mp h
  exact Localization.shows_field hv hfs hname rfl hn hk

/-- Nothing stands inside of options that are those of another stat. -/
theorem OptionSource.shows {o : OptionSource} (h : OptionSource.read v = .ok o)
    (hn : ∀ n ∈ o.numbers, n.isFinite = true) (j : Int)
    (hk : key ∉ OpenRecord.localization.declared) :
    Shows (· ≠ .null) [.index j, .field "name", .field key] v (o.toJson .brief) := by
  rcases read_eq_ok_iff.mp h with ⟨options, hr, rfl⟩ | ⟨_, id, -, hr, rfl⟩
  · refine Shows.item (EnumOption.toJson .brief) hv hr fun a ha u _ hu hread ↦ ?_
    refine EnumOption.shows_name hu hread (fun n hm ↦ ?_) hk
    exact hn n (List.mem_flatMap.mpr ⟨a, ha, hm⟩)
  · intro x _ hat
    cases v with
    | array _ => cases hr
    | _ => cases hat

theorem Stat.shows_name {s : Stat} (h : Stat.read v = .ok s)
    (hn : ∀ n ∈ s.numbers, n.isFinite = true) (hk : key ∉ OpenRecord.localization.declared) :
    Shows (· ≠ .null) [.field "name", .field key] v (s.toJson .brief) := by
  obtain ⟨fs, kind, word, hfs, -, -, h⟩ := read_eq_ok_iff.mp h
  obtain ⟨-, hname, -⟩ := readKind_eq_ok_iff.mp h
  exact Localization.shows_field hv hfs hname rfl (List.forall_mem_append.mp hn).1 hk

theorem Stat.shows_option {s : Stat} (h : Stat.read v = .ok s)
    (hn : ∀ n ∈ s.numbers, n.isFinite = true)
    (ht : v.get? "type" = some (.string StatKind.enumeration.word)) (j : Int)
    (hk : key ∉ OpenRecord.localization.declared) :
    Shows (· ≠ .null) [.field "options", .index j, .field "name", .field key] v
      (s.toJson .brief) := by
  obtain ⟨fs, kind, word, hfs, hword, hkind, h⟩ := read_eq_ok_iff.mp h
  have hn := (List.forall_mem_append.mp hn).2
  rw [Json.get?, hfs, Option.bind_some, hword] at ht
  cases ht
  rw [StatKind.ofWord?_word] at hkind
  cases hkind
  have hdetail := StatDetail.read_eq_ok_iff.mp (readKind_eq_ok_iff.mp h).2.2.2.2
  cases hd : s.detail with
  | enumeration options rolls =>
    rw [hd] at hdetail hn
    refine Shows.fieldOr (OptionSource.toJson .brief) hv hfs hdetail.1 ?_
      fun u _ hu hr ↦ OptionSource.shows hu hr hn j hk
    simp [hd, StatDetail.toFields]
  | _ =>
    rw [hd] at hdetail
    exact hdetail.elim

theorem SheetSection.shows_name {s : SheetSection} (h : SheetSection.read v = .ok s)
    (hn : ∀ n ∈ s.numbers, n.isFinite = true) (hk : key ∉ OpenRecord.localization.declared) :
    Shows (· ≠ .null) [.field "name", .field key] v (s.toJson .brief) := by
  obtain ⟨fs, hfs, -, hname, -⟩ := read_eq_ok_iff.mp h
  exact Localization.shows_field hv hfs hname rfl (List.forall_mem_append.mp hn).1 hk

theorem SheetSection.shows_content {s : SheetSection} (h : SheetSection.read v = .ok s)
    (hn : ∀ n ∈ s.numbers, n.isFinite = true) (hk : key ∉ OpenRecord.localization.declared) :
    Shows (· ≠ .null) [.field "preview", .field "content", .field key] v (s.toJson .brief) := by
  obtain ⟨fs, hfs, -, -, -, -, hpreview, -⟩ := read_eq_ok_iff.mp h
  refine Shows.fieldOr (SectionPreview.toJson .brief) hv hfs hpreview (by simp)
    fun u _ hu hr ↦ ?_
  obtain ⟨gs, hgs, -, hcontent⟩ := SectionPreview.read_eq_ok_iff.mp hr
  exact Localization.shows_field hu hgs hcontent (by simp) (List.forall_mem_append.mp hn).2 hk

theorem IntegrationSchema.shows_text {s : IntegrationSchema}
    (h : IntegrationSchema.read v = .ok s) (hn : ∀ n ∈ s.numbers, n.isFinite = true)
    {text : String} (ht : text ∈ ["name", "description"])
    (hk : key ∉ OpenRecord.localization.declared) :
    Shows (· ≠ .null) [.field text, .field key] v (s.toJson .brief) := by
  obtain ⟨fs, hfs, -, -, hname, hdescription, -⟩ := read_eq_ok_iff.mp h
  simp only [numbers, List.forall_mem_append] at hn
  obtain ⟨⟨⟨hnname, hndescription⟩, -⟩, -⟩ := hn
  rcases List.mem_pair.mp ht with rfl | rfl
  · exact Localization.shows_field hv hfs hname rfl hnname hk
  · exact Localization.shows_field hv hfs hdescription rfl hndescription hk

theorem IntegrationSchema.shows_modifier {s : IntegrationSchema}
    (h : IntegrationSchema.read v = .ok s) (hn : ∀ n ∈ s.numbers, n.isFinite = true) (j : Int) :
    Shows (fun _ ↦ True) [.field "AutorizedModifierList", .index j] v (s.toJson .brief) := by
  have hkept := kept hv h hn
  obtain ⟨fs, hfs, -, -, -, -, -, hmodifiers, -⟩ := read_eq_ok_iff.mp h
  simp only [numbers, List.forall_mem_append] at hn
  obtain ⟨⟨-, hnmodifiers⟩, -⟩ := hn
  refine Shows.nullable (Json.ofList Json.written) hv hfs hmodifiers ?_
    fun found hf u hu hr ↦ ?_
  · simp [hkept.get?_kept "AutorizedModifierList" (by decide)]
  · rw [hf] at hnmodifiers
    obtain ⟨rfl, he⟩ := list_anything hu hr hnmodifiers
    rw [he]
    exact Shows.refl _

theorem Integrations.shows_initiative {i : Integrations} (h : Integrations.read v = .ok i)
    (hn : ∀ n ∈ i.numbers, n.isFinite = true) (hk : key ∉ OpenRecord.initiative.declared) :
    Shows (· ≠ .null) [.field "iniciative", .field key] v (i.toJson .brief) := by
  have hkept := kept hv h hn
  obtain ⟨fs, hfs, -, hinitiative, -⟩ := read_eq_ok_iff.mp h
  simp only [numbers, List.forall_mem_append] at hn
  refine Shows.nullable (Initiative.toJson .brief) hv hfs hinitiative ?_ fun a ha u hu hr ↦ ?_
  · simp [hkept.get?_kept "iniciative" (by decide)]
  · exact Initiative.shows hu hr
      (fun n hm ↦ hn.1.1 n (List.mem_flatMap.mpr ⟨a, Option.mem_toList.mpr ha, hm⟩)) hk

/-- An integration is shown where it stands. -/
theorem Integrations.shows_schema {p : Json → Prop} {place : List Step} {i : Integrations}
    (h : Integrations.read v = .ok i) (hn : ∀ n ∈ i.numbers, n.isFinite = true) (k : Int)
    (hs : ∀ a u, u.isPlain = true → IntegrationSchema.read u = .ok a →
      (∀ n ∈ a.numbers, n.isFinite = true) → Shows p place u (a.toJson .brief)) :
    Shows p (.field "schemas" :: .index k :: place) v (i.toJson .brief) := by
  obtain ⟨fs, hfs, -, -, -, hschemas, -⟩ := read_eq_ok_iff.mp h
  simp only [numbers, List.forall_mem_append] at hn
  refine Shows.fieldOr (Json.ofList (IntegrationSchema.toJson .brief)) hv hfs hschemas (by simp)
    fun u _ hu hr ↦ ?_
  refine Shows.item (IntegrationSchema.toJson .brief) hu hr fun a ha w _ hw hread ↦ ?_
  exact hs a w hw hread fun n hm ↦ hn.1.2 n (List.mem_flatMap.mpr ⟨a, ha, hm⟩)

end

/-! ### Main statements -/

section
variable {v : Json} {s : GameSystem} (hv : v.isPlain = true) (h : GameSystem.read v = .ok s)
  (hs : s.isFinite = true)
include hv h hs

/-- The head is shown where it stands. -/
theorem GameSystem.shows_config {p : Json → Prop} {place : List Step}
    (hc : ∀ u, u.isPlain = true → SystemConfig.read u = .ok s.config →
      (∀ n ∈ s.config.numbers, n.isFinite = true) → Shows p place u (s.config.toJson .brief)) :
    Shows p (.field "config" :: place) v s.document := by
  obtain ⟨fs, hfs, hconfig, -⟩ := read_eq_ok_iff.mp h
  have hn := List.all_eq_true.mp hs
  simp only [numbers, List.forall_mem_append] at hn
  exact Shows.fieldOr (SystemConfig.toJson .brief) hv hfs hconfig rfl
    fun u _ hu hr ↦ hc u hu hr hn.1.1.1

/-- A stat is shown where it stands. -/
theorem GameSystem.shows_stat {p : Json → Prop} {place : List Step} (i : Int)
    (hstat : ∀ a u, v.at? [.field "stats", .index i] = some u → u.isPlain = true →
      Stat.read u = .ok a → (∀ n ∈ a.numbers, n.isFinite = true) →
      Shows p place u (a.toJson .brief)) :
    Shows p (.field "stats" :: .index i :: place) v s.document := by
  obtain ⟨fs, hfs, -, hstats, -⟩ := read_eq_ok_iff.mp h
  have hn := List.all_eq_true.mp hs
  simp only [numbers, List.forall_mem_append] at hn
  refine Shows.fieldOr (Json.ofList (Stat.toJson .brief)) hv hfs hstats rfl
    fun u hat hu hr ↦ ?_
  refine Shows.item (Stat.toJson .brief) hu hr fun a ha w hin hw hread ↦ ?_
  refine hstat a w ?_ hw hread fun n hm ↦ hn.1.1.2 n (List.mem_flatMap.mpr ⟨a, ha, hm⟩)
  rw [Json.at?_cons, hat, Option.bind_some, hin]

/-- A section is shown where it stands. -/
theorem GameSystem.shows_section {p : Json → Prop} {place : List Step} (i : Int)
    (hsection : ∀ a u, u.isPlain = true → SheetSection.read u = .ok a →
      (∀ n ∈ a.numbers, n.isFinite = true) → Shows p place u (a.toJson .brief)) :
    Shows p (.field "sections" :: .index i :: place) v s.document := by
  obtain ⟨fs, hfs, -, -, hsections, -⟩ := read_eq_ok_iff.mp h
  have hn := List.all_eq_true.mp hs
  simp only [numbers, List.forall_mem_append] at hn
  refine Shows.fieldOr (Json.ofList (SheetSection.toJson .brief)) hv hfs hsections rfl
    fun u _ hu hr ↦ ?_
  refine Shows.item (SheetSection.toJson .brief) hu hr fun a ha w _ hw hread ↦ ?_
  exact hsection a w hw hread fun n hm ↦ hn.1.2 n (List.mem_flatMap.mpr ⟨a, ha, hm⟩)

/-- What stands in the settings for other programs is shown there. -/
theorem GameSystem.shows_integrations {p : Json → Prop} {step : Step} {place : List Step}
    (hi : ∀ a u, u.isPlain = true → Integrations.read u = .ok a →
      (∀ n ∈ a.numbers, n.isFinite = true) → Shows p (step :: place) u (a.toJson .brief)) :
    Shows p (.field "integrations" :: step :: place) v s.document := by
  obtain ⟨fs, hfs, -, -, -, hintegrations⟩ := read_eq_ok_iff.mp h
  have hn := List.all_eq_true.mp hs
  simp only [numbers, List.forall_mem_append] at hn
  refine Shows.nullable (Integrations.toJson .brief) hv hfs hintegrations (by simp)
    fun a ha u hu hr ↦ ?_
  exact hi a u hu hr fun n hm ↦
    hn.2 n (List.mem_flatMap.mpr ⟨a, Option.mem_toList.mpr ha, hm⟩)

/-- The fields that a record keeps beside its declared ones are shown where they stand, unless they
are null. -/
theorem GameSystem.shows_kept {record : OpenRecord} {place : List Step}
    (ho : OpenAt v record place) {key : String} (hk : key ∉ record.declared) :
    Shows (· ≠ .null) (place ++ [.field key]) v s.document := by
  cases ho with
  | configText ht => exact shows_config hv h hs fun u hu hr hn ↦ SystemConfig.shows hu hr hn ht hk
  | statName i => exact shows_stat hv h hs i fun a u _ hu hr hn ↦ Stat.shows_name hu hr hn hk
  | optionName i j ht =>
    refine shows_stat hv h hs i fun a u hat hu hr hn ↦ Stat.shows_option hu hr hn ?_ j hk
    have ht := (Json.at?_append [.field "stats", .index i] [.field "type"] v).symm.trans ht
    rwa [hat, Option.bind_some, Json.at?_field] at ht
  | sectionName i =>
    exact shows_section hv h hs i fun a u hu hr hn ↦ SheetSection.shows_name hu hr hn hk
  | sectionContent i =>
    exact shows_section hv h hs i fun a u hu hr hn ↦ SheetSection.shows_content hu hr hn hk
  | integrations =>
    exact shows_integrations hv h hs fun a u hu hr hn ↦ Integrations.shows hu hr hn hk
  | initiative =>
    exact shows_integrations hv h hs fun a u hu hr hn ↦ Integrations.shows_initiative hu hr hn hk
  | integration i =>
    refine shows_integrations hv h hs fun a u hu hr hn ↦
      Integrations.shows_schema hu hr hn i fun b w hw hread hm ↦ ?_
    exact IntegrationSchema.shows hw hread hm hk
  | integrationText i ht =>
    refine shows_integrations hv h hs fun a u hu hr hn ↦
      Integrations.shows_schema hu hr hn i fun b w hw hread hm ↦ ?_
    exact IntegrationSchema.shows_text hw hread hm ht hk

/-- The modifiers that an integration allows are shown where they stand. -/
theorem GameSystem.shows_modifier (i j : Int) :
    Shows (fun _ ↦ True) (modifierPlace i j) v s.document := by
  refine shows_integrations hv h hs fun a u hu hr hn ↦
    Integrations.shows_schema hu hr hn i fun b w hw hread hm ↦ ?_
  exact IntegrationSchema.shows_modifier hw hread hm j

end

end CharacterSheet
