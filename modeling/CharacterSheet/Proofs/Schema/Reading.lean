import CharacterSheet.Schema.Reader
import Mathlib.Data.List.Forall2

/-!
# What is read from a document

A record is read exactly when it is an object all of whose fields are read, and then its fields
are what was read from theirs. Main statements: one such law for each record of a schema.
-/

namespace CharacterSheet

/-! ### Items one by one -/

/-- Items that are all looked at are looked at one by one. -/
theorem forall₂_of_mapM {ε α β : Type} {f : α → Except ε β} {as : List α} {bs : List β}
    (h : as.mapM f = .ok bs) : List.Forall₂ (fun a b ↦ f a = .ok b) as bs := by
  induction as generalizing bs with
  | nil =>
    cases h
    exact .nil
  | cons a as ih =>
    rw [List.mapM_cons] at h
    cases ha : f a with
    | error e => simp [ha, bind, Except.bind] at h
    | ok b =>
      cases has : as.mapM f with
      | error e => simp [ha, has, bind, Except.bind] at h
      | ok rest =>
        rw [ha, has] at h
        cases h
        exact .cons ha (ih has)

/-- All items are looked at exactly when each of them is. -/
theorem exists_mapM_eq_ok_iff {ε α β : Type} {f : α → Except ε β} {as : List α} :
    (∃ bs, as.mapM f = .ok bs) ↔ ∀ a ∈ as, ∃ b, f a = .ok b := by
  induction as with
  | nil => simp [pure, Except.pure]
  | cons a as ih =>
    rw [List.forall_mem_cons, ← ih, List.mapM_cons]
    constructor
    · rintro ⟨bs, h⟩
      cases ha : f a with
      | error e => simp [ha, bind, Except.bind] at h
      | ok b =>
        cases has : as.mapM f with
        | error e => simp [ha, has, bind, Except.bind] at h
        | ok rest => exact ⟨⟨b, rfl⟩, rest, rfl⟩
    · rintro ⟨⟨b, hb⟩, rest, hrest⟩
      exact ⟨b :: rest, by rw [hb, hrest]; rfl⟩

namespace Checked

variable {α β : Type}

/-! ### How readings are put together -/

theorem map_eq_ok_iff {f : α → β} {x : Checked α} {b : β} :
    f <$> x = .ok b ↔ ∃ a, x = .ok a ∧ f a = b := by
  cases x with
  | ok a =>
    change Checked.ok (f a) = .ok b ↔ _
    simp
  | bad faults =>
    change Checked.bad faults = .ok b ↔ _
    simp

theorem seq_eq_ok_iff {f : Checked (α → β)} {x : Checked α} {b : β} :
    f <*> x = .ok b ↔ ∃ g, f = .ok g ∧ ∃ a, x = .ok a ∧ g a = b := by
  change seq f x = .ok b ↔ _
  simp only [seq_eq_ok, exists_and_left]

theorem inside_eq_ok_iff {step : Step} {x : Checked α} {a : α} :
    x.inside step = .ok a ↔ x = .ok a := by
  cases x <;> simp [inside]

theorem all_eq_ok_iff {xs : List (Checked α)} {as : List α} :
    all xs = .ok as ↔ List.Forall₂ (fun x a ↦ x = .ok a) xs as := by
  induction xs generalizing as with
  | nil => simp [all, eq_comm]
  | cons x xs ih =>
    rw [all, seq_eq_ok]
    constructor
    · rintro ⟨g, bs, hg, hb, rfl⟩
      obtain ⟨a, rfl, rfl⟩ := map_eq_ok_iff.mp hg
      exact .cons rfl (ih.mp hb)
    · intro h
      cases h with
      | cons hx hs => exact ⟨_, _, map_eq_ok_iff.mpr ⟨_, hx, rfl⟩, ih.mpr hs, rfl⟩

/-! ### Values -/

theorem nullable_eq_ok_iff {read : Json → Checked α} {v : Json} {found : Option α} :
    nullable read v = .ok found ↔
      (v = .null ∧ found = none) ∨ (v ≠ .null ∧ ∃ a, read v = .ok a ∧ found = some a) := by
  unfold nullable
  split
  · simp [eq_comm]
  · next hv =>
    have hne : v ≠ .null := hv
    change some <$> read v = .ok found ↔ _
    simp [map_eq_ok_iff, hne, eq_comm]

/-- What holds of an item wherever it stands holds of the items of a list. -/
theorem forall₂_mapIdx_iff {γ : Type} {f : Nat → α → β} {r : β → γ → Prop} {q : α → γ → Prop}
    (h : ∀ i a c, r (f i a) c ↔ q a c) {as : List α} {cs : List γ} :
    List.Forall₂ r (as.mapIdx f) cs ↔ List.Forall₂ q as cs := by
  induction as generalizing f cs with
  | nil => simp
  | cons a as ih =>
    rw [List.mapIdx_cons]
    cases cs with
    | nil => simp
    | cons c cs => rw [List.forall₂_cons, List.forall₂_cons, h, ih fun i ↦ h (i + 1)]

/-- Items that stand at one place belong together. -/
theorem exists_getElem?_of_forall₂ {r : α → β → Prop} {as : List α} {bs : List β}
    (h : List.Forall₂ r as bs) {i : Nat} {a : α} (ha : as[i]? = some a) :
    ∃ b, bs[i]? = some b ∧ r a b := by
  induction h generalizing i with
  | nil => cases ha
  | @cons _ b _ _ hr hs ih =>
    cases i with
    | zero =>
      cases ha
      exact ⟨b, rfl, hr⟩
    | succ i => exact ih ha

/-- Every item of the second list belongs to one of the first. -/
theorem exists_mem_of_forall₂ {r : α → β → Prop} {as : List α} {bs : List β}
    (h : List.Forall₂ r as bs) {b : β} (hb : b ∈ bs) : ∃ a ∈ as, r a b := by
  obtain ⟨i, hi⟩ := List.mem_iff_getElem?.mp hb
  obtain ⟨a, ha, hr⟩ := exists_getElem?_of_forall₂ (List.Forall₂.flip h) hi
  exact ⟨a, List.mem_of_getElem? ha, hr⟩

theorem list_eq_ok_iff {read : Json → Checked α} {v : Json} {as : List α} :
    list read v = .ok as ↔
      ∃ items, v = .array items ∧ List.Forall₂ (fun v a ↦ read v = .ok a) items as := by
  unfold list
  split
  · next items =>
    rw [all_eq_ok_iff, forall₂_mapIdx_iff fun _ _ _ ↦ inside_eq_ok_iff]
    simp
  · next hv =>
    constructor
    · intro h
      simp [fail] at h
    · rintro ⟨items, rfl, -⟩
      exact absurd rfl (hv items)

/-! ### Records -/

theorem record_eq_ok_iff {name : String} {read : Json.Fields → Checked α} {v : Json} {a : α} :
    record name read v = .ok a ↔ ∃ fs, v.fields? = some fs ∧ read fs = .ok a := by
  unfold record
  split
  · next fs hfs => simp [hfs]
  · next hv => simp [hv, fail]

/-- All keys of a value are texts. -/
def HasTextKeys (v : Json) : Prop := ∃ keys, textKeys v = .ok keys

theorem hasTextKeys_object (fs : Json.Fields) : HasTextKeys (.object fs) := by
  refine ⟨[], ?_⟩
  have hn : (fs.map fun e ↦ (Key.text e.1, e.2)).filter (·.1.text?.isNone) = [] := by
    rw [List.filter_map, List.filter_eq_nil_iff.mpr fun _ _ ↦ by simp [Key.text?], List.map_nil]
  change all (((fs.map fun e ↦ (Key.text e.1, e.2)).filter (·.1.text?.isNone)).map _) = _
  rw [hn]
  rfl

theorem openRecord_eq_ok_iff {name : String} {read : Json.Fields → Checked α} {v : Json}
    {a : α} :
    openRecord name read v = .ok a ↔
      ∃ fs, v.fields? = some fs ∧ HasTextKeys v ∧ read fs = .ok a := by
  unfold openRecord
  rw [seq_eq_ok_iff]
  constructor
  · rintro ⟨g, hg, keys, hk, rfl⟩
    obtain ⟨b, hb, rfl⟩ := map_eq_ok_iff.mp hg
    obtain ⟨fs, hfs, hr⟩ := record_eq_ok_iff.mp hb
    exact ⟨fs, hfs, ⟨keys, hk⟩, hr⟩
  · rintro ⟨fs, hfs, ⟨keys, hk⟩, hr⟩
    exact ⟨_, map_eq_ok_iff.mpr ⟨a, record_eq_ok_iff.mpr ⟨fs, hfs, hr⟩, rfl⟩, keys, hk, rfl⟩

theorem fieldOr_eq_ok_iff {fs : Json.Fields} {key : String} {default a : α}
    {read : Json → Checked α} :
    fieldOr fs key default read = .ok a ↔
      (∃ v, Json.Fields.get? key fs = some v ∧ read v = .ok a) ∨
        (Json.Fields.get? key fs = none ∧ a = default) := by
  unfold fieldOr
  split
  · next v hv => simp [hv, inside_eq_ok_iff]
  · next hv => simp [hv, eq_comm]

theorem required_eq_ok_iff {fs : Json.Fields} {key : String} {read : Json → Checked α} {a : α} :
    required fs key read = .ok a ↔ ∃ v, Json.Fields.get? key fs = some v ∧ read v = .ok a := by
  unfold required
  split
  · next v hv => simp [hv, inside_eq_ok_iff]
  · next hv => simp [hv, inside_eq_ok_iff, fail]

end Checked

open Checked

/-! ### Stats -/

theorem Localization.read_eq_ok_iff {v : Json} {l : Localization} :
    Localization.read v = .ok l ↔ ∃ fs, v.fields? = some fs ∧ HasTextKeys v ∧
      fieldOr fs "default" "" text = .ok l.default ∧ l.variants = others ["default"] fs := by
  obtain ⟨d, variants⟩ := l
  simp [Localization.read, openRecord_eq_ok_iff, map_eq_ok_iff, @eq_comm _ variants]

theorem Condition.read_eq_ok_iff {v : Json} {c : Condition} :
    Condition.read v = .ok c ↔ ∃ fs, v.fields? = some fs ∧
      fieldOr fs "value1" "" text = .ok c.left ∧
      fieldOr fs "operator" .eq (choice Comparison.symbol Comparison.all) = .ok c.comparison ∧
      fieldOr fs "value2" "" text = .ok c.right := by
  obtain ⟨left, comparison, right⟩ := c
  simp [Condition.read, record_eq_ok_iff, map_eq_ok_iff, seq_eq_ok_iff]

theorem Dice.read_eq_ok_iff {v : Json} {d : Dice} :
    Dice.read v = .ok d ↔ ∃ fs, v.fields? = some fs ∧
      fieldOr fs "expression" "" text = .ok d.expression ∧
      fieldOr fs "condition" none (nullable Condition.read) = .ok d.condition := by
  obtain ⟨expression, condition⟩ := d
  simp [Dice.read, record_eq_ok_iff, map_eq_ok_iff, seq_eq_ok_iff]

theorem Replacement.read_eq_ok_iff {v : Json} {r : Replacement} :
    Replacement.read v = .ok r ↔ ∃ fs, v.fields? = some fs ∧
      required fs "key" integer = .ok r.key ∧
      fieldOr fs "options" [] (list integer) = .ok r.options := by
  obtain ⟨key, options⟩ := r
  simp [Replacement.read, record_eq_ok_iff, map_eq_ok_iff, seq_eq_ok_iff]

theorem Rolls.read_eq_ok_iff {fs : Json.Fields} {r : Rolls} :
    Rolls.read fs = .ok r ↔
      fieldOr fs "dices" none (nullable (list Dice.read)) = .ok r.dice ∧
      fieldOr fs "replacements" none (nullable (list Replacement.read)) =
        .ok r.replacements := by
  obtain ⟨dice, replacements⟩ := r
  simp [Rolls.read, map_eq_ok_iff, seq_eq_ok_iff]

theorem EnumOption.read_eq_ok_iff {v : Json} {o : EnumOption} :
    EnumOption.read v = .ok o ↔ ∃ fs, v.fields? = some fs ∧
      required fs "value" integer = .ok o.value ∧
      fieldOr fs "name" {} Localization.read = .ok o.name ∧
      fieldOr fs "emoji" none (nullable text) = .ok o.emoji ∧
      fieldOr fs "edit_page" none (nullable (list integer)) = .ok o.editPages ∧
      fieldOr fs "replacements" none (nullable (list Replacement.read)) =
        .ok o.replacements := by
  obtain ⟨value, name, emoji, pages, replacements⟩ := o
  simp [EnumOption.read, record_eq_ok_iff, map_eq_ok_iff, seq_eq_ok_iff, and_assoc]

/-- Options are a list of options, or else the id of a stat. -/
theorem OptionSource.read_eq_ok_iff {v : Json} {source : OptionSource} :
    OptionSource.read v = .ok source ↔
      (∃ options, list EnumOption.read v = .ok options ∧ source = .own options) ∨
      (∃ faults id, list EnumOption.read v = .bad faults ∧ integer v = .ok id ∧
        source = .sharedWith id) := by
  unfold OptionSource.read
  split
  · next options ho => simp [ho, eq_comm]
  · next faults hf =>
    split
    · next id hi => simp [hf, hi, eq_comm]
    · next more hi => simp [hf, hi, neither]

/-- What belongs to the kind of a stat is read from the fields of that kind. -/
theorem StatDetail.read_eq_ok_iff {fs : Json.Fields} {kind : StatKind} {detail : StatDetail} :
    StatDetail.read fs kind = .ok detail ↔
      match kind, detail with
      | .numeric, .numeric min max rolls =>
        fieldOr fs "min" none (nullable number) = .ok min ∧
          fieldOr fs "max" none (nullable number) = .ok max ∧ Rolls.read fs = .ok rolls
      | .enumeration, .enumeration options rolls =>
        fieldOr fs "options" (.own []) OptionSource.read = .ok options ∧
          Rolls.read fs = .ok rolls
      | .boolean, .boolean rolls => Rolls.read fs = .ok rolls
      | .text, .text min max =>
        fieldOr fs "minLength" none (nullable integer) = .ok min ∧
          fieldOr fs "maxLength" none (nullable integer) = .ok max
      | .calculated, .calculated formula rolls =>
        fieldOr fs "formula" "" Checked.text = .ok formula ∧ Rolls.read fs = .ok rolls
      | _, _ => False := by
  cases kind <;> cases detail <;> simp [StatDetail.read, map_eq_ok_iff, seq_eq_ok_iff]

theorem Stat.readKind_eq_ok_iff {fs : Json.Fields} {kind : StatKind} {s : Stat} :
    Stat.readKind fs kind = .ok s ↔ required fs "id" integer = .ok s.id ∧
      fieldOr fs "name" {} Localization.read = .ok s.name ∧
      fieldOr fs "emoji" none (nullable text) = .ok s.emoji ∧
      fieldOr fs "edit_page" none (nullable (list integer)) = .ok s.editPages ∧
      StatDetail.read fs kind = .ok s.detail := by
  obtain ⟨id, name, emoji, pages, detail⟩ := s
  simp [Stat.readKind, inside_eq_ok_iff, map_eq_ok_iff, seq_eq_ok_iff, and_assoc]

/-- A stat is read as one of the kind that its type names. -/
theorem Stat.read_eq_ok_iff {v : Json} {s : Stat} :
    Stat.read v = .ok s ↔ ∃ fs kind word, v.fields? = some fs ∧
      Json.Fields.get? "type" fs = some (.string word) ∧ StatKind.ofWord? word = some kind ∧
      Stat.readKind fs kind = .ok s := by
  unfold Stat.read
  split
  · next hv => simp [hv, fail]
  · next fs hv =>
    split
    · next ht => simp [hv, ht, fail]
    · next tag ht =>
      cases tag with
      | string word =>
        dsimp only
        split
        · next kind hk => simp [hv, ht, hk]
        · next hk => simp [hv, ht, hk, fail]
      | _ => simp [hv, ht, fail]

/-! ### Sections -/

theorem SectionPreview.read_eq_ok_iff {v : Json} {p : SectionPreview} :
    SectionPreview.read v = .ok p ↔ ∃ fs, v.fields? = some fs ∧
      fieldOr fs "type" none (nullable (choice PreviewKind.word [.text, .image])) = .ok p.kind ∧
      fieldOr fs "content" {} Localization.read = .ok p.content := by
  obtain ⟨kind, content⟩ := p
  simp [SectionPreview.read, record_eq_ok_iff, map_eq_ok_iff, seq_eq_ok_iff]

theorem SheetSection.read_eq_ok_iff {v : Json} {s : SheetSection} :
    SheetSection.read v = .ok s ↔ ∃ fs, v.fields? = some fs ∧
      required fs "id" integer = .ok s.id ∧
      fieldOr fs "name" {} Localization.read = .ok s.name ∧
      fieldOr fs "emoji" none (nullable text) = .ok s.emoji ∧
      fieldOr fs "quick_edit_btn" false bool = .ok s.quickEdit ∧
      fieldOr fs "preview" {} SectionPreview.read = .ok s.preview ∧
      fieldOr fs "view_pages" [] (list integer) = .ok s.viewPages := by
  obtain ⟨id, name, emoji, quick, preview, pages⟩ := s
  simp [SheetSection.read, record_eq_ok_iff, map_eq_ok_iff, seq_eq_ok_iff, and_assoc,
    -Bool.exists_bool]

/-! ### Settings for other programs -/

theorem SchemaChoice.read_eq_ok_iff {v : Json} {c : SchemaChoice} :
    SchemaChoice.read v = .ok c ↔ ∃ fs, v.fields? = some fs ∧
      required fs "value" text = .ok c.value ∧ fieldOr fs "label" "" text = .ok c.label := by
  obtain ⟨value, label⟩ := c
  simp [SchemaChoice.read, record_eq_ok_iff, map_eq_ok_iff, seq_eq_ok_iff]

theorem SchemaField.read_eq_ok_iff {v : Json} {f : SchemaField} :
    SchemaField.read v = .ok f ↔ ∃ fs word, v.fields? = some fs ∧
      fieldOr fs "name" "" text = .ok f.name ∧
      fieldOr fs "type" "eval" (choice id ["eval"]) = .ok word ∧
      fieldOr fs "options" [] (list SchemaChoice.read) = .ok f.choices := by
  obtain ⟨name, choices⟩ := f
  simp [SchemaField.read, record_eq_ok_iff, map_eq_ok_iff, seq_eq_ok_iff, and_assoc]

theorem IntegrationSchema.read_eq_ok_iff {v : Json} {s : IntegrationSchema} :
    IntegrationSchema.read v = .ok s ↔ ∃ fs, v.fields? = some fs ∧ HasTextKeys v ∧
      required fs "id" integer = .ok s.id ∧
      fieldOr fs "name" {} Localization.read = .ok s.name ∧
      fieldOr fs "description" {} Localization.read = .ok s.description ∧
      fieldOr fs "fields" none (nullable (entries SchemaField.read)) = .ok s.fields ∧
      fieldOr fs "AutorizedModifierList" none (nullable (list anything)) = .ok s.modifiers ∧
      fieldOr fs "authorized_status_ids" [] (list integer) = .ok s.authorizedStats ∧
      s.extra = others ["id", "name", "description", "fields", "AutorizedModifierList",
        "authorized_status_ids"] fs := by
  obtain ⟨id, name, description, fields, modifiers, stats, extra⟩ := s
  simp [IntegrationSchema.read, openRecord_eq_ok_iff, map_eq_ok_iff, seq_eq_ok_iff, and_assoc,
    @eq_comm _ extra]

/-- A text stays a text, and whatever else is an integer is a number. -/
theorem InitiativeId.read_eq_ok_iff {v : Json} {id : InitiativeId} :
    InitiativeId.read v = .ok id ↔
      (∃ s, v = .string s ∧ id = .text s) ∨
      ((∀ s, v ≠ .string s) ∧ ∃ n, integer v = .ok n ∧ id = .number n) := by
  unfold InitiativeId.read
  split
  · simp [eq_comm]
  · next hv =>
    have hne : ∀ s, v ≠ .string s := hv
    split
    · next n hn => simp [hn, hne, eq_comm]
    · next faults hn => simp [hn, hne, neither]

theorem Initiative.read_eq_ok_iff {v : Json} {i : Initiative} :
    Initiative.read v = .ok i ↔ ∃ fs, v.fields? = some fs ∧ HasTextKeys v ∧
      fieldOr fs "id" none (nullable InitiativeId.read) = .ok i.id ∧
      i.extra = others ["id"] fs := by
  obtain ⟨id, extra⟩ := i
  simp [Initiative.read, openRecord_eq_ok_iff, map_eq_ok_iff, @eq_comm _ extra]

theorem Integrations.read_eq_ok_iff {v : Json} {i : Integrations} :
    Integrations.read v = .ok i ↔ ∃ fs, v.fields? = some fs ∧ HasTextKeys v ∧
      fieldOr fs "iniciative" none (nullable Initiative.read) = .ok i.initiative ∧
      fieldOr fs "atributes_roll" none (nullable text) = .ok i.attributeRoll ∧
      fieldOr fs "schemas" [] (list IntegrationSchema.read) = .ok i.schemas ∧
      i.extra = others ["iniciative", "atributes_roll", "schemas"] fs := by
  obtain ⟨initiative, roll, schemas, extra⟩ := i
  simp [Integrations.read, openRecord_eq_ok_iff, map_eq_ok_iff, seq_eq_ok_iff, and_assoc,
    @eq_comm _ extra]

/-! ### Systems -/

theorem SystemConfig.read_eq_ok_iff {v : Json} {c : SystemConfig} :
    SystemConfig.read v = .ok c ↔ ∃ fs, v.fields? = some fs ∧
      fieldOr fs "id" none (nullable integer) = .ok c.id ∧
      fieldOr fs "name" {} Localization.read = .ok c.name ∧
      fieldOr fs "description" {} Localization.read = .ok c.description := by
  obtain ⟨id, name, description⟩ := c
  simp [SystemConfig.read, record_eq_ok_iff, map_eq_ok_iff, seq_eq_ok_iff]

theorem GameSystem.read_eq_ok_iff {v : Json} {s : GameSystem} :
    GameSystem.read v = .ok s ↔ ∃ fs, v.fields? = some fs ∧
      fieldOr fs "config" {} SystemConfig.read = .ok s.config ∧
      fieldOr fs "stats" [] (list Stat.read) = .ok s.stats ∧
      fieldOr fs "sections" [] (list SheetSection.read) = .ok s.sections ∧
      fieldOr fs "integrations" none (nullable Integrations.read) = .ok s.integrations := by
  obtain ⟨config, stats, sections, integrations⟩ := s
  simp [GameSystem.read, record_eq_ok_iff, map_eq_ok_iff, seq_eq_ok_iff, and_assoc]

end CharacterSheet
