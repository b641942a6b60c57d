import CharacterSheet.Proofs.Schema.Entries
import CharacterSheet.Proofs.Schema.Lasting

/-!
# Reading what was written

What records keep beside their declared fields comes from the document that they were read from, so
that it is neither declared nor changed when it is written. Main statement: the document of a schema
that was read from a plain value is read as what lasts of the schema.
-/

namespace CharacterSheet
open Json (Fields)

/-! ### Fields of what was written -/

@[simp]
theorem Json.Fields.get?_nil (key : String) : get? key [] = none := rfl

@[simp]
theorem Json.Fields.get?_cons (key k : String) (v : Json) (fs : Fields) :
    get? key ((k, v) :: fs) = if k = key then some v else get? key fs := rfl

@[simp]
theorem Json.Fields.get?_append (key : String) (fs gs : Fields) :
    get? key (fs ++ gs) = (get? key fs).or (get? key gs) := by
  induction fs with
  | nil => rfl
  | cons f fs ih =>
    rw [List.cons_append, get?, get?]
    split
    · rfl
    · exact ih

theorem Json.Fields.get?_eq_none {key : String} {fs : Fields} (h : ∀ f ∈ fs, f.1 ≠ key) :
    get? key fs = none := by
  induction fs with
  | nil => rfl
  | cons f fs ih =>
    obtain ⟨hf, hfs⟩ := List.forall_mem_cons.mp h
    rw [get?, if_neg hf, ih hfs]

@[simp]
theorem Extent.get?_field (key k : String) (v : Option Json) :
    Fields.get? key (brief.field k v) = if k = key then v else none := by
  cases v with
  | some v => rfl
  | none => simp [field]

@[simp]
theorem Json.Fields.keys_nil : Fields.keys [] = [] := rfl

@[simp]
theorem Json.Fields.keys_cons (k : String) (v : Json) (fs : Fields) :
    Fields.keys ((k, v) :: fs) = k :: fs.keys := rfl

@[simp]
theorem Json.Fields.keys_append (fs gs : Fields) : (fs ++ gs).keys = fs.keys ++ gs.keys :=
  List.map_append

theorem Extent.keys_field_subset {declared : List String} {k : String} (hk : k ∈ declared)
    (v : Option Json) : (brief.field k v).keys ⊆ declared := by
  cases v <;> simp [field, hk]

/-! ### Fields beside the declared ones -/

/-- The records that keep the fields which they do not declare. -/
inductive OpenRecord where
  | localization
  | integration
  | initiative
  | integrations
  deriving DecidableEq

/-- The fields that a record declares. -/
def OpenRecord.declared : OpenRecord → List String
  | .localization => ["default"]
  | .integration =>
    ["id", "name", "description", "fields", "AutorizedModifierList", "authorized_status_ids"]
  | .initiative => ["id"]
  | .integrations => ["iniciative", "atributes_roll", "schemas"]

/-- Fields that are kept beside declared ones and are written as they are. -/
structure Kept (declared : List String) (fs : Fields) : Prop where
  undeclared : ∀ f ∈ fs, f.1 ∉ declared
  plain : Json.arePlainFields fs = true
  finite : ∀ n ∈ Json.fieldNumbers fs, n.isFinite = true

namespace Kept
variable {declared : List String} {fs : Fields}

/-- There is nothing to settle in plain fields. -/
theorem map_settled (h : Json.arePlainFields fs = true) :
    fs.map (fun (k, v) ↦ (k, v.settled)) = fs := by
  have hs : ∀ f ∈ fs, (f.1, f.2.settled) = f := fun f hf ↦ by
    rw [Json.settled_of_isPlain f.2 (Json.arePlainFields_iff.mp h f hf)]
  exact (List.map_congr_left hs).trans (List.map_id' fs)

/-- What is read from plain fields beside the declared ones are fields as they stand. -/
theorem others_eq (h : Json.arePlainFields fs = true) :
    Checked.others declared fs = fs.filter fun f ↦ !declared.contains f.1 :=
  map_settled (Json.arePlainFields_iff.mpr fun f hf ↦
    Json.arePlainFields_iff.mp h f (List.mem_of_mem_filter hf))

/-- What is read from a plain value beside the declared fields is kept when it is finite. -/
theorem of_others {v : Json} {extra : Fields} (hv : v.isPlain = true) (hfs : v.fields? = some fs)
    (ho : extra = Checked.others declared fs)
    (hn : ∀ n ∈ Json.fieldNumbers extra, n.isFinite = true) : Kept declared extra := by
  rw [Json.eq_object_of_isPlain hv hfs] at hv
  have he : extra = fs.filter fun f ↦ !declared.contains f.1 := ho.trans (others_eq hv)
  refine ⟨fun f hf ↦ ?_, Json.arePlainFields_iff.mpr fun f hf ↦ ?_, hn⟩
  all_goals
    rw [he] at hf
    obtain ⟨hm, hd⟩ := List.mem_filter.mp hf
  · simpa using hd
  · exact Json.arePlainFields_iff.mp hv f hm

/-- Of the fields that are kept, some can be left out. -/
theorem present (h : Kept declared fs) : Kept declared fs.present where
  undeclared f hf := h.undeclared f (List.mem_of_mem_filter hf)
  plain := Json.arePlainFields_iff.mpr fun f hf ↦
    Json.arePlainFields_iff.mp h.plain f (List.mem_of_mem_filter hf)
  finite n hn := by
    refine h.finite n ?_
    rw [Json.fieldNumbers_eq] at hn ⊢
    obtain ⟨f, hf, hn⟩ := List.mem_flatMap.mp hn
    exact List.mem_flatMap.mpr ⟨f, List.mem_of_mem_filter hf, hn⟩

/-- A document shows the fields that are kept and are not null, as they are. -/
theorem kept_eq (h : Kept declared fs) : Extent.brief.kept fs = fs.present :=
  Json.writtenFields_of_arePlainFields fs.present h.present.plain h.present.finite

/-- There is no declared field among those that are kept. -/
theorem get?_kept (h : Kept declared fs) (key : String) (hk : key ∈ declared) :
    Fields.get? key (Extent.brief.kept fs) = none := by
  rw [h.kept_eq]
  refine Fields.get?_eq_none fun f hf he ↦ ?_
  exact h.present.undeclared f hf (he ▸ hk)

/-- The fields that are kept are read again beside declared ones. -/
theorem others_kept (h : Kept declared fs) (gs : Fields) (hg : gs.keys ⊆ declared) :
    Checked.others declared (gs ++ Extent.brief.kept fs) = fs.present := by
  have hd : gs.filter (fun f ↦ !declared.contains f.1) = [] :=
    List.filter_eq_nil_iff.mpr fun f hf ↦ by simpa using hg (List.mem_map_of_mem hf)
  have hu : fs.present.filter (fun f ↦ !declared.contains f.1) = fs.present :=
    List.filter_eq_self.mpr fun f hf ↦ by simpa using h.present.undeclared f hf
  rw [h.kept_eq]
  change ((gs ++ fs.present).filter (fun f ↦ !declared.contains f.1)).map _ = _
  rw [List.filter_append, hd, hu, List.nil_append]
  exact map_settled h.present.plain

end Kept

/-! ### Values that are written -/

namespace Checked
variable {α : Type} {fs : Fields} {key : String} {read : Json → Checked α} {write : α → Json}
  {f : α → α}

theorem required_of_get? {v : Json} {a : α} (h : fs.get? key = some v) (hr : read v = .ok a) :
    required fs key read = .ok a :=
  required_eq_ok_iff.mpr ⟨v, h, hr⟩

theorem fieldOr_of_get? {v : Json} {default a : α} (h : fs.get? key = some v)
    (hr : read v = .ok a) : fieldOr fs key default read = .ok a :=
  fieldOr_eq_ok_iff.mpr (.inl ⟨v, h, hr⟩)

/-- A field that may be missing is read again when it is written whenever there is something. -/
theorem fieldOr_nullable_of_get? {o : Option α} (hr : ∀ a ∈ o, read (write a) = .ok (f a))
    (hn : ∀ a, write a ≠ .null) (h : fs.get? key = o.map write) :
    fieldOr fs key none (nullable read) = .ok (o.map f) := by
  cases o with
  | none => exact fieldOr_eq_ok_iff.mpr (.inr ⟨h, rfl⟩)
  | some a =>
    exact fieldOr_of_get? h (nullable_eq_ok_iff.mpr (.inr ⟨hn a, f a, hr a rfl, rfl⟩))

/-- A list is read again when its items are. -/
theorem list_ofList {as : List α} (h : ∀ a ∈ as, read (write a) = .ok (f a)) :
    list read (.ofList write as) = .ok (as.map f) := by
  refine list_eq_ok_iff.mpr ⟨_, rfl, ?_⟩
  simp only [List.forall₂_map_left_iff, List.forall₂_map_right_iff]
  exact List.forall₂_same.mpr h

/-- A field that may be missing is read again as it was. -/
theorem fieldOr_nullable_self {o : Option α} (hr : ∀ a ∈ o, read (write a) = .ok a)
    (hn : ∀ a, write a ≠ .null) (h : fs.get? key = o.map write) :
    fieldOr fs key none (nullable read) = .ok o := by
  simpa using fieldOr_nullable_of_get? (f := id) hr hn h

/-- A list is read again as it was. -/
theorem list_ofList_self {as : List α} (h : ∀ a, read (write a) = .ok a) :
    list read (.ofList write as) = .ok as := by
  simpa using list_ofList fun a _ ↦ h a

theorem list_ofInts (ns : List Int) : list integer (.ofInts ns) = .ok ns :=
  list_ofList_self fun _ ↦ rfl

theorem fieldOr_text {o : Option String} (h : fs.get? key = o.map .string) :
    fieldOr fs key none (nullable text) = .ok o :=
  fieldOr_nullable_self (fun s _ ↦ (rfl : text (.string s) = .ok s)) (fun _ ↦ nofun) h

theorem fieldOr_integer {o : Option Int} (h : fs.get? key = o.map .int) :
    fieldOr fs key none (nullable integer) = .ok o :=
  fieldOr_nullable_self (fun n _ ↦ (rfl : integer (.int n) = .ok n)) (fun _ ↦ nofun) h

theorem fieldOr_number {o : Option Number} (h : fs.get? key = o.map .number) :
    fieldOr fs key none (nullable number) = .ok o :=
  fieldOr_nullable_self (fun n _ ↦ (rfl : number (.number n) = .ok n)) (fun _ ↦ nofun) h

theorem fieldOr_integers {o : Option (List Int)} (h : fs.get? key = o.map .ofInts) :
    fieldOr fs key none (nullable (list integer)) = .ok o :=
  fieldOr_nullable_self (fun ns _ ↦ list_ofInts ns) (fun _ ↦ nofun) h

variable {v : Json} (hv : v.isPlain = true) (hfs : v.fields? = some fs)
include hv hfs

/-- What was read from a field is the default or was read from a plain value. -/
theorem eq_default_or_exists {default a : α} (h : fieldOr fs key default read = .ok a) :
    a = default ∨ ∃ w, w.isPlain = true ∧ read w = .ok a := by
  rcases fieldOr_eq_ok_iff.mp h with ⟨w, hw, ha⟩ | ⟨-, he⟩
  · exact .inr ⟨w, Json.isPlain_of_get? hv hfs hw, ha⟩
  · exact .inl he

/-- What was read from a field that may be null was read from a plain value. -/
theorem exists_of_nullable {o : Option α} (h : fieldOr fs key none (nullable read) = .ok o)
    {a : α} (ha : a ∈ o) : ∃ w, w.isPlain = true ∧ read w = .ok a := by
  rcases fieldOr_eq_ok_iff.mp h with ⟨w, hw, hr⟩ | ⟨-, rfl⟩
  · rcases nullable_eq_ok_iff.mp hr with ⟨-, rfl⟩ | ⟨-, b, hb, rfl⟩
    · cases ha
    · cases ha
      exact ⟨w, Json.isPlain_of_get? hv hfs hw, hb⟩
  · cases ha

/-- The items of a list that was read were read from plain values. -/
theorem exists_of_list {as : List α} (h : fieldOr fs key [] (list read) = .ok as) {a : α}
    (ha : a ∈ as) : ∃ w, w.isPlain = true ∧ read w = .ok a := by
  rcases fieldOr_eq_ok_iff.mp h with ⟨w, hw, hr⟩ | ⟨-, rfl⟩
  · obtain ⟨items, rfl, hi⟩ := list_eq_ok_iff.mp hr
    obtain ⟨u, hu, hr⟩ := exists_mem_of_forall₂ hi ha
    exact ⟨u, Json.arePlainItems_iff.mp (Json.isPlain_of_get? hv hfs hw) u hu, hr⟩
  · cases ha

end Checked

open Checked

/-! ### Records that keep nothing -/

theorem Condition.read_toJson (c : Condition) : Condition.read c.toJson = .ok c := by
  refine read_eq_ok_iff.mpr ⟨_, rfl, fieldOr_of_get? rfl rfl, fieldOr_of_get? rfl ?_,
    fieldOr_of_get? rfl rfl⟩
  cases c.comparison <;> rfl

theorem Dice.read_toJson (d : Dice) : Dice.read (d.toJson .brief) = .ok d := by
  refine read_eq_ok_iff.mpr ⟨_, rfl, fieldOr_of_get? rfl rfl,
    fieldOr_nullable_self (fun c _ ↦ c.read_toJson) (fun _ ↦ nofun) ?_⟩
  simp

theorem Replacement.read_toJson (r : Replacement) : Replacement.read r.toJson = .ok r :=
  read_eq_ok_iff.mpr ⟨_, rfl, required_of_get? rfl rfl, fieldOr_of_get? rfl (list_ofInts _)⟩

/-- What can be rolled is read again from fields that show it. -/
theorem Rolls.read_of_get? {fs : Fields} {r : Rolls}
    (hd : fs.get? "dices" = r.dice.map (Json.ofList (Dice.toJson .brief)))
    (hr : fs.get? "replacements" = r.replacements.map (Json.ofList Replacement.toJson)) :
    Rolls.read fs = .ok r :=
  read_eq_ok_iff.mpr
    ⟨fieldOr_nullable_self (fun _ _ ↦ list_ofList_self Dice.read_toJson) (fun _ ↦ nofun) hd,
      fieldOr_nullable_self (fun _ _ ↦ list_ofList_self Replacement.read_toJson) (fun _ ↦ nofun) hr⟩

theorem SchemaChoice.read_toJson (c : SchemaChoice) : SchemaChoice.read c.toJson = .ok c :=
  read_eq_ok_iff.mpr ⟨_, rfl, required_of_get? rfl rfl, fieldOr_of_get? rfl rfl⟩

theorem SchemaField.read_toJson (f : SchemaField) : SchemaField.read f.toJson = .ok f :=
  read_eq_ok_iff.mpr ⟨_, _, rfl, fieldOr_of_get? rfl rfl, fieldOr_of_get? rfl rfl,
    fieldOr_of_get? rfl (list_ofList_self SchemaChoice.read_toJson)⟩

/-! ### Texts, options and stats -/

theorem Localization.kept {v : Json} {l : Localization} (hv : v.isPlain = true)
    (h : Localization.read v = .ok l) (hn : ∀ n ∈ l.numbers, n.isFinite = true) :
    Kept OpenRecord.localization.declared l.variants := by
  obtain ⟨fs, hfs, -, -, ho⟩ := read_eq_ok_iff.mp h
  exact Kept.of_others hv hfs ho hn

theorem Localization.read_toJson {v : Json} {l : Localization} (hv : v.isPlain = true)
    (h : Localization.read v = .ok l) (hn : ∀ n ∈ l.numbers, n.isFinite = true) :
    Localization.read (l.toJson .brief) = .ok l.lasting := by
  refine read_eq_ok_iff.mpr ⟨_, rfl, hasTextKeys_object _, fieldOr_of_get? rfl rfl, ?_⟩
  exact ((kept hv h hn).others_kept [("default", .string l.default)]
    (by simp [OpenRecord.declared])).symm

/-- A localized text that was read from a field is read again. -/
theorem Localization.read_again {v : Json} {fs : Fields} {key : String} {l : Localization}
    (hv : v.isPlain = true) (hfs : v.fields? = some fs)
    (h : fieldOr fs key {} Localization.read = .ok l) (hn : ∀ n ∈ l.numbers, n.isFinite = true) :
    Localization.read (l.toJson .brief) = .ok l.lasting := by
  rcases eq_default_or_exists hv hfs h with rfl | ⟨w, hw, hr⟩
  · rfl
  · exact read_toJson hw hr hn

theorem EnumOption.read_toJson {v : Json} {o : EnumOption} (hv : v.isPlain = true)
    (h : EnumOption.read v = .ok o) (hn : ∀ n ∈ o.numbers, n.isFinite = true) :
    EnumOption.read (o.toJson .brief) = .ok o.lasting := by
  obtain ⟨fs, hfs, -, hname, -⟩ := read_eq_ok_iff.mp h
  have hname := Localization.read_again hv hfs hname hn
  refine read_eq_ok_iff.mpr ⟨_, rfl, required_of_get? rfl rfl, fieldOr_of_get? rfl hname,
    fieldOr_text ?_, fieldOr_integers ?_,
    fieldOr_nullable_self (fun _ _ ↦ list_ofList_self Replacement.read_toJson) (fun _ ↦ nofun) ?_⟩
  all_goals simp [lasting]

theorem OptionSource.read_toJson {v : Json} {o : OptionSource} (hv : v.isPlain = true)
    (h : OptionSource.read v = .ok o) (hn : ∀ n ∈ o.numbers, n.isFinite = true) :
    OptionSource.read (o.toJson .brief) = .ok o.lasting := by
  rcases read_eq_ok_iff.mp h with ⟨options, ho, rfl⟩ | ⟨_, id, -, -, rfl⟩
  · refine read_eq_ok_iff.mpr (.inl ⟨_, list_ofList fun a ha ↦ ?_, rfl⟩)
    obtain ⟨items, rfl, hi⟩ := list_eq_ok_iff.mp ho
    obtain ⟨w, hw, hr⟩ := exists_mem_of_forall₂ hi ha
    refine EnumOption.read_toJson (Json.arePlainItems_iff.mp hv w hw) hr fun n hm ↦ ?_
    exact hn n (List.mem_flatMap.mpr ⟨a, ha, hm⟩)
  · exact read_eq_ok_iff.mpr (.inr ⟨_, id, rfl, rfl, rfl⟩)

/-- Options that were read from a field are read again. -/
theorem OptionSource.read_again {v : Json} {fs : Fields} {o : OptionSource}
    (hv : v.isPlain = true) (hfs : v.fields? = some fs)
    (h : fieldOr fs "options" (.own []) OptionSource.read = .ok o)
    (hn : ∀ n ∈ o.numbers, n.isFinite = true) :
    OptionSource.read (o.toJson .brief) = .ok o.lasting := by
  rcases eq_default_or_exists hv hfs h with rfl | ⟨w, hw, hr⟩
  · rfl
  · exact read_toJson hw hr hn

/-- The fields of a stat before those of its kind. -/
def Stat.commonKeys : List String := ["id", "name", "emoji", "edit_page", "type"]

theorem StatDetail.get?_toFields (key : String) (hk : key ∈ Stat.commonKeys) (d : StatDetail) :
    Fields.get? key (d.toFields .brief) = none := by
  simp only [Stat.commonKeys, List.mem_cons, List.not_mem_nil, or_false] at hk
  cases d <;> rcases hk with rfl | rfl | rfl | rfl | rfl <;>
    simp [toFields, Rolls.toFields]

/-- What belongs to the kind of a stat is read again from fields that show it, with its options as
they are read again. -/
theorem StatDetail.read_toFields {gs : Fields} {s : Stat} {g : EnumOption → EnumOption}
    (ho : ∀ options ∈ s.optionSource?,
      OptionSource.read (options.toJson .brief) = .ok (options.mapOptions g))
    (hg : ∀ key, key ∉ Stat.commonKeys → gs.get? key = Fields.get? key (s.detail.toFields .brief)) :
    StatDetail.read gs s.kind = .ok (s.detail.mapOptions g) := by
  have hr (r : Rolls) (hd : gs.get? "dices" = Fields.get? "dices" (r.toFields .brief))
      (hr : gs.get? "replacements" = Fields.get? "replacements" (r.toFields .brief)) :
      Rolls.read gs = .ok r := by
    refine Rolls.read_of_get? ?_ ?_
    · rw [hd]
      simp [Rolls.toFields]
    · rw [hr]
      simp [Rolls.toFields]
  obtain ⟨id, name, emoji, pages, detail⟩ := s
  dsimp only at hg
  refine read_eq_ok_iff.mpr ?_
  cases detail with
  | numeric min max rolls =>
    refine ⟨fieldOr_number ?_, fieldOr_number ?_, hr rolls ?_ ?_⟩
    all_goals
      rw [hg _ (by decide)]
      simp [toFields, Rolls.toFields]
  | enumeration options rolls =>
    refine ⟨fieldOr_of_get? (hg "options" (by decide)) (ho options rfl), hr rolls ?_ ?_⟩
    all_goals
      rw [hg _ (by decide)]
      simp [toFields]
  | boolean rolls => exact hr rolls (hg _ (by decide)) (hg _ (by decide))
  | text min max =>
    refine ⟨fieldOr_integer ?_, fieldOr_integer ?_⟩
    all_goals
      rw [hg _ (by decide)]
      simp [toFields]
  | calculated formula rolls =>
    refine ⟨fieldOr_of_get? (hg "formula" (by decide)) rfl, hr rolls ?_ ?_⟩
    all_goals
      rw [hg _ (by decide)]
      simp [toFields]

/-- The document of a stat with another id and another name. -/
def Stat.documentWith (s : Stat) (id : Int) (name : Json) : Json :=
  .object ([("id", .int id), ("name", name)] ++
    Extent.brief.field "emoji" (s.emoji.map .string) ++
    Extent.brief.field "edit_page" (s.editPages.map .ofInts) ++
    [("type", .string s.kind.word)] ++ s.detail.toFields .brief)

/-- A stat is read again under the id and the name that its document has, with its options as they
are read again. -/
theorem Stat.read_documentWith {s : Stat} {shown : Json} {name : Localization}
    {g : EnumOption → EnumOption} (id : Int) (hname : Localization.read shown = .ok name)
    (ho : ∀ options ∈ s.optionSource?,
      OptionSource.read (options.toJson .brief) = .ok (options.mapOptions g)) :
    Stat.read (s.documentWith id shown) =
      .ok { s with id, name, detail := s.detail.mapOptions g } := by
  refine read_eq_ok_iff.mpr ⟨_, s.kind, s.kind.word, rfl, ?_, s.kind.ofWord?_word, ?_⟩
  · simp
  refine readKind_eq_ok_iff.mpr ⟨required_of_get? rfl rfl, fieldOr_of_get? rfl hname,
    fieldOr_text ?_, fieldOr_integers ?_, StatDetail.read_toFields ho ?_⟩
  · simp [StatDetail.get?_toFields "emoji" (by decide)]
  · simp [StatDetail.get?_toFields "edit_page" (by decide)]
  · intro key hk
    simp only [commonKeys, List.mem_cons, List.not_mem_nil, or_false, not_or] at hk
    simp [Ne.symm, hk]

/-- A stat with a source of options is an enumeration. -/
theorem Stat.detail_of_optionSource? {s : Stat} {options : OptionSource}
    (h : options ∈ s.optionSource?) : ∃ rolls, s.detail = .enumeration options rolls := by
  obtain ⟨id, name, emoji, pages, detail⟩ := s
  cases detail with
  | enumeration source rolls =>
    cases h
    exact ⟨rolls, rfl⟩
  | _ => cases h

/-- The options of a stat that was read were read from a field. -/
theorem Stat.options_of_read {fs : Fields} {kind : StatKind} {s : Stat} {options : OptionSource}
    (h : StatDetail.read fs kind = .ok s.detail) (ho : options ∈ s.optionSource?) :
    fieldOr fs "options" (.own []) OptionSource.read = .ok options := by
  obtain ⟨rolls, hd⟩ := detail_of_optionSource? ho
  rw [hd] at h
  have h := StatDetail.read_eq_ok_iff.mp h
  cases kind with
  | enumeration => exact h.1
  | _ => exact h.elim

theorem Stat.read_toJson {v : Json} {s : Stat} (hv : v.isPlain = true)
    (h : Stat.read v = .ok s) (hn : ∀ n ∈ s.numbers, n.isFinite = true) :
    Stat.read (s.toJson .brief) = .ok s.lasting := by
  obtain ⟨fs, kind, word, hfs, -, -, h⟩ := read_eq_ok_iff.mp h
  obtain ⟨-, hname, -, -, hdetail⟩ := readKind_eq_ok_iff.mp h
  obtain ⟨hnname, hndetail⟩ := List.forall_mem_append.mp hn
  have hname := Localization.read_again hv hfs hname hnname
  have hoptions : ∀ options ∈ s.optionSource?, OptionSource.read (options.toJson .brief) =
      .ok (options.mapOptions EnumOption.lasting) := by
    intro options ho
    obtain ⟨rolls, hd⟩ := detail_of_optionSource? ho
    rw [options.mapOptions_lasting]
    rw [hd] at hndetail
    exact OptionSource.read_again hv hfs (options_of_read hdetail ho) hndetail
  rw [lasting, ← StatDetail.mapOptions_lasting]
  exact read_documentWith s.id hname hoptions

/-! ### Sections -/

theorem SectionPreview.read_toJson {v : Json} {p : SectionPreview} (hv : v.isPlain = true)
    (h : SectionPreview.read v = .ok p) (hn : ∀ n ∈ p.numbers, n.isFinite = true) :
    SectionPreview.read (p.toJson .brief) = .ok p.lasting := by
  obtain ⟨fs, hfs, -, hcontent⟩ := read_eq_ok_iff.mp h
  have hcontent := Localization.read_again hv hfs hcontent hn
  have hword (k : PreviewKind) :
      choice PreviewKind.word [.text, .image] (.string k.word) = .ok k := by
    cases k <;> rfl
  refine read_eq_ok_iff.mpr ⟨_, rfl, fieldOr_nullable_self (fun k _ ↦ hword k) (fun _ ↦ nofun) ?_,
    fieldOr_of_get? ?_ hcontent⟩
  · simp [lasting]
  · simp

theorem SheetSection.read_toJson {v : Json} {s : SheetSection} (hv : v.isPlain = true)
    (h : SheetSection.read v = .ok s) (hn : ∀ n ∈ s.numbers, n.isFinite = true) :
    SheetSection.read (s.toJson .brief) = .ok s.lasting := by
  obtain ⟨fs, hfs, -, hname, -, -, hpreview, -⟩ := read_eq_ok_iff.mp h
  obtain ⟨hnname, hnpreview⟩ := List.forall_mem_append.mp hn
  have hname := Localization.read_again hv hfs hname hnname
  have hpreview : SectionPreview.read (s.preview.toJson .brief) = .ok s.preview.lasting := by
    rcases eq_default_or_exists hv hfs hpreview with he | ⟨w, hw, hr⟩
    · rw [he]
      rfl
    · exact SectionPreview.read_toJson hw hr hnpreview
  have hquick : Checked.bool (.bool s.quickEdit) = .ok s.quickEdit := rfl
  refine read_eq_ok_iff.mpr ⟨_, rfl, required_of_get? rfl rfl, fieldOr_of_get? rfl hname,
    fieldOr_text ?_, fieldOr_of_get? ?_ hquick, fieldOr_of_get? ?_ hpreview,
    fieldOr_of_get? ?_ (list_ofInts s.viewPages)⟩
  all_goals simp [lasting]

/-! ### Settings for other programs -/

theorem IntegrationSchema.kept {v : Json} {s : IntegrationSchema} (hv : v.isPlain = true)
    (h : IntegrationSchema.read v = .ok s) (hn : ∀ n ∈ s.numbers, n.isFinite = true) :
    Kept OpenRecord.integration.declared s.extra := by
  obtain ⟨fs, hfs, -, -, -, -, -, -, -, ho⟩ := read_eq_ok_iff.mp h
  exact Kept.of_others hv hfs ho (List.forall_mem_append.mp hn).2

theorem Initiative.kept {v : Json} {i : Initiative} (hv : v.isPlain = true)
    (h : Initiative.read v = .ok i) (hn : ∀ n ∈ i.numbers, n.isFinite = true) :
    Kept OpenRecord.initiative.declared i.extra := by
  obtain ⟨fs, hfs, -, -, ho⟩ := read_eq_ok_iff.mp h
  exact Kept.of_others hv hfs ho hn

theorem Integrations.kept {v : Json} {i : Integrations} (hv : v.isPlain = true)
    (h : Integrations.read v = .ok i) (hn : ∀ n ∈ i.numbers, n.isFinite = true) :
    Kept OpenRecord.integrations.declared i.extra := by
  obtain ⟨fs, hfs, -, -, -, -, ho⟩ := read_eq_ok_iff.mp h
  exact Kept.of_others hv hfs ho (List.forall_mem_append.mp hn).2

/-- Plain values of any kind are read as they are, and when they are finite they are written so. -/
theorem list_anything {v : Json} {found : List Json} (hv : v.isPlain = true)
    (h : list anything v = .ok found) (hn : ∀ n ∈ found.flatMap Json.numbers, n.isFinite = true) :
    v = .array found ∧ Json.ofList Json.written found = .array found := by
  obtain ⟨items, rfl, hi⟩ := list_eq_ok_iff.mp h
  have hp := Json.arePlainItems_iff.mp hv
  have hs : items.map Json.settled = items :=
    (List.map_congr_left fun w hw ↦ Json.settled_of_isPlain w (hp w hw)).trans (List.map_id' _)
  have he : List.Forall₂ (· = ·) (items.map Json.settled) found :=
    List.forall₂_map_left_iff.mpr (hi.imp fun _ _ hr ↦ Checked.ok.inj hr)
  rw [List.forall₂_eq_eq_eq, hs] at he
  subst he
  refine ⟨rfl, congrArg _ ((List.map_congr_left fun w hw ↦ ?_).trans (List.map_id' _))⟩
  exact Json.written_of_isPlain w (hp w hw) fun n hm ↦ hn n (List.mem_flatMap.mpr ⟨w, hw, hm⟩)

theorem IntegrationSchema.read_toJson {v : Json} {s : IntegrationSchema} (hv : v.isPlain = true)
    (h : IntegrationSchema.read v = .ok s) (hn : ∀ n ∈ s.numbers, n.isFinite = true) :
    IntegrationSchema.read (s.toJson .brief) = .ok s.lasting := by
  have hk := kept hv h hn
  obtain ⟨fs, hfs, -, -, hname, hdescription, hfields, hmodifiers, -⟩ := read_eq_ok_iff.mp h
  simp only [numbers, List.forall_mem_append] at hn
  obtain ⟨⟨⟨hnname, hndescription⟩, hnmodifiers⟩, -⟩ := hn
  have hname := Localization.read_again hv hfs hname hnname
  have hdescription := Localization.read_again hv hfs hdescription hndescription
  have hfields (found) (hf : found ∈ s.fields) : entries SchemaField.read
      (.object (found.map fun e ↦ (toString e.1, e.2.toJson))) = .ok found := by
    obtain ⟨w, hw, hr⟩ := exists_of_nullable hv hfs hfields hf
    exact entries_read_again hw hr SchemaField.read_toJson
  have hmodifiers (found) (hf : found ∈ s.modifiers) :
      list anything (Json.ofList Json.written found) = .ok found := by
    obtain ⟨w, hw, hr⟩ := exists_of_nullable hv hfs hmodifiers hf
    rw [hf] at hnmodifiers
    obtain ⟨rfl, he⟩ := list_anything hw hr hnmodifiers
    rw [he, hr]
  refine read_eq_ok_iff.mpr ⟨_, rfl, hasTextKeys_object _, required_of_get? rfl rfl,
    fieldOr_of_get? rfl hname, fieldOr_of_get? rfl hdescription,
    fieldOr_nullable_self hfields (fun _ ↦ nofun) ?_,
    fieldOr_nullable_self hmodifiers (fun _ ↦ nofun) ?_,
    fieldOr_of_get? ?_ (list_ofInts s.authorizedStats), ?_⟩
  · simp [lasting, hk.get?_kept "fields" (by decide)]
  · simp [lasting, hk.get?_kept "AutorizedModifierList" (by decide)]
  · simp
  · refine (hk.others_kept _ ?_).symm
    simp [Extent.keys_field_subset, OpenRecord.declared]

theorem InitiativeId.read_toJson (id : InitiativeId) : InitiativeId.read id.toJson = .ok id := by
  cases id <;> rfl

theorem Initiative.read_toJson {v : Json} {i : Initiative} (hv : v.isPlain = true)
    (h : Initiative.read v = .ok i) (hn : ∀ n ∈ i.numbers, n.isFinite = true) :
    Initiative.read (i.toJson .brief) = .ok i.lasting := by
  have hk := kept hv h hn
  have hid (id : InitiativeId) : id.toJson ≠ .null := by cases id <;> nofun
  refine read_eq_ok_iff.mpr ⟨_, rfl, hasTextKeys_object _,
    fieldOr_nullable_self (fun id _ ↦ id.read_toJson) hid ?_, ?_⟩
  · simp [lasting, hk.get?_kept "id" (by decide)]
  · exact (hk.others_kept _ (Extent.keys_field_subset (by decide) _)).symm

theorem Integrations.read_toJson {v : Json} {i : Integrations} (hv : v.isPlain = true)
    (h : Integrations.read v = .ok i) (hn : ∀ n ∈ i.numbers, n.isFinite = true) :
    Integrations.read (i.toJson .brief) = .ok i.lasting := by
  have hk := kept hv h hn
  obtain ⟨fs, hfs, -, hinitiative, -, hschemas, -⟩ := read_eq_ok_iff.mp h
  simp only [numbers, List.forall_mem_append] at hn
  obtain ⟨⟨hninitiative, hnschemas⟩, -⟩ := hn
  have hinitiative (a) (ha : a ∈ i.initiative) :
      Initiative.read (a.toJson .brief) = .ok a.lasting := by
    obtain ⟨w, hw, hr⟩ := exists_of_nullable hv hfs hinitiative ha
    exact Initiative.read_toJson hw hr fun n hm ↦
      hninitiative n (List.mem_flatMap.mpr ⟨a, Option.mem_toList.mpr ha, hm⟩)
  have hschemas (a) (ha : a ∈ i.schemas) :
      IntegrationSchema.read (a.toJson .brief) = .ok a.lasting := by
    obtain ⟨w, hw, hr⟩ := exists_of_list hv hfs hschemas ha
    exact IntegrationSchema.read_toJson hw hr fun n hm ↦
      hnschemas n (List.mem_flatMap.mpr ⟨a, ha, hm⟩)
  refine read_eq_ok_iff.mpr ⟨_, rfl, hasTextKeys_object _,
    fieldOr_nullable_of_get? hinitiative (fun _ ↦ nofun) ?_, fieldOr_text ?_,
    fieldOr_of_get? ?_ (list_ofList hschemas), ?_⟩
  · simp [hk.get?_kept "iniciative" (by decide)]
  · simp [lasting, hk.get?_kept "atributes_roll" (by decide)]
  · simp
  · refine (hk.others_kept _ ?_).symm
    simp [Extent.keys_field_subset, OpenRecord.declared]

/-! ### Main statement -/

theorem SystemConfig.read_toJson {v : Json} {c : SystemConfig} (hv : v.isPlain = true)
    (h : SystemConfig.read v = .ok c) (hn : ∀ n ∈ c.numbers, n.isFinite = true) :
    SystemConfig.read (c.toJson .brief) = .ok c.lasting := by
  obtain ⟨fs, hfs, -, hname, hdescription⟩ := read_eq_ok_iff.mp h
  obtain ⟨hnname, hndescription⟩ := List.forall_mem_append.mp hn
  have hname := Localization.read_again hv hfs hname hnname
  have hdescription := Localization.read_again hv hfs hdescription hndescription
  refine read_eq_ok_iff.mpr ⟨_, rfl, fieldOr_integer ?_, fieldOr_of_get? ?_ hname,
    fieldOr_of_get? ?_ hdescription⟩
  all_goals simp [lasting]

/-- The document of a schema that was read from a plain value and is finite is read as what lasts of
the schema. -/
theorem GameSystem.read_document {v : Json} {s : GameSystem} (hv : v.isPlain = true)
    (h : GameSystem.read v = .ok s) (hs : s.isFinite = true) :
    GameSystem.read s.document = .ok s.lasting := by
  obtain ⟨fs, hfs, hconfig, hstats, hsections, hintegrations⟩ := read_eq_ok_iff.mp h
  have hn := List.all_eq_true.mp hs
  simp only [numbers, List.forall_mem_append] at hn
  obtain ⟨⟨⟨hnconfig, hnstats⟩, hnsections⟩, hnintegrations⟩ := hn
  have hconfig : SystemConfig.read (s.config.toJson .brief) = .ok s.config.lasting := by
    rcases eq_default_or_exists hv hfs hconfig with he | ⟨w, hw, hr⟩
    · rw [he]
      rfl
    · exact SystemConfig.read_toJson hw hr hnconfig
  have hstats (a) (ha : a ∈ s.stats) : Stat.read (a.toJson .brief) = .ok a.lasting := by
    obtain ⟨w, hw, hr⟩ := exists_of_list hv hfs hstats ha
    exact Stat.read_toJson hw hr fun n hm ↦ hnstats n (List.mem_flatMap.mpr ⟨a, ha, hm⟩)
  have hsections (a) (ha : a ∈ s.sections) :
      SheetSection.read (a.toJson .brief) = .ok a.lasting := by
    obtain ⟨w, hw, hr⟩ := exists_of_list hv hfs hsections ha
    exact SheetSection.read_toJson hw hr fun n hm ↦
      hnsections n (List.mem_flatMap.mpr ⟨a, ha, hm⟩)
  have hintegrations (a) (ha : a ∈ s.integrations) :
      Integrations.read (a.toJson .brief) = .ok a.lasting := by
    obtain ⟨w, hw, hr⟩ := exists_of_nullable hv hfs hintegrations ha
    exact Integrations.read_toJson hw hr fun n hm ↦
      hnintegrations n (List.mem_flatMap.mpr ⟨a, Option.mem_toList.mpr ha, hm⟩)
  refine read_eq_ok_iff.mpr ⟨_, rfl, fieldOr_of_get? rfl hconfig,
    fieldOr_of_get? rfl (list_ofList hstats), fieldOr_of_get? rfl (list_ofList hsections),
    fieldOr_nullable_of_get? hintegrations (fun _ ↦ nofun) ?_⟩
  simp

end CharacterSheet
