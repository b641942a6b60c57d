import CharacterSheet.Proofs.Legacy.Replacements

/-!
# Texts of legacy documents

The text of an item stands in the same place of every block. The converted text has for its default
what stands there in the default block, and for a locale what stands there in the block for that
locale; a text that is empty, or is not there, leaves the locale with the default. Main statement:
in every locale the texts of a converted schema are read as the legacy blocks have them, and its
stats and sections are those of the legacy document in their order.
-/

namespace CharacterSheet.Legacy

open Arithmetic.Template (bind_eq_ok)
open Json (Fields)

/-! ### Where texts stand -/

/-- A place in a block that holds a text. -/
inductive TextPlace where
  | label
  | description
  | statName (key : String)
  | sectionName (key : String)
  /-- What is shown by the section with an id. -/
  | sectionContent (id : Int)

/-- The value under some keys, one inside the other. -/
def get?Along (keys : List String) (v : Json) : Option Json :=
  keys.foldlM (fun v key ↦ v.get? key) v

/-- The fields of a block that sections show. -/
def shownFields (block : Json) : List Json :=
  match get?Along ["commands", "ficha", "fields"] block with
  | some (.array fields) => fields
  | _ => []

/-- Whether a field is shown by the section with an id. -/
def isShownBy (id : Int) (field : Json) : Bool :=
  match field.get? "forMenu" with
  | some (.array ids) => ids.any (Json.same (.int id))
  | _ => false

/-- What stands in a place of a block. -/
def TextPlace.find? (block : Json) : TextPlace → Option Json
  | .label => get?Along ["commands", "config", "label"] block
  | .description => get?Along ["commands", "config", "description"] block
  | .statName key => get?Along ["stats", key] block
  | .sectionName key => get?Along ["menu", key] block
  | .sectionContent id => ((shownFields block).find? (isShownBy id)).bind (·.get? "value")

/-- The text that a value is, unless it is empty. -/
def nonEmptyText? : Json → Option String
  | .string s => if s.isEmpty then none else some s
  | _ => none

/-- The text in a place of a block, unless it is empty. -/
def TextPlace.text? (place : TextPlace) (block : Json) : Option String :=
  (place.find? block).bind nonEmptyText?

/-- A value is a text, or null. -/
def IsText (v : Json) : Prop := v = .null ∨ ∃ s, v = .string s

/-- What stands in the places of a block are texts. -/
def HasTexts (block : Json) : Prop := ∀ (place : TextPlace) v, place.find? block = some v → IsText v

/-- The block of the default texts: the one for the default locale unless it is empty, else the
first one. -/
def defaultBlock? (i18n : Fields) : Option Json :=
  match Fields.get? "default" i18n with
  | some block => if block.isTruthy then some block else i18n.head?.map (·.2)
  | none => i18n.head?.map (·.2)

/-- The blocks with variants, by their locales. -/
def variantBlocks (i18n : Fields) : Fields :=
  i18n.filterMap fun (key, block) ↦ (variantLocale? key).map fun locale ↦ (locale, block)

/-- The text for a locale, unless it is missing or empty. -/
def variant? (i18n : Fields) (place : TextPlace) (locale : String) : Option String :=
  (Fields.get? locale (variantBlocks i18n)).bind place.text?

/-- A localized text is what the blocks have in a place: the text of the default block, or else a
fallback, and in each locale the text of the block for it, or else the default. -/
def Translates (i18n : Fields) (default : Json) (place : TextPlace) (fallback : String)
    (l : Localization) : Prop :=
  l.default = (place.text? default).getD fallback ∧
    ∀ locale, l.get locale = .ok ((variant? i18n place locale).getD l.default)

/-! ### Looks that do not fail -/

theorem get?Along_of_itemAlong {keys : List String} {v w : Json} (h : itemAlong keys v = .ok w) :
    get?Along keys v = some w := by
  induction keys generalizing v with
  | nil =>
    cases h
    rfl
  | cons key keys ih =>
    obtain ⟨next, hnext, h⟩ := bind_eq_ok h
    rw [get?Along, List.foldlM_cons, get?_of_item hnext]
    exact ih h

/-- What is found first by looks that do not fail is what is found by a test that agrees with
them. -/
theorem find?_of_firstWhere {test : Json → Result Bool} {p : Json → Bool}
    (hp : ∀ v b, test v = .ok b → p v = b) {vs : List Json} {found : Option Json}
    (h : firstWhere test vs = .ok found) : vs.find? p = found := by
  induction vs with
  | nil =>
    cases h
    rfl
  | cons v vs ih =>
    obtain ⟨b, hb, h⟩ := bind_eq_ok h
    rw [List.find?_cons, hp v b hb]
    cases b with
    | true =>
      cases h
      rfl
    | false => exact ih h

/-- The items of a value, which only a list has. -/
def itemsOf : Json → List Json
  | .array items => items
  | _ => []

/-- A look under a key of a value without fields fails. -/
theorem exists_item_bind_eq_error {β : Type} {key : String} {f : Json → Result β} {v : Json}
    (h : v.fields? = none) : ∃ e, item key v >>= f = .error e := by
  cases v with
  | object fs => cases h
  | _ => exact ⟨.wrongType, rfl⟩

/-- The code points of a text have no fields. -/
theorem fields?_ofPoints (ps : List Text.CodePoint) : (Json.ofPoints ps).fields? = none := by
  unfold Json.ofPoints
  split <;> rfl

/-- What is found first among the entries of a value is an item of it. Names of fields and
characters do not pass the test, since looks at them fail. -/
theorem find?_itemsOf_of_firstWhere {test : Json → Result Bool} {p : Json → Bool}
    (hp : ∀ v b, test v = .ok b → p v = b)
    (ht : ∀ v, v.fields? = none → ∃ e, test v = .error e) {v : Json} {vs : List Json}
    (hv : entries v = .ok vs) {found : Option Json} (h : firstWhere test vs = .ok found) :
    (itemsOf v).find? p = found := by
  have hnone (hvs : ∀ v ∈ vs, v.fields? = none) : none = found := by
    cases vs with
    | nil => exact Except.ok.inj h
    | cons v vs =>
      obtain ⟨b, hb, -⟩ := bind_eq_ok h
      obtain ⟨e, he⟩ := ht v (hvs v List.mem_cons_self)
      cases he.symm.trans hb
  cases v with
  | array items =>
    cases hv
    exact find?_of_firstWhere hp h
  | object fs =>
    cases hv
    exact hnone (List.forall_mem_map.mpr fun _ _ ↦ rfl)
  | string s =>
    cases hv
    exact hnone (List.forall_mem_map.mpr fun _ _ ↦ rfl)
  | unpaired ps =>
    cases hv
    exact hnone (List.forall_mem_map.mpr fun p _ ↦ fields?_ofPoints [p])
  | null | bool b | number n | table es => cases hv

/-- Items that correspond have the same images when any two such items have. -/
theorem map_eq_map_of_forall₂ {α β γ : Type} {r : α → β → Prop} {f : α → γ} {g : β → γ}
    {as : List α} {bs : List β} (h : List.Forall₂ r as bs) (hr : ∀ a b, r a b → f a = g b) :
    as.map f = bs.map g := by
  induction h with
  | nil => rfl
  | cons hab _ ih => rw [List.map_cons, List.map_cons, hr _ _ hab, ih]

/-- Whether a section shows a field is what a look at the field says. -/
theorem isShownBy_of_isIn {field ids : Json} {id : Int} {b : Bool}
    (hids : item "forMenu" field = .ok ids) (h : isIn (.int id) ids = .ok b) :
    isShownBy id field = b := by
  rw [isShownBy, get?_of_item hids]
  unfold isIn at h
  split at h <;> cases h <;> rfl

/-- What a section shows in a block stands in the place for it. -/
theorem find?_shownFields {block : Json} {id : Int} {found : Option Json}
    (h : shownField? block id = .ok found) :
    (shownFields block).find? (isShownBy id) = found := by
  obtain ⟨given, hgiven, h⟩ := bind_eq_ok h
  obtain ⟨fields, hfields, h⟩ := bind_eq_ok h
  have htest : ∀ field b, (do isIn (.int id) (← item "forMenu" field)) = Except.ok b →
      isShownBy id field = b := by
    intro field b hb
    obtain ⟨ids, hids, hb⟩ := bind_eq_ok hb
    exact isShownBy_of_isIn hids hb
  have hfound := find?_itemsOf_of_firstWhere htest (fun _ ↦ exists_item_bind_eq_error) hfields h
  rw [shownFields, get?Along_of_itemAlong hgiven]
  cases given <;> exact hfound

/-! ### What is picked from a block -/

/-- What is picked from a block, and is not null, is what stands in a place. -/
def Picks (pick : Json → Result Json) (place : TextPlace) : Prop :=
  ∀ block v, pick block = .ok v → (place.find? block).getD .null = v

/-- What is picked by some keys, one inside the other. -/
theorem picks_of_along {keys : List String} {place : TextPlace}
    (hp : ∀ block, place.find? block = get?Along keys block) : Picks (itemAlong keys) place := by
  intro block v h
  rw [hp, get?Along_of_itemAlong h]
  rfl

theorem picks_label : Picks (itemAlong ["commands", "config", "label"]) .label :=
  picks_of_along fun _ ↦ rfl

theorem picks_description :
    Picks (itemAlong ["commands", "config", "description"]) .description :=
  picks_of_along fun _ ↦ rfl

/-- What is found under a key of a table stands in the place for it. -/
theorem getD_get?Along_of_find {table key : String} {block w v : Json}
    (hw : item table block = .ok w) (h : find (.string key) w = .ok v) :
    (get?Along [table, key] block).getD .null = v := by
  have hplace : get?Along [table, key] block = w.get? key := by
    simp [get?Along, get?_of_item hw]
  rw [hplace, getD_get?_of_find h]

/-- What is picked by a key of a table. -/
theorem picks_of_table {table key : String} {place : TextPlace}
    (hp : ∀ block, place.find? block = get?Along [table, key] block) :
    Picks (fun block ↦ do find (.string key) (← item table block)) place := by
  intro block v h
  obtain ⟨w, hw, h⟩ := bind_eq_ok h
  rw [hp]
  exact getD_get?Along_of_find hw h

theorem picks_statName (key : String) :
    Picks (fun block ↦ do find (.string key) (← item "stats" block)) (.statName key) :=
  picks_of_table fun _ ↦ rfl

theorem picks_sectionName (key : String) :
    Picks (fun block ↦ do find (.string key) (← item "menu" block)) (.sectionName key) :=
  picks_of_table fun _ ↦ rfl

theorem picks_sectionContent (id : Int) : Picks (shownText id) (.sectionContent id) := by
  intro block v h
  obtain ⟨found, hfound, h⟩ := bind_eq_ok h
  rw [TextPlace.find?, find?_shownFields hfound]
  cases found with
  | none =>
    cases h
    rfl
  | some field =>
    rw [Option.bind_some, get?_of_item h]
    rfl

/-! ### Localized texts -/

/-- The locales of variants are called as they were. -/
theorem variantLocale?_eq (key : String) :
    variantLocale? key = if key ∈ ["pt-BR", "fr", "ko"] then some key else none := by
  by_cases hmem : key ∈ ["default", "pt-BR", "fr", "ko"]
  · revert key
    decide
  · obtain ⟨hd, hp, hf, hk⟩ : key ≠ "default" ∧ key ≠ "pt-BR" ∧ key ≠ "fr" ∧ key ≠ "ko" := by
      simpa using hmem
    simp [variantLocale?, locales, List.lookup_cons, beq_eq_false_iff_ne.mpr, hd, hp, hf, hk]

theorem variantLocale?_eq_some_iff {key locale : String} :
    variantLocale? key = some locale ↔ key = locale ∧ locale ∈ ["pt-BR", "fr", "ko"] := by
  rw [variantLocale?_eq]
  split
  · next h =>
    rw [Option.some.injEq]
    exact ⟨fun he ↦ ⟨he, he ▸ h⟩, (·.1)⟩
  · next h =>
    refine ⟨nofun, ?_⟩
    rintro ⟨rfl, hl⟩
    exact absurd hl h

/-- What is picked from a block has the text of the place. -/
theorem text?_eq {place : TextPlace} {block v : Json}
    (hv : (place.find? block).getD .null = v) : place.text? block = nonEmptyText? v := by
  rw [← hv, TextPlace.text?]
  cases place.find? block <;> rfl

/-- A text that is not empty counts as true. -/
theorem nonEmptyText?_eq_some_iff {v : Json} {s : String} :
    nonEmptyText? v = some s ↔ v = .string s ∧ s ≠ "" := by
  unfold nonEmptyText?
  split
  · next t =>
    by_cases ht : t = ""
    · subst ht
      refine ⟨nofun, ?_⟩
      rintro ⟨h, hs⟩
      cases h
      exact absurd rfl hs
    · simp only [String.isEmpty_iff, ht, if_false, Option.some.injEq, Json.string.injEq]
      exact ⟨fun h ↦ ⟨h, h ▸ ht⟩, (·.1)⟩
  · next hn => exact ⟨nofun, fun h ↦ absurd h.1 (hn s)⟩

theorem getD_nonEmptyText? (s : String) : (nonEmptyText? (.string s)).getD "" = s := by
  by_cases hs : s = ""
  · subst hs
    rfl
  · rw [nonEmptyText?_eq_some_iff.mpr ⟨rfl, hs⟩, Option.getD_some]

/-- Of the texts in a place exactly those count as true that are not empty. -/
theorem isTruthy_cases {v : Json} (hv : IsText v) :
    (v.isTruthy = false ∧ nonEmptyText? v = none) ∨
      ∃ s, v = .string s ∧ nonEmptyText? v = some s ∧ v.isTruthy = true := by
  rcases hv with rfl | ⟨s, rfl⟩
  · exact .inl ⟨rfl, rfl⟩
  · by_cases hs : s = ""
    · subst hs
      exact .inl ⟨rfl, rfl⟩
    · exact .inr ⟨s, rfl, by simp [nonEmptyText?, hs], by simp [Json.isTruthy, hs]⟩

theorem ne_empty_of_text? {place : TextPlace} {block : Json} {s : String}
    (h : place.text? block = some s) : s ≠ "" := by
  obtain ⟨v, -, hv⟩ := Option.bind_eq_some_iff.mp h
  exact (nonEmptyText?_eq_some_iff.mp hv).2

theorem set_of_notMem {key : String} {v : Json} {fs : Fields} (h : key ∉ fs.keys) :
    fs.set key v = fs ++ [(key, v)] := by
  induction fs with
  | nil => rfl
  | cons f fs ih =>
    obtain ⟨hne, h⟩ := not_or.mp fun hk ↦ h (List.mem_cons.mpr hk)
    rw [Fields.set, if_neg (Ne.symm hne), ih h, List.cons_append]

/-- Entries with distinct keys are the fields that they make. -/
theorem foldl_set_of_nodup {fs entries : Fields} (h : (fs.keys ++ entries.keys).Nodup) :
    entries.foldl (fun fs (k, v) ↦ fs.set k v) fs = fs ++ entries := by
  induction entries generalizing fs with
  | nil => exact (List.append_nil fs).symm
  | cons e entries ih =>
    have hm : e.1 ∉ fs.keys := fun hm ↦ (List.nodup_append.mp h).2.2 _ hm _ List.mem_cons_self rfl
    have h' : ((fs ++ [e]).keys ++ Fields.keys entries).Nodup := by
      simpa [Fields.keys] using h
    rw [List.foldl_cons]
    dsimp only
    rw [set_of_notMem hm, ih h', List.append_assoc]
    rfl

theorem get?_of_notMem {key : String} {fs : Fields} (h : key ∉ fs.keys) :
    Fields.get? key fs = none := by
  induction fs with
  | nil => rfl
  | cons f fs ih =>
    obtain ⟨hne, h⟩ := not_or.mp fun hk ↦ h (List.mem_cons.mpr hk)
    rw [Fields.get?, if_neg (Ne.symm hne), ih h]

/-- Fields that come of others under the same keys have no more keys. -/
theorem keys_filterMap_sublist {f : String × Json → Option (String × Json)} {fs : Fields}
    (h : ∀ entry e, f entry = some e → e.1 = entry.1) :
    (Fields.keys (fs.filterMap f)).Sublist fs.keys := by
  induction fs with
  | nil => exact .slnil
  | cons entry fs ih =>
    rw [List.filterMap_cons]
    split
    · exact ih.cons _
    · next e he =>
      have hkeys := ih.cons_cons e.1
      nth_rewrite 2 [h entry e he] at hkeys
      exact hkeys

/-- What comes of the fields is had under their keys. -/
theorem get?_filterMap {f : Json → Option Json} {fs : Fields} (hn : fs.keys.Nodup) (key : String) :
    Fields.get? key (fs.filterMap fun (k, v) ↦ (f v).map fun w ↦ (k, w)) =
      (Fields.get? key fs).bind f := by
  induction fs with
  | nil => rfl
  | cons entry fs ih =>
    obtain ⟨k, v⟩ := entry
    obtain ⟨hk, hn⟩ := List.nodup_cons.mp hn
    have ih := ih hn
    by_cases he : k = key
    · subst he
      rw [get?_of_notMem hk] at ih
      cases hv : f v with
      | none => simpa [hv, Fields.get?] using ih
      | some w => simp [hv, Fields.get?]
    · cases hv : f v <;> simpa [hv, he, Fields.get?] using ih

section
variable {i18n : Fields} {place : TextPlace}

theorem keys_variantBlocks_sublist : (variantBlocks i18n).keys.Sublist i18n.keys := by
  refine keys_filterMap_sublist fun entry e he ↦ ?_
  obtain ⟨locale, hlocale, rfl⟩ := Option.map_eq_some_iff.mp he
  exact (variantLocale?_eq_some_iff.mp hlocale).1.symm

/-- There are variants for three locales only. -/
theorem mem_of_mem_keys_variantBlocks {locale : String} (h : locale ∈ (variantBlocks i18n).keys) :
    locale ∈ ["pt-BR", "fr", "ko"] := by
  obtain ⟨e, he, rfl⟩ := List.mem_map.mp h
  obtain ⟨entry, -, he⟩ := List.mem_filterMap.mp he
  obtain ⟨locale, hlocale, rfl⟩ := Option.map_eq_some_iff.mp he
  exact (variantLocale?_eq_some_iff.mp hlocale).2

theorem variant?_eq_none {locale : String} (h : locale ∉ ["pt-BR", "fr", "ko"]) :
    variant? i18n place locale = none := by
  rw [variant?, get?_of_notMem (mt mem_of_mem_keys_variantBlocks h), Option.bind_none]

/-- The texts that blocks have in a place for the locales of variants. -/
def variants (i18n : Fields) (place : TextPlace) : Fields :=
  (variantBlocks i18n).filterMap fun (locale, block) ↦
    ((place.text? block).map Json.string).map fun v ↦ (locale, v)

/-- The variants have the text of the block for each locale. -/
theorem get?_variants (hd : i18n.keys.Nodup) (locale : String) :
    Fields.get? locale (variants i18n place) = (variant? i18n place locale).map Json.string := by
  have hf := get?_filterMap (f := fun block ↦ (place.text? block).map Json.string)
    (hd.sublist keys_variantBlocks_sublist) locale
  rw [variants, hf, variant?, Option.map_bind]
  rfl

theorem default_notMem_variants : "default" ∉ (variants i18n place).keys := by
  intro h
  have hsub : (variants i18n place).keys.Sublist (variantBlocks i18n).keys := by
    refine keys_filterMap_sublist fun entry e he ↦ ?_
    obtain ⟨v, -, rfl⟩ := Option.map_eq_some_iff.mp he
    rfl
  exact absurd (mem_of_mem_keys_variantBlocks (hsub.subset h)) (by decide)

/-- The variants are texts. -/
theorem exists_of_mem_variants {e : String × Json} (h : e ∈ variants i18n place) :
    ∃ s, e.2 = .string s := by
  obtain ⟨entry, -, he⟩ := List.mem_filterMap.mp h
  obtain ⟨v, hv, rfl⟩ := Option.map_eq_some_iff.mp he
  obtain ⟨s, -, rfl⟩ := Option.map_eq_some_iff.mp hv
  exact ⟨s, rfl⟩

theorem fieldsWithoutNulls_variants :
    fieldsWithoutNulls (variants i18n place) = variants i18n place := by
  have hall : ∀ e ∈ variants i18n place, ∃ s, e.2 = .string s := fun _ ↦ exists_of_mem_variants
  generalize variants i18n place = fs at hall
  induction fs with
  | nil => rfl
  | cons e fs ih =>
    obtain ⟨⟨s, hs⟩, hrest⟩ := List.forall_mem_cons.mp hall
    obtain ⟨key, v⟩ := e
    subst hs
    rw [fieldsWithoutNulls, ih hrest]
    rfl

theorem others_variants :
    Checked.others ["default"] (variants i18n place) = variants i18n place := by
  have hkeys : ∀ e ∈ variants i18n place, (! ["default"].contains e.1) = true := by
    intro e he
    have hne : e.1 ≠ "default" := by
      intro hkey
      exact default_notMem_variants (List.mem_map.mpr ⟨e, he, hkey⟩)
    simpa using hne
  rw [Checked.others, List.filter_eq_self.mpr hkeys]
  refine (List.map_congr_left fun e he ↦ ?_).trans (List.map_id _)
  obtain ⟨s, hs⟩ := exists_of_mem_variants he
  obtain ⟨key, v⟩ := e
  obtain rfl : v = .string s := hs
  rfl

end

theorem HasTexts.isText_getD {block : Json} (h : HasTexts block) (place : TextPlace) :
    IsText ((place.find? block).getD .null) := by
  cases hf : place.find? block with
  | none => exact .inl rfl
  | some v => exact h place v hf

section
variable {blocks : Blocks} {default v : Json} {pick : Json → Result Json}
  (h : localized blocks default pick = .ok v) (hd : blocks.all.keys.Nodup)
include h hd

/-- A localized text has its default first, and behind it what is picked for other locales. -/
theorem exists_of_localized :
    ∃ picked : Fields, List.Forall₂ (fun entry e ↦ ∃ w, pick entry.2 = .ok w ∧ e = (entry.1, w))
        (variantBlocks blocks.all) picked ∧
      "default" ∉ Fields.keys (picked.filter fun (_, v) ↦ v.isTruthy) ∧
      v = .object (("default", default) :: picked.filter fun (_, v) ↦ v.isTruthy) := by
  obtain ⟨picked, hpicked, h⟩ := bind_eq_ok h
  cases h
  have hpicked : List.Forall₂ (fun entry e ↦ ∃ w, pick entry.2 = .ok w ∧ e = (entry.1, w))
      (variantBlocks blocks.all) picked := by
    refine (forall₂_of_mapM hpicked).imp fun entry e he ↦ ?_
    obtain ⟨w, hw, rfl⟩ := Json.Bounded.exists_of_map_eq_ok he
    exact ⟨w, hw, rfl⟩
  have hkeys : (variantBlocks blocks.all).keys = Fields.keys picked :=
    map_eq_map_of_forall₂ hpicked fun _ _ ⟨_, _, he⟩ ↦ (congrArg Prod.fst he).symm
  have hkept : (Fields.keys (picked.filter fun (_, v) ↦ v.isTruthy)).Sublist
      (variantBlocks blocks.all).keys := by
    rw [hkeys]
    exact List.filter_sublist.map _
  have hnone : "default" ∉ Fields.keys (picked.filter fun (_, v) ↦ v.isTruthy) := fun hm ↦
    absurd (mem_of_mem_keys_variantBlocks (hkept.subset hm)) (by decide)
  refine ⟨picked, hpicked, hnone, congrArg Json.object ?_⟩
  exact @foldl_set_of_nodup [] _
    (List.nodup_cons.mpr ⟨hnone, hd.sublist (hkept.trans keys_variantBlocks_sublist)⟩)

/-- A localized text is made of its default and of the variants. -/
theorem eq_of_localized {place : TextPlace} (hp : Picks pick place)
    (ht : ∀ entry ∈ blocks.all, HasTexts entry.2) :
    v = .object (("default", default) :: variants blocks.all place) := by
  obtain ⟨picked, hpicked, -, rfl⟩ := exists_of_localized h hd
  have hmap : (variantBlocks blocks.all).map (fun entry ↦
      (entry.1, (place.find? entry.2).getD .null)) = picked.map id := by
    refine map_eq_map_of_forall₂ hpicked ?_
    rintro entry _ ⟨w, hw, rfl⟩
    rw [hp _ _ hw]
    rfl
  rw [← List.map_id picked, ← hmap, variants, ← List.filterMap_eq_map, List.filter_filterMap]
  congr 2
  refine List.filterMap_congr fun entry hentry ↦ ?_
  have htexts : HasTexts entry.2 := by
    obtain ⟨other, hother, he⟩ := List.mem_filterMap.mp hentry
    obtain ⟨locale, -, rfl⟩ := Option.map_eq_some_iff.mp he
    exact ht other hother
  have htext : place.text? entry.2 = nonEmptyText? ((place.find? entry.2).getD .null) :=
    text?_eq rfl
  rcases isTruthy_cases (htexts.isText_getD place) with ⟨hv, hn⟩ | ⟨s, hv, hs, htruthy⟩
  · simp [hv, htext, hn]
  · rw [hv] at hs htruthy
    simp [hv, htext, hs, htruthy]

end

/-- A localized text whose default stands first is read with it and with the others. -/
theorem read_default_first {default : Json} {fs : Fields} {l : Localization}
    (h : Localization.read (.object (("default", default) :: fs)) = .ok l) :
    default = .string l.default ∧ l.variants = Checked.others ["default"] fs := by
  obtain ⟨gs, hgs, -, htext, hothers⟩ := Localization.read_eq_ok_iff.mp h
  cases hgs
  refine ⟨?_, hothers⟩
  rcases Checked.fieldOr_eq_ok_iff.mp htext with ⟨v, hv, ht⟩ | ⟨hn, -⟩
  · cases hv
    unfold Checked.text at ht
    split at ht <;> cases ht
    rfl
  · cases hn

/-- A default that is null is left out of a localized text, and read as empty. -/
theorem read_without_default {default : Json} {fs : Fields} {l : Localization}
    (hfs : "default" ∉ fs.keys)
    (h : Localization.read (withoutNulls (.object (("default", default) :: fs))) = .ok l) :
    (default = .string l.default ∨ default = .null ∧ l.default = "") ∧
      l.variants = Checked.others ["default"] (fieldsWithoutNulls fs) := by
  cases hnull : default.isNull with
  | true =>
    rw [withoutNulls, fieldsWithoutNulls, hnull, if_pos rfl] at h
    obtain ⟨gs, hgs, -, htext, hothers⟩ := Localization.read_eq_ok_iff.mp h
    cases hgs
    rcases Checked.fieldOr_eq_ok_iff.mp htext with ⟨w, hw, -⟩ | ⟨-, hempty⟩
    · cases (get?_fieldsWithoutNulls_of_notMem hfs).symm.trans hw
    · refine ⟨.inr ⟨?_, hempty⟩, hothers⟩
      cases default with
      | null => rfl
      | bool | number | string | unpaired | array | object | table => cases hnull
  | false =>
    rw [withoutNulls, fieldsWithoutNulls, hnull, if_neg Bool.false_ne_true] at h
    obtain ⟨hkept, hothers⟩ := read_default_first h
    refine ⟨.inl ?_, hothers⟩
    cases default with
    | string s => exact hkept
    | null | bool | number | unpaired | array | object | table => cases hkept

/-- A localized text that is read has its default, unless that is null, and the variants. -/
theorem translates_of_read {blocks : Blocks} {default v : Json} {pick : Json → Result Json}
    {place : TextPlace} {l : Localization} (h : localized blocks default pick = .ok v)
    (hp : Picks pick place) (hd : blocks.all.keys.Nodup)
    (ht : ∀ entry ∈ blocks.all, HasTexts entry.2)
    (hr : Localization.read v = .ok l ∨ Localization.read (withoutNulls v) = .ok l) :
    (default = .string l.default ∨ default = .null ∧ l.default = "") ∧
      ∀ locale, l.get locale = .ok ((variant? blocks.all place locale).getD l.default) := by
  rw [eq_of_localized h hd hp ht] at hr
  obtain ⟨hdefault, hvariants⟩ : (default = .string l.default ∨ default = .null ∧ l.default = "") ∧
      l.variants = variants blocks.all place := by
    rcases hr with hr | hr
    · obtain ⟨hdefault, hvariants⟩ := read_default_first hr
      exact ⟨.inl hdefault, hvariants.trans others_variants⟩
    · obtain ⟨hdefault, hvariants⟩ := read_without_default default_notMem_variants hr
      rw [fieldsWithoutNulls_variants, others_variants] at hvariants
      exact ⟨hdefault, hvariants⟩
  refine ⟨hdefault, fun locale ↦ ?_⟩
  rw [Localization.get]
  split
  · next hl =>
    have hl : locale ∉ ["pt-BR", "fr", "ko"] := by
      intro hm
      rcases Bool.or_eq_true_iff.mp hl with h | h <;> simp [of_decide_eq_true h] at hm
    rw [variant?_eq_none hl, Option.getD_none]
  · rw [hvariants, get?_variants hd]
    cases hv : variant? blocks.all place locale with
    | none => rfl
    | some s =>
      obtain ⟨block, -, htext⟩ := Option.bind_eq_some_iff.mp hv
      simp [Json.isTruthy, ne_empty_of_text? htext]

/-! ### The default texts -/

section
variable {blocks : Blocks} {found v : Json} {pick : Json → Result Json} {place : TextPlace}
  {l : Localization} (hp : Picks pick place) (hd : blocks.all.keys.Nodup)
  (ht : ∀ entry ∈ blocks.all, HasTexts entry.2)
  (hf : (place.find? blocks.default).getD .null = found)
  (hr : Localization.read v = .ok l ∨ Localization.read (withoutNulls v) = .ok l)
include hp hd ht hf hr

/-- A localized text whose default is what the default block has translates it. -/
theorem translates_of_found (h : localized blocks found pick = .ok v) :
    Translates blocks.all blocks.default place "" l := by
  obtain ⟨hdefault, hget⟩ := translates_of_read h hp hd ht hr
  refine ⟨?_, hget⟩
  rw [text?_eq hf]
  rcases hdefault with rfl | ⟨rfl, hempty⟩
  · exact (getD_nonEmptyText? l.default).symm
  · exact hempty

/-- A localized text whose default is what the default block has, or else a fallback, translates
it. -/
theorem translates_of_orElse {fallback : String}
    (h : localized blocks (orElse found (.string fallback)) pick = .ok v) :
    Translates blocks.all blocks.default place fallback l := by
  obtain ⟨hdefault, hget⟩ := translates_of_read h hp hd ht hr
  refine ⟨?_, hget⟩
  rw [text?_eq hf]
  rw [orElse] at hdefault
  split at hdefault
  · next htruthy =>
    rcases hdefault with rfl | ⟨rfl, -⟩
    · have hne : l.default ≠ "" := by simpa [Json.isTruthy] using htruthy
      rw [nonEmptyText?_eq_some_iff.mpr ⟨rfl, hne⟩, Option.getD_some]
    · cases htruthy
  · next hfalsy =>
    have hnone : nonEmptyText? found = none := by
      rw [Option.eq_none_iff_forall_ne_some]
      intro s hs
      obtain ⟨rfl, hne⟩ := nonEmptyText?_eq_some_iff.mp hs
      exact hfalsy (by simp [Json.isTruthy, hne])
    rw [hnone, Option.getD_none]
    rcases hdefault with h | ⟨h, -⟩
    · exact (Json.string.inj h).symm
    · cases h

end

/-! ### The parts of a schema -/

/-- An integer is a text behind some words. -/
theorem textBehind_of_integer {v : Json} {n : Int} (h : Checked.integer v = .ok n)
    (lead : String) : textBehind lead v = .string (lead ++ v.display) := by
  cases v with
  | unpaired ps => cases h
  | _ => rfl

/-- An id is a text behind some words. -/
theorem textBehind_of_toId {v : Json} {n : Int} (h : toId v = .ok n) (lead : String) :
    textBehind lead v = .string (lead ++ v.display) := by
  cases v with
  | unpaired ps => cases h
  | _ => rfl

/-- A legacy stat becomes one with its id and its names. -/
def IsStatOf (i18n : Fields) (default old : Json) (s : Stat) : Prop :=
  ∃ id, old.get? "id" = some id ∧ Checked.integer id = .ok s.id ∧
    Translates i18n default (.statName id.display) ("Stat " ++ id.display) s.name

/-- A key of the menu becomes a section with its names and with what is shown. -/
def IsSectionOf (i18n : Fields) (default : Json) (key : String) (s : SheetSection) : Prop :=
  Numeral.readInteger key = .ok s.id ∧ Translates i18n default (.sectionName key) "" s.name ∧
    Translates i18n default (.sectionContent s.id) ("Section " ++ key) s.preview.content

/-- What belongs to the kind of a stat has no id. -/
theorem id_notMem_detail {blocks : Blocks} {pages stat : Json} {fields : Fields}
    (h : detail blocks pages stat = .ok fields) : "id" ∉ fields.keys := by
  rcases detail_cases h with ⟨-, _, _, options, rolls, reps, -, -, -, -, rfl⟩ |
    ⟨-, kind, rest, -, -, rfl, hrest⟩
  · simp [Fields.keys]
  · intro hm
    rcases List.mem_cons.mp hm with hm | hm
    · exact absurd hm (by simp)
    · exact absurd (hrest _ hm) (by decide)

section
variable {blocks : Blocks} (hd : blocks.all.keys.Nodup)
  (ht : ∀ entry ∈ blocks.all, HasTexts entry.2)
include hd ht

/-- The head of a schema has the texts of the legacy configuration. -/
theorem translates_of_head {commands v : Json} {c : SystemConfig} (h : head blocks commands = .ok v)
    (hr : SystemConfig.read v = .ok c) :
    Translates blocks.all blocks.default .label "" c.name ∧
      Translates blocks.all blocks.default .description "" c.description := by
  obtain ⟨id, -, h⟩ := bind_eq_ok h
  obtain ⟨name, hname, h⟩ := bind_eq_ok h
  obtain ⟨description, hdescription, h⟩ := bind_eq_ok h
  obtain ⟨label, hlabel, hname⟩ := bind_eq_ok hname
  obtain ⟨words, hwords, hdescription⟩ := bind_eq_ok hdescription
  cases h
  obtain ⟨fs, hfs, -, hreadName, hreadDescription⟩ := SystemConfig.read_eq_ok_iff.mp hr
  cases hfs
  constructor
  · exact translates_of_found picks_label hd ht (picks_label _ _ hlabel)
      (.inl (read_of_fieldOr hreadName rfl)) hname
  · exact translates_of_found picks_description hd ht (picks_description _ _ hwords)
      (.inl (read_of_fieldOr hreadDescription rfl)) hdescription

/-- A localized text is an object, and so it is not null. -/
theorem isNull_of_localized {default v : Json} {pick : Json → Result Json} {place : TextPlace}
    (h : localized blocks default pick = .ok v) (hp : Picks pick place) : v.isNull = false := by
  rw [eq_of_localized h hd hp ht]
  rfl

theorem isStatOf_of_stat {old v : Json} {s : Stat} (h : stat blocks old = .ok v)
    (hr : Stat.read (withoutNulls v) = .ok s) : IsStatOf blocks.all blocks.default old s := by
  obtain ⟨id, hid, h⟩ := bind_eq_ok h
  obtain ⟨names, hnames, h⟩ := bind_eq_ok h
  obtain ⟨default, hdefault, h⟩ := bind_eq_ok h
  obtain ⟨name, hname, h⟩ := bind_eq_ok h
  obtain ⟨emoji, -, h⟩ := bind_eq_ok h
  obtain ⟨menu, -, h⟩ := bind_eq_ok h
  obtain ⟨fields, hfields, h⟩ := bind_eq_ok h
  cases h
  obtain ⟨fs, kind, word, hfs, -, -, hread⟩ := Stat.read_eq_ok_iff.mp hr
  cases hfs
  obtain ⟨hreadId, hreadName, -⟩ := Stat.readKind_eq_ok_iff.mp hread
  have hinteger : Checked.integer id = .ok s.id := by
    refine integer_of_required ?_ hreadId
    simpa [Fields.keys] using id_notMem_detail hfields
  have hkey : textBehind "" id = .string id.display := by
    rw [textBehind_of_integer hinteger, String.empty_append]
  rw [hkey] at hdefault hname
  rw [textBehind_of_integer hinteger] at hname
  have hnull := isNull_of_localized hd ht hname (picks_statName id.display)
  refine ⟨id, get?_of_item hid, hinteger, ?_⟩
  refine translates_of_orElse (picks_statName _) hd ht (getD_get?Along_of_find hnames hdefault)
    (.inr (read_of_fieldOr hreadName ?_)) hname
  simp [get?_fieldsWithoutNulls_cons, hnull]

omit hd ht in
/-- What a section is made of. -/
theorem exists_of_sheetSection {styles key v : Json} (h : sheetSection blocks styles key = .ok v) :
    ∃ id menu default name emoji shown content, toId key = .ok id ∧
      item "menu" blocks.default = .ok menu ∧ itemBy key menu = .ok default ∧
      localized blocks default (fun block ↦ do find key (← item "menu" block)) = .ok name ∧
      ((TextPlace.sectionContent id).find? blocks.default).getD .null = shown ∧
      localized blocks (orElse shown (.string ("Section " ++ key.display))) (shownText id) =
        .ok content ∧
      v = .object [("id", .int id), ("name", name), ("quick_edit_btn", .bool true),
        ("emoji", emoji), ("preview", .object [("type", .string "string"), ("content", content)]),
        ("view_pages", .array [.int id])] := by
  obtain ⟨id, hid, h⟩ := bind_eq_ok h
  obtain ⟨field, hfield, h⟩ := bind_eq_ok h
  obtain ⟨menu, hmenu, h⟩ := bind_eq_ok h
  obtain ⟨default, hdefault, h⟩ := bind_eq_ok h
  obtain ⟨name, hname, h⟩ := bind_eq_ok h
  obtain ⟨style, -, h⟩ := bind_eq_ok h
  obtain ⟨emoji, -, h⟩ := bind_eq_ok h
  refine ⟨id, menu, default, name, emoji, ?_⟩
  rw [TextPlace.find?, find?_shownFields hfield]
  dsimp only at h
  rw [textBehind_of_toId hid] at h
  split at h
  · obtain ⟨shown, hshown, h⟩ := bind_eq_ok h
    obtain ⟨content, hcontent, h⟩ := bind_eq_ok h
    exact ⟨shown, content, hid, hmenu, hdefault, hname, getD_get?_of_find hshown, hcontent,
      (Except.ok.inj h).symm⟩
  · obtain ⟨shown, hshown, h⟩ := bind_eq_ok h
    obtain rfl : Json.null = shown := Except.ok.inj hshown
    obtain ⟨content, hcontent, h⟩ := bind_eq_ok h
    exact ⟨.null, content, hid, hmenu, hdefault, hname, rfl, hcontent, (Except.ok.inj h).symm⟩

omit ht in
/-- What a section is made of that is read. -/
theorem parts_of_sheetSection {styles key v : Json} {s : SheetSection}
    (h : sheetSection blocks styles key = .ok v)
    (hr : SheetSection.read (withoutNulls v) = .ok s) :
    ∃ menu default name shown content, toId key = .ok s.id ∧
      item "menu" blocks.default = .ok menu ∧ itemBy key menu = .ok default ∧
      localized blocks default (fun block ↦ do find key (← item "menu" block)) = .ok name ∧
      Localization.read (withoutNulls name) = .ok s.name ∧
      ((TextPlace.sectionContent s.id).find? blocks.default).getD .null = shown ∧
      localized blocks (orElse shown (.string ("Section " ++ key.display))) (shownText s.id) =
        .ok content ∧
      Localization.read (withoutNulls content) = .ok s.preview.content := by
  obtain ⟨id, menu, default, name, emoji, shown, content, hid, hmenu, hdefault, hname, hshown,
    hcontent, rfl⟩ := exists_of_sheetSection h
  have hname' : name.isNull = false := by
    obtain ⟨_, -, -, rfl⟩ := exists_of_localized hname hd
    rfl
  have hcontent' : content.isNull = false := by
    obtain ⟨_, -, -, rfl⟩ := exists_of_localized hcontent hd
    rfl
  obtain ⟨fs, hfs, hreadId, hreadName, -, -, hreadPreview, -⟩ := SheetSection.read_eq_ok_iff.mp hr
  cases hfs
  obtain rfl : s.id = id := by
    obtain ⟨w, hw, hi⟩ := Checked.required_eq_ok_iff.mp hreadId
    cases hw
    exact (Checked.ok.inj hi).symm
  have hpreview := read_of_fieldOr hreadPreview
    (by simp [get?_fieldsWithoutNulls_cons, Json.isNull] :
      _ = some (withoutNulls (.object [("type", .string "string"), ("content", content)])))
  obtain ⟨gs, hgs, -, hreadContent⟩ := SectionPreview.read_eq_ok_iff.mp hpreview
  cases hgs
  refine ⟨menu, default, name, shown, content, hid, hmenu, hdefault, hname, ?_, hshown, hcontent,
    ?_⟩
  · exact read_of_fieldOr hreadName (by simp [get?_fieldsWithoutNulls_cons, hname'])
  · exact read_of_fieldOr hreadContent (by simp [get?_fieldsWithoutNulls_cons, hcontent'])

omit ht in
/-- The default of a localized text that is read is a text. -/
theorem isText_of_localized {default v : Json} {pick : Json → Result Json} {l : Localization}
    (h : localized blocks default pick = .ok v)
    (hr : Localization.read (withoutNulls v) = .ok l) : IsText default := by
  obtain ⟨picked, -, hnone, rfl⟩ := exists_of_localized h hd
  rcases (read_without_default hnone hr).1 with he | ⟨he, -⟩
  · exact .inr ⟨_, he⟩
  · exact .inl he

theorem isSectionOf_of_sheetSection {styles v : Json} {key : String} {s : SheetSection}
    (h : sheetSection blocks styles (.string key) = .ok v)
    (hr : SheetSection.read (withoutNulls v) = .ok s) :
    IsSectionOf blocks.all blocks.default key s := by
  obtain ⟨menu, default, name, shown, content, hid, hmenu, hdefault, hname, hreadName, hshown,
    hcontent, hreadContent⟩ := parts_of_sheetSection hd h hr
  have hplace : ((TextPlace.sectionName key).find? blocks.default).getD .null = default := by
    have hitem : item key menu = .ok default := by
      cases menu with
      | object fs => exact hdefault
      | null | bool | number | string | unpaired | array | table => cases hdefault
    have halong : itemAlong ["menu", key] blocks.default = .ok default := by
      rw [itemAlong, List.foldlM_cons, hmenu]
      exact congrArg (· >>= pure) hitem
    rw [TextPlace.find?, get?Along_of_itemAlong halong, Option.getD_some]
  refine ⟨?_, ?_, ?_⟩
  · cases hkey : Numeral.readInteger key with
    | ok n =>
      rw [toId, hkey] at hid
      exact congrArg Except.ok (Except.ok.inj hid)
    | error e =>
      rw [toId, hkey] at hid
      cases hid
  · exact translates_of_found (picks_sectionName key) hd ht hplace (.inr hreadName) hname
  · exact translates_of_orElse (picks_sectionContent s.id) hd ht hshown (.inr hreadContent) hcontent

end

/-- The keys of the menu of a block. -/
def menuKeys (block : Json) : List String :=
  match block.get? "menu" with
  | some (.object fs) => Fields.keys fs
  | _ => []

theorem mem_of_itemAt {index : Int} {items : List Json} {v : Json}
    (h : itemAt index items = .ok v) : v ∈ items := by
  unfold itemAt at h
  dsimp only at h
  split at h
  · next w hw =>
    obtain rfl := Except.ok.inj h
    exact List.mem_of_getElem? (Option.ite_none_right_eq_some.mp hw).2
  · cases h

theorem mem_of_itemBy {key v : Json} {items : List Json}
    (h : itemBy key (.array items) = .ok v) : v ∈ items := by
  cases key with
  | number n =>
    cases n with
    | int i => exact mem_of_itemAt h
    | float x => cases h
  | bool b => exact mem_of_itemAt h
  | null | string | unpaired | array | object | table => cases h

/-- The menu has keys of its own only when it is an object: the items of a list would have to be
places in that list and texts at once. -/
theorem eq_menuKeys {block menu : Json} {keys : List Json} (hmenu : item "menu" block = .ok menu)
    (h : entries menu = .ok keys)
    (hkeys : ∀ key ∈ keys, ∃ id default, toId key = .ok id ∧ itemBy key menu = .ok default ∧
      IsText default) : keys = (menuKeys block).map Json.string := by
  rw [menuKeys, get?_of_item hmenu]
  cases menu with
  | array items =>
    cases h
    cases keys with
    | nil => rfl
    | cons key keys =>
      obtain ⟨id, default, -, hdefault, htext⟩ := hkeys key List.mem_cons_self
      obtain ⟨id', other, hid, hother, -⟩ := hkeys default (mem_of_itemBy hdefault)
      rcases htext with rfl | ⟨s, rfl⟩
      · cases hid
      · cases hother
  | object fs =>
    cases h
    simp [Fields.keys]
  | string s =>
    cases h
    cases hs : s.toList with
    | nil => rfl
    | cons c cs =>
      obtain ⟨id, default, -, hdefault, -⟩ := hkeys (.string (String.singleton c)) (by simp [hs])
      cases hdefault
  | unpaired ps =>
    cases h
    cases ps with
    | nil => rfl
    | cons p ps =>
      obtain ⟨id, default, -, hdefault, -⟩ := hkeys (.ofPoints [p]) List.mem_cons_self
      cases hdefault
  | null => cases h
  | bool b => cases h
  | number n => cases h
  | table entries => cases h

/-- The sections that are read are those of the menu of the default block. -/
theorem forall₂_isSectionOf {blocks : Blocks} {menu : Json} {keys : List Json}
    {sections : List SheetSection} (hd : blocks.all.keys.Nodup)
    (ht : ∀ entry ∈ blocks.all, HasTexts entry.2) (hmenu : item "menu" blocks.default = .ok menu)
    (hkeys : entries menu = .ok keys)
    (hs : List.Forall₂ (fun key sec ↦ ∃ styles v, sheetSection blocks styles key = .ok v ∧
      SheetSection.read (withoutNulls v) = .ok sec) keys sections) :
    List.Forall₂ (IsSectionOf blocks.all blocks.default) (menuKeys blocks.default) sections := by
  have hall : ∀ key ∈ keys, ∃ id default, toId key = .ok id ∧
      itemBy key menu = .ok default ∧ IsText default := by
    intro key hkey
    obtain ⟨sec, -, styles, v, hv, hsec⟩ := Checked.exists_mem_of_forall₂ hs.flip hkey
    obtain ⟨menu', default, name, -, -, hid, hmenu', hdefault, hname, hreadName, -⟩ :=
      parts_of_sheetSection hd hv hsec
    obtain rfl := Except.ok.inj (hmenu.symm.trans hmenu')
    exact ⟨sec.id, default, hid, hdefault, isText_of_localized hd hname hreadName⟩
  rw [eq_menuKeys hmenu hkeys hall, List.forall₂_map_left_iff] at hs
  refine hs.imp fun key sec hsec ↦ ?_
  obtain ⟨styles, v, hv, hread⟩ := hsec
  exact isSectionOf_of_sheetSection hd ht hv hread

/-! ### Main statement -/

/-- The default block is the one that the default texts are taken from. -/
theorem of_blocks {i18n : Fields} {blocks : Blocks}
    (h : Blocks.ofJson (.object i18n) = .ok blocks) :
    blocks.all = i18n ∧ defaultBlock? i18n = some blocks.default := by
  obtain ⟨chosen, hchosen, h⟩ := bind_eq_ok h
  have hget : (Fields.get? "default" i18n).getD .null = chosen := getD_get?_of_find hchosen
  dsimp only at h
  have hdefault : defaultBlock? i18n =
      if chosen.isTruthy then some chosen else i18n.head?.map (·.2) := by
    rw [defaultBlock?, ← hget]
    cases Fields.get? "default" i18n <;> rfl
  rw [hdefault]
  split at h
  · next ht =>
    cases h
    exact ⟨rfl, if_pos ht⟩
  · next ht =>
    rw [if_neg ht]
    split at h
    · cases h
      exact ⟨rfl, rfl⟩
    · cases h

/-- Legacy texts survive in every locale: the head of a converted schema, its stats and its sections
have the texts of the blocks, and the stats and the sections are those of the legacy document, in
their order. -/
theorem texts_of_convert {old : Json} {s : GameSystem} {i18n : Fields} (h : convert old = .ok s)
    (hi : old.get? "i18n" = some (.object i18n)) (hd : i18n.keys.Nodup)
    (ht : ∀ entry ∈ i18n, HasTexts entry.2) :
    ∃ default, defaultBlock? i18n = some default ∧
      Translates i18n default .label "" s.config.name ∧
      Translates i18n default .description "" s.config.description ∧
      (∃ given stats, old.get? "stats" = some given ∧ entries given = .ok stats ∧
        List.Forall₂ (IsStatOf i18n default) stats s.stats) ∧
      List.Forall₂ (IsSectionOf i18n default) (menuKeys default) s.sections := by
  obtain ⟨doc, hdoc, h⟩ := bind_eq_ok h
  have hread : GameSystem.read doc = .ok s := by
    split at h
    · next hread =>
      cases h
      exact hread
    · cases h
  obtain ⟨texts, htexts, hdoc⟩ := bind_eq_ok hdoc
  obtain ⟨blocks, hblocks, hdoc⟩ := bind_eq_ok hdoc
  obtain ⟨commands, -, hdoc⟩ := bind_eq_ok hdoc
  obtain ⟨config, hconfig, hdoc⟩ := bind_eq_ok hdoc
  obtain ⟨given, hgiven, hdoc⟩ := bind_eq_ok hdoc
  obtain ⟨stats, hstats, hdoc⟩ := bind_eq_ok hdoc
  obtain ⟨converted, hconverted, hdoc⟩ := bind_eq_ok hdoc
  obtain ⟨menu, hmenu, hdoc⟩ := bind_eq_ok hdoc
  obtain ⟨keys, hkeys, hdoc⟩ := bind_eq_ok hdoc
  obtain ⟨sections, hsections, hdoc⟩ := bind_eq_ok hdoc
  cases hdoc
  obtain rfl := Option.some.inj (hi.symm.trans (get?_of_item htexts))
  obtain ⟨rfl, hdefault⟩ := of_blocks hblocks
  obtain ⟨fs, hfs, hreadConfig, hreadStats, hreadSections, -⟩ := GameSystem.read_eq_ok_iff.mp hread
  cases hfs
  obtain ⟨hname, hdescription⟩ :=
    translates_of_head hd ht hconfig (read_of_fieldOr hreadConfig rfl)
  refine ⟨blocks.default, hdefault, hname, hdescription,
    ⟨given, stats, get?_of_item hgiven, hstats, ?_⟩, ?_⟩
  · exact (forall₂_of_list hconverted (read_of_fieldOr hreadStats rfl)).imp
      fun _ _ ⟨_, hv, hstat⟩ ↦ isStatOf_of_stat hd ht hv hstat
  · refine forall₂_isSectionOf hd ht hmenu hkeys ?_
    refine (forall₂_of_list hsections (read_of_fieldOr hreadSections rfl)).imp ?_
    rintro key sec ⟨v, hv, hsec⟩
    obtain ⟨styles, -, hv⟩ := bind_eq_ok hv
    exact ⟨_, v, hv, hsec⟩

/-- A block of texts, with the names of stats and sections by their keys, and with what is shown by
the sections with some ids. -/
def blockOf (label description : String) (stats menu : List (String × String))
    (fields : List (String × List Int)) : Json :=
  .object [
    ("commands", .object [
      ("config", .object [("label", .string label), ("description", .string description)]),
      ("ficha", .object [("fields", .array (fields.map fun (text, ids) ↦
        .object [("value", .string text), ("forMenu", .array (ids.map .int))]))])]),
    ("stats", .object (stats.map fun (key, name) ↦ (key, .string name))),
    ("menu", .object (menu.map fun (key, name) ↦ (key, .string name)))]

theorem isText_of_get? {key : String} {names : List (String × String)} {v : Json}
    (h : Fields.get? key (names.map fun (key, name) ↦ (key, .string name)) = some v) :
    IsText v := by
  induction names with
  | nil => cases h
  | cons entry names ih =>
    rw [List.map_cons, Fields.get?] at h
    split at h
    · exact .inr ⟨entry.2, (Option.some.inj h).symm⟩
    · exact ih h

theorem hasTexts_blockOf (label description : String) (stats menu : List (String × String))
    (fields : List (String × List Int)) :
    HasTexts (blockOf label description stats menu fields) := by
  intro place v h
  cases place with
  | label => exact .inr ⟨label, (Option.some.inj h).symm⟩
  | description => exact .inr ⟨description, (Option.some.inj h).symm⟩
  | statName key =>
    apply @isText_of_get? key stats
    simpa [TextPlace.find?, get?Along, blockOf, Json.get?, Json.fields?, Fields.get?] using h
  | sectionName key =>
    apply @isText_of_get? key menu
    simpa [TextPlace.find?, get?Along, blockOf, Json.get?, Json.fields?, Fields.get?] using h
  | sectionContent id =>
    obtain ⟨field, hfield, hvalue⟩ := Option.bind_eq_some_iff.mp h
    obtain ⟨entry, -, rfl⟩ := List.mem_map.mp (List.mem_of_find?_eq_some hfield)
    exact .inr ⟨entry.1, (Option.some.inj hvalue).symm⟩

/-- Blocks of texts for two locales, of which the second one has only some. -/
def twoBlocks : Fields := [
  ("default", blockOf "System" "Rules" [("1", "Strength")] [("7", "Page")] [("Text", [7])]),
  ("fr", blockOf "Système" "" [("1", "Force")] [] [("Texte", [7])])]

/-- A legacy document with these blocks and two stats. -/
def twoBlocksDocument : Json :=
  .object [("i18n", .object twoBlocks),
    ("commands", .object [("config", .object [("value", .int 1)])]),
    ("stats", .array [.object [("id", .int 1)], .object [("id", .int 2)]])]

/-- The texts of a schema in a locale. -/
def textsIn (s : GameSystem) (locale : String) : Except NumeralError (List String) :=
  ([s.config.name, s.config.description] ++ s.stats.map (·.name) ++
    s.sections.flatMap fun sec ↦ [sec.name, sec.preview.content]).mapM (·.get locale)

/-- Where the second block has no text the default one is read. -/
theorem texts_of_convert_twoBlocks :
    ∃ s, convert twoBlocksDocument = .ok s ∧
      textsIn s "fr" = .ok ["Système", "Rules", "Force", "Stat 2", "Page", "Texte"] ∧
      ∃ default, defaultBlock? twoBlocks = some default ∧
        Translates twoBlocks default .label "" s.config.name ∧
        List.Forall₂ (IsSectionOf twoBlocks default) (menuKeys default) s.sections := by
  have hread : (convert twoBlocksDocument).toOption.map (textsIn · "fr") =
      some (.ok ["Système", "Rules", "Force", "Stat 2", "Page", "Texte"]) := by
    decide +kernel
  have hd : twoBlocks.keys.Nodup := by decide
  have ht : ∀ entry ∈ twoBlocks, HasTexts entry.2 := by
    intro entry hentry
    rcases List.mem_pair.mp hentry with rfl | rfl
    · exact hasTexts_blockOf _ _ _ _ _
    · exact hasTexts_blockOf _ _ _ _ _
  cases h : convert twoBlocksDocument with
  | error e =>
    rw [h] at hread
    cases hread
  | ok s =>
    rw [h] at hread
    obtain ⟨default, hdefault, htitle, -, -, hparts⟩ := texts_of_convert h rfl hd ht
    exact ⟨s, rfl, Option.some.inj hread, default, hdefault, htitle, hparts⟩

end CharacterSheet.Legacy
