import CharacterSheet.Proofs.Legacy.Texts

/-!
# Names of legacy options

The names of options stand in lists, each of them for some stats, and every block has lists of its
own. They are gathered from all blocks, apart from the other texts, and the default name is taken
from the block for the default locale. The other default texts are taken from the first block when
that one is empty or missing; the default names of options are not. Main statement: the options of a
converted schema are named by the block for the default locale, and otherwise by their values.
-/

namespace CharacterSheet.Legacy

open Arithmetic.Template (bind_eq_ok)
open Json (Fields)

/-! ### Where names of options stand -/

/-- The items under a key. -/
def itemsUnder (key : String) (v : Json) : List Json := itemsOf ((v.get? key).getD .null)

/-- Whether names are for the stat with an id. -/
def areFor (id names : Json) : Bool :=
  match (names.get? "for").map (isIn id) with
  | some (.ok b) => b
  | _ => false

/-- Whether a name is for a value. -/
def isFor (value entry : Json) : Bool :=
  match entry.get? "value" with
  | some v => Json.same v value
  | none => false

/-- The entry of a block for the option of a stat with a value: the first one for that value among
the first names for that stat. -/
def entryFor? (id value block : Json) : Option Json :=
  ((itemsUnder "enums" block).find? (areFor id)).bind fun names ↦
    (itemsUnder "enum" names).find? (isFor value)

/-- The block that options are named by: the one for the default locale, unless it is empty. -/
def namingBlock? (i18n : Fields) : Option Json := (Fields.get? "default" i18n).filter Json.isTruthy

/-- An option has the name that a block has for it, which is empty if it is null, or else its value
as text. -/
def IsNamedBy (block : Option Json) (id value : Json) (name : String) : Prop :=
  match block.bind (entryFor? id value) with
  | some entry =>
    entry.get? "name" = some (.string name) ∨ entry.get? "name" = some .null ∧ name = ""
  | none => name = value.display

/-- An option that a block has a text for has that text for its name. -/
theorem IsNamedBy.eq_text {block id value : Json} {name text : String}
    (h : IsNamedBy (some block) id value name)
    (ht : ((entryFor? id value block).bind (·.get? "name")).bind nonEmptyText? = some text) :
    name = text := by
  rw [IsNamedBy, Option.bind_some] at h
  cases he : entryFor? id value block with
  | none => simp [he] at ht
  | some entry =>
    simp only [he, Option.bind_some] at h ht
    rcases h with hname | ⟨hnull, -⟩
    · rw [hname, Option.bind_some] at ht
      exact Json.string.inj (nonEmptyText?_eq_some_iff.mp ht).1
    · rw [hnull] at ht
      cases ht

/-- A legacy option becomes one with its value, named by a block. -/
def IsOptionOf (block : Option Json) (id old : Json) (o : EnumOption) : Prop :=
  ∃ value, old.get? "value" = some value ∧ Checked.integer value = .ok o.value ∧
    IsNamedBy block id value o.name.default

/-- What becomes of the options of a legacy stat: a stat with a list of options becomes an
enumeration with these options, one by one, and no other stat becomes an enumeration. -/
def HasOptionsOf (block : Option Json) (old : Json) (s : Stat) : Prop :=
  if hasOptions old then
    ∃ id given items options rolls, old.get? "id" = some id ∧ old.get? "enum" = some given ∧
      entries given = .ok items ∧ s.detail = .enumeration (.own options) rolls ∧
      List.Forall₂ (IsOptionOf block id) items options
  else s.kind ≠ .enumeration

/-! ### Looks for names -/

theorem itemsOf_of_not_isTruthy {v : Json} (h : v.isTruthy = false) : itemsOf v = [] := by
  cases v with
  | array items =>
    cases items with
    | nil => rfl
    | cons => cases h
  | null | bool | number | string | unpaired | object | table => rfl

theorem get?_of_not_isTruthy {v : Json} (h : v.isTruthy = false) (key : String) :
    v.get? key = none := by
  cases v with
  | object fs =>
    cases fs with
    | nil => rfl
    | cons => cases h
  | table es =>
    cases es with
    | nil => rfl
    | cons => cases h
  | null | bool | number | string | unpaired | array => rfl

/-- An empty block has no names. -/
theorem entryFor?_of_not_isTruthy {block : Json} (h : block.isTruthy = false) (id value : Json) :
    entryFor? id value block = none := by
  rw [entryFor?, itemsUnder, get?_of_not_isTruthy h]
  rfl

/-- Whether names are for a stat is what a look at them says. -/
theorem areFor_eq {id names : Json} {b : Bool}
    (h : (do isIn id (← item "for" names)) = Except.ok b) : areFor id names = b := by
  obtain ⟨ids, hids, h⟩ := bind_eq_ok h
  rw [areFor, get?_of_item hids, Option.map_some, h]

/-- Whether a name is for a value is what a look at it says. -/
theorem isFor_eq {value entry : Json} {b : Bool}
    (h : (do return Json.same (← item "value" entry) value) = (Except.ok b : Result Bool)) :
    isFor value entry = b := by
  obtain ⟨v, hv, h⟩ := bind_eq_ok h
  rw [isFor, get?_of_item hv]
  exact Except.ok.inj h

/-- The name that is looked for in a block is that of the entry for the option. -/
theorem entryFor?_eq {id value block : Json} {found : Option Json}
    (h : optionName? id value block = .ok found) : entryFor? id value block = found := by
  obtain ⟨given, hgiven, h⟩ := bind_eq_ok h
  obtain ⟨lists, hlists, h⟩ := bind_eq_ok h
  obtain ⟨names, hnames, h⟩ := bind_eq_ok h
  have hitems : itemsOf (orElse given (.array [])) = itemsOf given := by
    rw [orElse]
    split
    · rfl
    · next ht => exact (itemsOf_of_not_isTruthy (by simpa using ht)).symm
  have hfirst := find?_itemsOf_of_firstWhere (fun _ _ ↦ areFor_eq)
    (fun _ ↦ exists_item_bind_eq_error) hlists hnames
  rw [hitems] at hfirst
  rw [entryFor?, itemsUnder, getD_get?_of_find hgiven, hfirst]
  cases names with
  | none => exact Except.ok.inj h
  | some names =>
    obtain ⟨list, hlist, h⟩ := bind_eq_ok h
    obtain ⟨items, hitems, h⟩ := bind_eq_ok h
    rw [Option.bind_some, itemsUnder, get?_of_item hlist]
    exact find?_itemsOf_of_firstWhere (fun _ _ ↦ isFor_eq) (fun _ ↦ exists_item_bind_eq_error)
      hitems h

/-! ### Names gathered from the blocks -/

/-- A name becomes the one that an entry has, if there is an entry. -/
def Renames (entry : Option Json) (name after : Json) : Prop :=
  match entry with
  | some entry => entry.get? "name" = some after
  | none => after = name

section
variable {id value name block : Json} {names after : Fields} {key : String}

/-- No other key comes in when a value is put under a key. -/
theorem notMem_keys_set {other : String} {fs : Fields} (hne : other ≠ key) (h : other ∉ fs.keys)
    (v : Json) : other ∉ (fs.set key v).keys := by
  induction fs with
  | nil => simpa [Fields.set, Fields.keys] using hne
  | cons f fs ih =>
    obtain ⟨hf, h⟩ := not_or.mp fun hm ↦ h (List.mem_cons.mpr hm)
    rw [Fields.set]
    split
    · exact fun hm ↦ (List.mem_cons.mp hm).elim hf h
    · exact fun hm ↦ (List.mem_cons.mp hm).elim hf (ih h)

/-- The default locale has a name of its own, and the others are those of variants. -/
theorem lookup_locales (key : String) :
    locales.lookup key = if key = "default" then some "en-US" else variantLocale? key := by
  by_cases hmem : key ∈ ["default", "pt-BR", "fr", "ko"]
  · revert key
    decide
  · obtain ⟨hd, hp, hf, hk⟩ : key ≠ "default" ∧ key ≠ "pt-BR" ∧ key ≠ "fr" ∧ key ≠ "ko" := by
      simpa using hmem
    simp [variantLocale?, locales, List.lookup_cons, beq_eq_false_iff_ne.mpr, hd, hp, hf, hk]

/-- One more block renames an option by default if it is the one for the default locale, and only
then. -/
theorem addOptionName_cases (hn : "default" ∉ names.keys)
    (h : addOptionName id value (("default", name) :: names) key block = .ok after) :
    ∃ name' rest, after = ("default", name') :: rest ∧ "default" ∉ Fields.keys rest ∧
      if key = "default" then Renames (entryFor? id value block) name name' else name' = name := by
  obtain ⟨found, hfound, h⟩ := bind_eq_ok h
  have hentry := entryFor?_eq hfound
  cases found with
  | none =>
    cases h
    refine ⟨name, names, rfl, hn, ?_⟩
    rw [hentry]
    split <;> rfl
  | some entry =>
    dsimp only at h
    rw [lookup_locales] at h
    by_cases hkey : key = "default"
    · rw [if_pos hkey] at h
      obtain ⟨text, htext, h⟩ := bind_eq_ok h
      cases h
      refine ⟨text, names, rfl, hn, ?_⟩
      rw [if_pos hkey, hentry]
      exact get?_of_item htext
    · simp only [if_neg hkey] at h ⊢
      cases hl : variantLocale? key with
      | none =>
        rw [hl] at h
        cases h
        exact ⟨name, names, rfl, hn, rfl⟩
      | some locale =>
        rw [hl] at h
        obtain ⟨text, -, h⟩ := bind_eq_ok h
        obtain ⟨rfl, hlocale⟩ := variantLocale?_eq_some_iff.mp hl
        have hus : key ≠ "en-US" := by
          rintro rfl
          exact absurd hlocale (by decide)
        rw [if_neg hus] at h
        cases h
        refine ⟨name, names.set key text, ?_, notMem_keys_set (Ne.symm hkey) hn text, rfl⟩
        rw [Fields.set, if_neg (Ne.symm hkey)]

/-- The blocks rename an option by default as the one for the default locale does. -/
theorem foldlM_addOptionName_cases {i18n : Fields} (hd : i18n.keys.Nodup)
    (hn : "default" ∉ names.keys)
    (h : i18n.foldlM (fun names (key, block) ↦ addOptionName id value names key block)
      (("default", name) :: names) = .ok after) :
    ∃ name' rest, after = ("default", name') :: rest ∧ "default" ∉ Fields.keys rest ∧
      Renames ((Fields.get? "default" i18n).bind (entryFor? id value)) name name' := by
  induction i18n generalizing name names with
  | nil =>
    cases h
    exact ⟨name, names, rfl, hn, rfl⟩
  | cons entry i18n ih =>
    obtain ⟨key, block⟩ := entry
    obtain ⟨hkey, hd⟩ := List.nodup_cons.mp hd
    obtain ⟨between, hfirst, h⟩ := bind_eq_ok h
    obtain ⟨name₁, rest₁, rfl, hn₁, hstep⟩ := addOptionName_cases hn hfirst
    obtain ⟨name₂, rest₂, rfl, hn₂, hrest⟩ := ih hd hn₁ h
    refine ⟨name₂, rest₂, rfl, hn₂, ?_⟩
    rw [Fields.get?]
    by_cases hk : key = "default"
    · subst hk
      rw [get?_of_notMem hkey] at hrest
      rw [if_pos rfl] at hstep ⊢
      obtain rfl : name₂ = name₁ := hrest
      exact hstep
    · rw [if_neg hk] at hstep ⊢
      exact hstep ▸ hrest

end

/-- An empty block names no option, so it may as well be missing. -/
theorem bind_namingBlock? (i18n : Fields) (id value : Json) :
    (namingBlock? i18n).bind (entryFor? id value) =
      (Fields.get? "default" i18n).bind (entryFor? id value) := by
  rw [namingBlock?]
  cases hb : Fields.get? "default" i18n with
  | none => rfl
  | some block =>
    cases ht : block.isTruthy with
    | true => rw [Option.filter_some_pos ht]
    | false =>
      rw [Option.filter_some_neg (by simp [ht]), Option.bind_some, entryFor?_of_not_isTruthy ht]
      rfl

/-! ### Options and stats -/

/-- A stat whose fields name an enumeration has the options that are read from them. -/
theorem options_of_read {fs : Fields} {s : Stat}
    (ht : Fields.get? "type" fs = some (.string StatKind.enumeration.word))
    (h : Stat.read (.object fs) = .ok s) :
    ∃ source rolls, s.detail = .enumeration source rolls ∧
      Checked.fieldOr fs "options" (.own []) OptionSource.read = .ok source := by
  have hd := StatDetail.read_eq_ok_iff.mp (detail_of_read ht h)
  cases hs : s.detail with
  | enumeration source rolls =>
    rw [hs] at hd
    exact ⟨source, rolls, rfl, hd.1⟩
  | numeric | boolean | text | calculated => simp [hs] at hd

section
variable {blocks : Blocks} (hd : blocks.all.keys.Nodup)
include hd

/-- What is read from the present form of an option is named by the block for the default locale. -/
theorem isOptionOf_of_enumOption {stat pages old v id : Json} {o : EnumOption}
    (hid : stat.get? "id" = some id) (h : enumOption blocks stat pages old = .ok v)
    (hr : EnumOption.read (withoutNulls v) = .ok o) :
    IsOptionOf (namingBlock? blocks.all) id old o := by
  obtain ⟨id', hid', h⟩ := bind_eq_ok h
  obtain rfl := Option.some.inj (hid.symm.trans (get?_of_item hid'))
  obtain ⟨value, hvalue, h⟩ := bind_eq_ok h
  obtain ⟨names, hnames, h⟩ := bind_eq_ok h
  obtain ⟨emoji, -, h⟩ := bind_eq_ok h
  obtain ⟨reps, -, h⟩ := bind_eq_ok h
  cases h
  obtain ⟨name, rest, rfl, hn, hname⟩ := foldlM_addOptionName_cases hd (List.not_mem_nil) hnames
  obtain ⟨fs, hfs, hreadValue, hreadName, -⟩ := EnumOption.read_eq_ok_iff.mp hr
  cases hfs
  have hinteger : Checked.integer value = .ok o.value :=
    integer_of_required (by simp [Fields.keys]) hreadValue
  refine ⟨value, get?_of_item hvalue, hinteger, ?_⟩
  have hread := read_of_fieldOr hreadName
    (by simp [get?_fieldsWithoutNulls_cons, Json.isNull] :
      _ = some (withoutNulls (.object (("default", name) :: rest))))
  have hdefault := (read_without_default hn hread).1
  rw [IsNamedBy, bind_namingBlock?]
  cases he : (Fields.get? "default" blocks.all).bind (entryFor? id value) with
  | some entry =>
    rw [he] at hname
    rcases hdefault with rfl | ⟨rfl, hempty⟩
    · exact .inl hname
    · exact .inr ⟨hname, hempty⟩
  | none =>
    rw [he] at hname
    obtain rfl : name = textBehind "" value := hname
    rw [textBehind_of_integer hinteger, String.empty_append] at hdefault
    rcases hdefault with htext | ⟨hnull, -⟩
    · exact (Json.string.inj htext).symm
    · cases hnull

/-- What belongs to the kind of a stat has the options of the legacy stat when that has a list of
them. -/
theorem hasOptionsOf_of_detail {pages old id : Json} {fields gs : Fields} {s : Stat}
    (hid : old.get? "id" = some id) (h : detail blocks pages old = .ok fields)
    (hr : Stat.read (.object gs) = .ok s)
    (htype : Fields.get? "type" gs = Fields.get? "type" (fieldsWithoutNulls fields))
    (hoptions : Fields.get? "options" gs =
      Fields.get? "options" (fieldsWithoutNulls fields)) :
    HasOptionsOf (namingBlock? blocks.all) old s := by
  rw [HasOptionsOf]
  rcases detail_cases h with
    ⟨ho, given, items, options, rolls, reps, hgiven, hitems, hlist, -, rfl⟩ |
    ⟨ho, kind, rest, hk, -, rfl, -⟩
  · have hlisted : Fields.get? "options" gs = some (withoutNulls (.array options)) := by
      rw [hoptions]
      simp [get?_fieldsWithoutNulls_cons, Json.isNull]
    obtain ⟨source, r, hdetail, hsource⟩ := options_of_read htype hr
    have hread := read_of_fieldOr hsource hlisted
    rw [ho, if_pos rfl]
    rcases OptionSource.read_eq_ok_iff.mp hread with ⟨os, hos, rfl⟩ | ⟨_, _, -, hi, -⟩
    · refine ⟨id, given, items, os, r, hid, hgiven, hitems, hdetail, ?_⟩
      refine (forall₂_of_list hlist hos).imp ?_
      rintro option o ⟨v, hv, ho⟩
      exact isOptionOf_of_enumOption hd hid hv ho
    · cases hi
  · obtain ⟨hkind, -⟩ := rolls_of_read htype hr
    rw [ho, if_neg Bool.false_ne_true]
    exact hkind ▸ hk

/-- The present form of a legacy stat has its options. -/
theorem hasOptionsOf_of_stat {old v : Json} {s : Stat} (h : stat blocks old = .ok v)
    (hr : Stat.read (withoutNulls v) = .ok s) : HasOptionsOf (namingBlock? blocks.all) old s := by
  obtain ⟨id, pages, fields, gs, hid, hfields, hgs, hg⟩ := exists_detail_of_stat h
  exact hasOptionsOf_of_detail hd hid hfields (hgs ▸ hr)
    (hg "type" (by decide)) (hg "options" (by decide))

end

/-! ### Main statement -/

/-- The default block is the one that options are named by, or else the first one. -/
theorem defaultBlock?_eq (i18n : Fields) :
    defaultBlock? i18n = (namingBlock? i18n).or (i18n.head?.map (·.2)) := by
  rw [defaultBlock?, namingBlock?]
  cases hb : Fields.get? "default" i18n with
  | none => rfl
  | some block => cases ht : block.isTruthy <;> simp [Option.filter, ht]

/-- The options of a converted schema are those of the legacy stats with lists of options. Each is
named by the block for the default locale, and by its value where that block is empty or missing or
has no entry for it. So the names are those of the default block, unless that is the first block
for want of one for the default locale. -/
theorem optionNames_of_convert {old : Json} {s : GameSystem} {i18n : Fields}
    (h : convert old = .ok s) (hi : old.get? "i18n" = some (.object i18n))
    (hd : i18n.keys.Nodup) :
    (∃ given stats, old.get? "stats" = some given ∧ entries given = .ok stats ∧
      List.Forall₂ (HasOptionsOf (namingBlock? i18n)) stats s.stats) ∧
    ∃ default, defaultBlock? i18n = some default ∧
      (namingBlock? i18n = some default ∨
        namingBlock? i18n = none ∧ i18n.head?.map (·.2) = some default) := by
  obtain ⟨texts, blocks, given, stats, htexts, hblocks, hgiven, hstats, hall⟩ := stats_of_convert h
  obtain rfl := Option.some.inj (hi.symm.trans (get?_of_item htexts))
  obtain ⟨rfl, hdefault⟩ := of_blocks hblocks
  refine ⟨⟨given, stats, hgiven, hstats, hall.imp ?_⟩, blocks.default, hdefault, ?_⟩
  · rintro old s ⟨v, hv, hr⟩
    exact hasOptionsOf_of_stat hd hv hr
  · rw [defaultBlock?_eq] at hdefault
    cases hn : namingBlock? blocks.all with
    | none => exact .inr ⟨rfl, by simpa [hn] using hdefault⟩
    | some block => exact .inl (by simpa [hn] using hdefault)

/-- A block with names for some options of the first stat. -/
def blockNaming (names : List (Int × String)) : Json :=
  .object [
    ("commands", .object [
      ("config", .object [("label", .string "S"), ("description", .string "D")]),
      ("ficha", .object [("fields", .array [])])]),
    ("stats", .object []),
    ("enums", .array [.object [("for", .array [.int 1]), ("enum", .array (names.map
      fun (value, name) ↦ .object [("value", .int value), ("name", .string name)]))]]),
    ("menu", .object [])]

/-- A legacy document with some blocks and a stat with two options. -/
def twoOptionsDocument (i18n : Fields) : Json :=
  .object [("i18n", .object i18n),
    ("commands", .object [("config", .object [("value", .int 1)])]),
    ("stats", .array [.object [("id", .int 1),
      ("enum", .array [.object [("value", .int 4)], .object [("value", .int 5)]])]])]

/-- The default names of the options of a stat. -/
def optionNames (s : Stat) : List String :=
  match s.detail with
  | .enumeration (.own options) _ => options.map (·.name.default)
  | _ => []

/-- A conversion that names options has a schema with these names. -/
theorem exists_of_optionNames {old : Json} {names : List (List String)}
    (h : (convert old).toOption.map (·.stats.map optionNames) = some names) :
    ∃ s, convert old = .ok s ∧ s.stats.map optionNames = names := by
  cases hs : convert old with
  | error e => simp [hs, Except.toOption] at h
  | ok s => exact ⟨s, rfl, by simpa [hs, Except.toOption] using h⟩

/-- The block for the default locale names one of two options, and the other keeps its value though
the first block has a name for it. -/
theorem optionNames_of_convert_second :
    let i18n : Fields := [("fr", blockNaming [(4, "Guerrier"), (5, "Mage")]),
      ("default", blockNaming [(4, "Warrior")])]
    ∃ s, convert (twoOptionsDocument i18n) = .ok s ∧
      s.stats.map optionNames = [["Warrior", "5"]] ∧
      (∃ given stats, (twoOptionsDocument i18n).get? "stats" = some given ∧
        entries given = .ok stats ∧
        List.Forall₂ (HasOptionsOf (some (blockNaming [(4, "Warrior")]))) stats s.stats) ∧
      defaultBlock? i18n = some (blockNaming [(4, "Warrior")]) := by
  intro i18n
  have hconverted : (convert (twoOptionsDocument i18n)).toOption.map (·.stats.map optionNames) =
      some [["Warrior", "5"]] := by decide +kernel
  obtain ⟨s, hs, hnames⟩ := exists_of_optionNames hconverted
  have hblocks : (twoOptionsDocument i18n).get? "i18n" = some (.object i18n) := rfl
  obtain ⟨hstats, -⟩ := optionNames_of_convert hs hblocks (by decide)
  exact ⟨s, hs, hnames, hstats, rfl⟩

/-- The first block is the default one for want of another, and the options keep their values though
it has names for both. -/
theorem not_named_by_first_block :
    let i18n : Fields := [("fr", blockNaming [(4, "Guerrier"), (5, "Mage")])]
    ∃ s, convert (twoOptionsDocument i18n) = .ok s ∧
      s.stats.map optionNames = [["4", "5"]] ∧
      defaultBlock? i18n = some (blockNaming [(4, "Guerrier"), (5, "Mage")]) ∧
      ¬ ∃ given stats, (twoOptionsDocument i18n).get? "stats" = some given ∧
        entries given = .ok stats ∧
        List.Forall₂ (HasOptionsOf (defaultBlock? i18n)) stats s.stats := by
  intro i18n
  have hconverted : (convert (twoOptionsDocument i18n)).toOption.map (·.stats.map optionNames) =
      some [["4", "5"]] := by decide +kernel
  obtain ⟨s, hs, hnames⟩ := exists_of_optionNames hconverted
  refine ⟨s, hs, hnames, rfl, ?_⟩
  rintro ⟨given, stats, hgiven, hstats, hall⟩
  cases hgiven
  cases hstats
  cases hl : s.stats with
  | nil => simp [hl] at hnames
  | cons first rest =>
    rw [hl] at hall hnames
    obtain ⟨⟨id, given, items, options, rolls, hid, hgiven, hitems, hdetail, hoptions⟩, -⟩ :=
      List.forall₂_cons.mp hall
    cases hid
    cases hgiven
    cases hitems
    cases hoptions with
    | cons hoption =>
      obtain ⟨value, hvalue, -, hname⟩ := hoption
      cases hvalue
      have hfirst : optionNames first = ["4", "5"] := (List.cons.inj hnames).1
      rw [optionNames, hdetail] at hfirst
      obtain ⟨hfour, -⟩ := List.cons.inj hfirst
      have htext : ((entryFor? (.int 1) (.int 4) (blockNaming [(4, "Guerrier"), (5, "Mage")])).bind
          (·.get? "name")).bind nonEmptyText? = some "Guerrier" := by decide +kernel
      have hguerrier := IsNamedBy.eq_text hname htext
      exact absurd (hfour.symm.trans hguerrier) (by decide)

end CharacterSheet.Legacy
