import CharacterSheet.Arithmetic.Template
import CharacterSheet.Legacy
import CharacterSheet.Proofs.Schema.Reading

/-!
# Replacements of legacy stats

The present form of a legacy stat is put together for each kind on its own, and only that of an
enumeration is given the replacements. Main statement: a converted stat has the replacements of
the legacy one, item by item, when the legacy one has a list of options, and none otherwise.
-/

namespace CharacterSheet.Legacy

open Arithmetic.Template (bind_eq_ok)

/-- A replacement has the id of a legacy one for its key, and the stats that it is replaced by for
its options. -/
def Says (old : Json) (r : Replacement) : Prop :=
  ∃ id given options, old.get? "id" = some id ∧ old.get? "replacedBy" = some given ∧
    entries given = .ok options ∧ Checked.integer id = .ok r.key ∧
    List.Forall₂ (fun v n ↦ Checked.integer v = .ok n) options r.options

/-- Whether a legacy stat has a list of options. -/
def hasOptions (stat : Json) : Bool := !((stat.get? "enum").getD .null).isNull

/-- Replacements are those of a legacy stat, in their order; there are none when the legacy stat
has none. -/
def Carried (stat : Json) (found : Option (List Replacement)) : Prop :=
  let given := (stat.get? "replacements").getD .null
  (given = .null ∧ found = none) ∨
    (given ≠ .null ∧ ∃ items rs, entries given = .ok items ∧ found = some rs ∧
      List.Forall₂ Says items rs)

/-- What becomes of the replacements of a legacy stat: a stat with a list of options becomes an
enumeration that carries them, and every other stat loses them. -/
def KeepsReplacements (old : Json) (s : Stat) : Prop :=
  if hasOptions old then s.kind = .enumeration ∧ Carried old s.rolls.replacements
  else s.kind ≠ .enumeration ∧ s.rolls.replacements = none

/-! ### Looks that do not fail -/

/-- Items that correspond to items in between correspond to one another. -/
theorem forall₂_trans {α β γ : Type} {r : α → β → Prop} {q : β → γ → Prop} {p : α → γ → Prop}
    (h : ∀ a b c, r a b → q b c → p a c) {as : List α} {bs : List β} {cs : List γ}
    (hr : List.Forall₂ r as bs) (hq : List.Forall₂ q bs cs) : List.Forall₂ p as cs := by
  induction hr generalizing cs with
  | nil =>
    cases hq
    exact .nil
  | cons ha hs ih =>
    cases hq with
    | cons hb hq => exact .cons (h _ _ _ ha hb) (ih hq)

/-- What is under a key that must be there. -/
theorem get?_of_item {key : String} {v w : Json} (h : item key v = .ok w) :
    v.get? key = some w := by
  unfold item at h
  split at h
  · next fs =>
    split at h
    · next u hu =>
      cases h
      exact hu
    · cases h
  · cases h

/-- What is found under a key is null when there is nothing. -/
theorem getD_get?_of_find {key : String} {v w : Json} (h : find (.string key) v = .ok w) :
    (v.get? key).getD .null = w := by
  unfold find at h
  split at h
  · cases h
    rfl
  · cases h

/-! ### Fields that are not null -/

open Json (Fields)

theorem get?_fieldsWithoutNulls_cons {key k : String} {v : Json} {fs : Fields} :
    Fields.get? key (fieldsWithoutNulls ((k, v) :: fs)) =
      if k = key ∧ v.isNull = false then some (withoutNulls v)
      else Fields.get? key (fieldsWithoutNulls fs) := by
  rw [fieldsWithoutNulls]
  cases hv : v.isNull with
  | true => simp
  | false => simp [Fields.get?]

theorem get?_fieldsWithoutNulls_nil {key : String} :
    Fields.get? key (fieldsWithoutNulls []) = none := rfl

theorem get?_fieldsWithoutNulls_of_notMem {key : String} {fs : Fields} (h : key ∉ fs.keys) :
    Fields.get? key (fieldsWithoutNulls fs) = none := by
  induction fs with
  | nil => rfl
  | cons f fs ih =>
    obtain ⟨k, v⟩ := f
    obtain ⟨hne, h⟩ := not_or.mp fun hk ↦ h (List.mem_cons.mpr hk)
    rw [get?_fieldsWithoutNulls_cons, if_neg (fun hk ↦ hne hk.1.symm), ih h]

theorem itemsWithoutNulls_eq_map (items : List Json) :
    itemsWithoutNulls items = items.map withoutNulls := by
  induction items with
  | nil => rfl
  | cons v items ih => rw [itemsWithoutNulls, ih, List.map_cons]

/-- A field with a value that is not null is read. -/
theorem read_of_fieldOr {α : Type} {fs : Fields} {key : String} {v : Json} {default a : α}
    {read : Json → Checked α} (h : Checked.fieldOr fs key default read = .ok a)
    (hv : Fields.get? key fs = some v) : read v = .ok a := by
  rcases Checked.fieldOr_eq_ok_iff.mp h with ⟨w, hw, hr⟩ | ⟨hn, -⟩
  · cases hv.symm.trans hw
    exact hr
  · cases hv.symm.trans hn

/-- Items that are converted one by one, and read from what is not null of them. -/
theorem forall₂_of_list {α β : Type} {convert : α → Result Json} {read : Json → Checked β}
    {olds : List α} {vs : List Json} {as : List β} (hc : olds.mapM convert = .ok vs)
    (hr : Checked.list read (withoutNulls (.array vs)) = .ok as) :
    List.Forall₂ (fun old a ↦ ∃ v, convert old = .ok v ∧ read (withoutNulls v) = .ok a)
      olds as := by
  obtain ⟨items, hitems, hall⟩ := Checked.list_eq_ok_iff.mp hr
  cases hitems
  rw [itemsWithoutNulls_eq_map, List.forall₂_map_left_iff] at hall
  exact forall₂_trans (fun _ v _ hv ha ↦ ⟨v, hv, ha⟩) (forall₂_of_mapM hc) hall

/-- An integer has no fields that could be null. -/
theorem integer_withoutNulls (v : Json) : Checked.integer (withoutNulls v) = Checked.integer v := by
  cases v <;> rfl

/-- An integer that must be under the first of some keys is read from what is there. -/
theorem integer_of_required {key : String} {v : Json} {fs : Fields} {n : Int}
    (hk : key ∉ fs.keys)
    (h : Checked.required (fieldsWithoutNulls ((key, v) :: fs)) key Checked.integer = .ok n) :
    Checked.integer v = .ok n := by
  obtain ⟨w, hw, hi⟩ := Checked.required_eq_ok_iff.mp h
  rw [get?_fieldsWithoutNulls_cons] at hw
  split at hw
  · cases hw
    rwa [integer_withoutNulls] at hi
  · cases (get?_fieldsWithoutNulls_of_notMem hk).symm.trans hw

/-! ### One replacement -/

/-- What is read from the present form of a replacement says what the legacy one says. -/
theorem says_of_replacement {old v : Json} {r : Replacement} (h : replacement old = .ok v)
    (hr : Replacement.read (withoutNulls v) = .ok r) : Says old r := by
  obtain ⟨id, hid, h⟩ := bind_eq_ok h
  obtain ⟨given, hgiven, h⟩ := bind_eq_ok h
  obtain ⟨options, hoptions, h⟩ := bind_eq_ok h
  cases h
  obtain ⟨fs, hfs, hkey, hlist⟩ := Replacement.read_eq_ok_iff.mp hr
  cases hfs
  refine ⟨id, given, options, get?_of_item hid, get?_of_item hgiven, hoptions, ?_, ?_⟩
  · exact integer_of_required (by simp [Fields.keys]) hkey
  · have hw : Fields.get? "options"
        (fieldsWithoutNulls [("key", id), ("options", .array options)]) =
          some (.array (itemsWithoutNulls options)) := by
      simp [get?_fieldsWithoutNulls_cons, Json.isNull, withoutNulls]
    rcases Checked.fieldOr_eq_ok_iff.mp hlist with ⟨w, hw', hi⟩ | ⟨hn, -⟩
    · rw [hw] at hw'
      cases hw'
      obtain ⟨items, hitems, hall⟩ := Checked.list_eq_ok_iff.mp hi
      cases hitems
      rw [itemsWithoutNulls_eq_map, List.forall₂_map_left_iff] at hall
      simpa only [integer_withoutNulls] using hall
    · rw [hw] at hn
      cases hn

/-! ### One stat -/

/-- What is read from the present form of the replacements of a stat is carried over. -/
theorem carried_of_replacements {old v : Json} {gs : Fields} {found : Option (List Replacement)}
    (h : replacements old = .ok v)
    (hg : Fields.get? "replacements" gs = if v.isNull then none else some (withoutNulls v))
    (hr : Checked.fieldOr gs "replacements" none (.nullable (.list Replacement.read)) =
      .ok found) : Carried old found := by
  obtain ⟨given, hfind, h⟩ := bind_eq_ok h
  unfold Carried
  simp only [getD_get?_of_find hfind]
  split at h
  · cases h
    rcases Checked.fieldOr_eq_ok_iff.mp hr with ⟨w, hw, -⟩ | ⟨-, he⟩
    · rw [hg] at hw
      cases hw
    · exact .inl ⟨rfl, he⟩
  · next hne =>
    obtain ⟨items, hitems, h⟩ := bind_eq_ok h
    obtain ⟨vs, hvs, h⟩ := bind_eq_ok h
    cases h
    have hw : Fields.get? "replacements" gs = some (.array (itemsWithoutNulls vs)) := hg
    rcases Checked.fieldOr_eq_ok_iff.mp hr with ⟨w, hw', hi⟩ | ⟨hn, -⟩
    · rw [hw] at hw'
      cases hw'
      rcases Checked.nullable_eq_ok_iff.mp hi with ⟨hnull, -⟩ | ⟨-, rs, hlist, rfl⟩
      · cases hnull
      · obtain ⟨_, hcs, hall⟩ := Checked.list_eq_ok_iff.mp hlist
        cases hcs
        rw [itemsWithoutNulls_eq_map, List.forall₂_map_left_iff] at hall
        refine .inr ⟨hne, items, rs, hitems, rfl, ?_⟩
        refine forall₂_trans ?_ (forall₂_of_mapM hvs) hall
        exact fun _ _ _ ↦ says_of_replacement
    · rw [hw] at hn
      cases hn

/-- A stat whose fields name a kind is read with what belongs to that kind. -/
theorem detail_of_read {fs : Fields} {kind : StatKind} {s : Stat}
    (ht : Fields.get? "type" fs = some (.string kind.word)) (h : Stat.read (.object fs) = .ok s) :
    StatDetail.read fs kind = .ok s.detail := by
  obtain ⟨gs, k, word, hgs, hw, hk, hr⟩ := Stat.read_eq_ok_iff.mp h
  cases hgs
  rw [ht] at hw
  cases hw
  rw [StatKind.ofWord?_word] at hk
  cases hk
  exact (Stat.readKind_eq_ok_iff.mp hr).2.2.2.2

/-- A stat whose fields name a kind is read as one of that kind, with what can be rolled for it. -/
theorem rolls_of_read {fs : Fields} {kind : StatKind} {s : Stat}
    (ht : Fields.get? "type" fs = some (.string kind.word)) (h : Stat.read (.object fs) = .ok s) :
    s.kind = kind ∧ (kind ≠ .text → Rolls.read fs = .ok s.rolls) := by
  have hd := StatDetail.read_eq_ok_iff.mp (detail_of_read ht h)
  cases kind <;> cases hs : s.detail <;> simp_all [Stat.kind, Stat.rolls]

/-- Nothing is carried over where the present form has no replacements. -/
theorem replacements_of_read {gs : Fields} {rolls : Rolls} (h : Rolls.read gs = .ok rolls)
    (hg : Fields.get? "replacements" gs = none) : rolls.replacements = none := by
  obtain ⟨-, hr⟩ := Rolls.read_eq_ok_iff.mp h
  rcases Checked.fieldOr_eq_ok_iff.mp hr with ⟨w, hw, -⟩ | ⟨-, he⟩
  · rw [hg] at hw
    cases hw
  · exact he

/-- What belongs to the kind of a stat: an enumeration when there is a list of options, with these
options and its replacements, and another kind otherwise, with a formula and dice at most. -/
theorem detail_cases {blocks : Blocks} {pages old : Json} {fields : Fields}
    (h : detail blocks pages old = .ok fields) :
    (hasOptions old = true ∧ ∃ given items options rolls reps, old.get? "enum" = some given ∧
      entries given = .ok items ∧ items.mapM (enumOption blocks old pages) = .ok options ∧
      replacements old = .ok reps ∧
      fields = [("type", .string StatKind.enumeration.word), ("options", .array options),
        ("dices", rolls), ("replacements", reps)]) ∨
    (hasOptions old = false ∧ ∃ kind rest, kind ≠ .enumeration ∧ kind ≠ .text ∧
      fields = ("type", .string (StatKind.word kind)) :: rest ∧
      ∀ key ∈ Fields.keys rest, key ∈ ["formula", "dices"]) := by
  obtain ⟨dices, -, h⟩ := bind_eq_ok h
  obtain ⟨given, hg, h⟩ := bind_eq_ok h
  have hoptions : hasOptions old = !given.isNull := by rw [hasOptions, getD_get?_of_find hg]
  split at h
  · next hn =>
    have hgiven : old.get? "enum" = some given := by
      cases hf : old.get? "enum" with
      | none =>
        obtain rfl : Json.null = given := by simpa [hf] using getD_get?_of_find hg
        cases hn
      | some v => simpa [hf] using getD_get?_of_find hg
    obtain ⟨items, hitems, h⟩ := bind_eq_ok h
    obtain ⟨options, hlist, h⟩ := bind_eq_ok h
    dsimp only at h
    refine .inl ⟨hoptions.trans hn, given, items, options, ?_⟩
    split at h
    all_goals
      obtain ⟨rolls, -, h⟩ := bind_eq_ok h
      obtain ⟨reps, hreps, h⟩ := bind_eq_ok h
      exact ⟨rolls, reps, hgiven, hitems, hlist, hreps, (Except.ok.inj h).symm⟩
  · next hn =>
    refine .inr ⟨hoptions.trans (by simpa using hn), ?_⟩
    split at h
    · obtain ⟨first, -, h⟩ := bind_eq_ok h
      obtain ⟨formula, -, h⟩ := bind_eq_ok h
      obtain ⟨rolls, -, h⟩ := bind_eq_ok h
      cases h
      exact ⟨.calculated, _, nofun, nofun, rfl, by simp [Fields.keys]⟩
    · obtain ⟨held, -, h⟩ := bind_eq_ok h
      split at h
      · cases h
        exact ⟨.boolean, [], nofun, nofun, rfl, nofun⟩
      · cases h
        exact ⟨.numeric, [], nofun, nofun, rfl, nofun⟩

/-- What belongs to the kind of a stat has the replacements of the legacy stat when that has a list
of options. -/
theorem keepsReplacements_of_detail {blocks : Blocks} {pages old : Json} {fields gs : Fields}
    {s : Stat} (h : detail blocks pages old = .ok fields) (hr : Stat.read (.object gs) = .ok s)
    (htype : Fields.get? "type" gs = Fields.get? "type" (fieldsWithoutNulls fields))
    (hreplacements : Fields.get? "replacements" gs =
      Fields.get? "replacements" (fieldsWithoutNulls fields)) : KeepsReplacements old s := by
  rw [KeepsReplacements]
  rcases detail_cases h with ⟨ho, _, _, options, rolls, reps, -, -, -, hreps, rfl⟩ |
    ⟨ho, kind, rest, hk, hx, rfl, hrest⟩
  · -- an enumeration is given its replacements
    obtain ⟨hkind, hrolls⟩ := rolls_of_read htype hr
    rw [ho, if_pos rfl]
    refine ⟨hkind, carried_of_replacements hreps ?_ (Rolls.read_eq_ok_iff.mp (hrolls nofun)).2⟩
    rw [hreplacements]
    cases hv : reps.isNull <;>
      simp [get?_fieldsWithoutNulls_cons, get?_fieldsWithoutNulls_nil, hv]
  · obtain ⟨hkind, hrolls⟩ := rolls_of_read htype hr
    have hnone : Fields.get? "replacements"
        (fieldsWithoutNulls (("type", .string kind.word) :: rest)) = none := by
      refine get?_fieldsWithoutNulls_of_notMem fun hm ↦ ?_
      rcases List.mem_cons.mp hm with hm | hm
      · exact absurd hm (by simp)
      · exact absurd (hrest _ hm) (by decide)
    rw [ho, if_neg Bool.false_ne_true]
    exact ⟨hkind ▸ hk, replacements_of_read (hrolls hx) (hreplacements.trans hnone)⟩

/-- The present form of a legacy stat has the fields that belong to its kind behind some that are
common to all kinds. -/
theorem exists_detail_of_stat {blocks : Blocks} {old v : Json} (h : stat blocks old = .ok v) :
    ∃ id pages fields gs, old.get? "id" = some id ∧ detail blocks pages old = .ok fields ∧
      withoutNulls v = .object gs ∧ ∀ key ∉ ["id", "name", "emoji", "edit_page"],
        Fields.get? key gs = Fields.get? key (fieldsWithoutNulls fields) := by
  obtain ⟨id, hid, h⟩ := bind_eq_ok h
  obtain ⟨names, -, h⟩ := bind_eq_ok h
  obtain ⟨default, -, h⟩ := bind_eq_ok h
  obtain ⟨name, -, h⟩ := bind_eq_ok h
  obtain ⟨emoji, -, h⟩ := bind_eq_ok h
  obtain ⟨menu, -, h⟩ := bind_eq_ok h
  obtain ⟨fields, hfields, h⟩ := bind_eq_ok h
  cases h
  refine ⟨id, _, fields, _, get?_of_item hid, hfields, rfl, fun key hk ↦ ?_⟩
  obtain ⟨hi, hn, he, hp⟩ : key ≠ "id" ∧ key ≠ "name" ∧ key ≠ "emoji" ∧ key ≠ "edit_page" := by
    simpa using hk
  simp [get?_fieldsWithoutNulls_cons, hi.symm, hn.symm, he.symm, hp.symm]

/-- The present form of a legacy stat keeps its replacements when it has a list of options. -/
theorem keepsReplacements_of_stat {blocks : Blocks} {old v : Json} {s : Stat}
    (h : stat blocks old = .ok v) (hr : Stat.read (withoutNulls v) = .ok s) :
    KeepsReplacements old s := by
  obtain ⟨id, pages, fields, gs, -, hfields, hgs, hg⟩ := exists_detail_of_stat h
  exact keepsReplacements_of_detail hfields (hgs ▸ hr)
    (hg "type" (by decide)) (hg "replacements" (by decide))

/-! ### Main statement -/

/-- The stats of a legacy document are converted one by one, with the texts of its blocks. -/
theorem stats_of_convert {old : Json} {s : GameSystem} (h : convert old = .ok s) :
    ∃ texts blocks given stats, item "i18n" old = .ok texts ∧ Blocks.ofJson texts = .ok blocks ∧
      old.get? "stats" = some given ∧ entries given = .ok stats ∧
      List.Forall₂ (fun old s ↦ ∃ v, stat blocks old = .ok v ∧
        Stat.read (withoutNulls v) = .ok s) stats s.stats := by
  obtain ⟨doc, hdoc, h⟩ := bind_eq_ok h
  obtain ⟨texts, htexts, hdoc⟩ := bind_eq_ok hdoc
  obtain ⟨blocks, hblocks, hdoc⟩ := bind_eq_ok hdoc
  obtain ⟨commands, -, hdoc⟩ := bind_eq_ok hdoc
  obtain ⟨config, -, hdoc⟩ := bind_eq_ok hdoc
  obtain ⟨given, hgiven, hdoc⟩ := bind_eq_ok hdoc
  obtain ⟨stats, hstats, hdoc⟩ := bind_eq_ok hdoc
  obtain ⟨converted, hconverted, hdoc⟩ := bind_eq_ok hdoc
  obtain ⟨menu, -, hdoc⟩ := bind_eq_ok hdoc
  obtain ⟨keys, -, hdoc⟩ := bind_eq_ok hdoc
  obtain ⟨sections, -, hdoc⟩ := bind_eq_ok hdoc
  cases hdoc
  refine ⟨texts, blocks, given, stats, htexts, hblocks, get?_of_item hgiven, hstats, ?_⟩
  split at h
  · next found hread =>
    cases h
    obtain ⟨fs, hfs, -, hlist, -⟩ := GameSystem.read_eq_ok_iff.mp hread
    cases hfs
    exact forall₂_of_list hconverted (read_of_fieldOr hlist rfl)
  · cases h

/-- The stats of a legacy document are converted one by one, and of their replacements exactly
those are kept that belong to a stat with a list of options. -/
theorem replacements_of_convert {old : Json} {s : GameSystem} (h : convert old = .ok s) :
    ∃ given stats, old.get? "stats" = some given ∧ entries given = .ok stats ∧
      List.Forall₂ KeepsReplacements stats s.stats := by
  obtain ⟨_, blocks, given, stats, -, -, hgiven, hstats, hall⟩ := stats_of_convert h
  refine ⟨given, stats, hgiven, hstats, hall.imp ?_⟩
  rintro old s ⟨v, hv, hr⟩
  exact keepsReplacements_of_stat hv hr

/-- A legacy document with some stats. -/
def documentOf (stats : List Json) : Json :=
  .object [("i18n", .object [("default", .object [
      ("commands", .object [
        ("config", .object [("label", .string "S"), ("description", .string "D")]),
        ("ficha", .object [("fields", .array [])])]),
      ("stats", .object [("1", .string "A"), ("2", .string "B")]), ("menu", .object [])])]),
    ("commands", .object [("config", .object [("value", .int 1)])]),
    ("stats", .array stats)]

/-- The replacement of the first stat by the second and by itself. -/
def firstReplaced : Json :=
  .object [("id", .int 1), ("replacedBy", .array [.int 2, .int 1])]

/-- A legacy stat with dice and replacements. -/
def rolledStat : Json :=
  .object [("id", .int 1),
    ("dices", .array [.object [("dice", .string "<stat:2:value>")]]),
    ("replacements", .array [firstReplaced])]

/-- A legacy stat with a list of options, dice and replacements. -/
def listedStat : Json :=
  .object [("id", .int 2), ("enum", .array [.object [("value", .int 4)]]),
    ("dices", .array [.object [("dice", .string "<stat:1:value>")]]),
    ("replacements", .array [firstReplaced])]

/-- Of two stats with dice and replacements the one with a list of options keeps them. -/
theorem replacements_of_convert_listed :
    ∃ s, convert (documentOf [rolledStat, listedStat]) = .ok s ∧
      s.stats.map (·.rolls.replacements) = [none, some [⟨1, [2, 1]⟩]] ∧
      ∃ given stats, (documentOf [rolledStat, listedStat]).get? "stats" = some given ∧
        entries given = .ok stats ∧ List.Forall₂ KeepsReplacements stats s.stats :=
  ⟨_, rfl, rfl, replacements_of_convert rfl⟩

/-- A stat with dice loses its replacements. -/
theorem not_carried_beside_dice :
    ∃ s stat, convert (documentOf [rolledStat]) = .ok s ∧ s.stats[0]? = some stat ∧
      rolledStat.get? "replacements" = some (.array [firstReplaced]) ∧
      ¬ Carried rolledStat stat.rolls.replacements := by
  refine ⟨_, _, rfl, rfl, rfl, ?_⟩
  rintro (⟨hn, -⟩ | ⟨-, items, rs, -, hf, -⟩)
  · cases hn
  · cases hf

end CharacterSheet.Legacy
