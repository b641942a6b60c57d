import CharacterSheet.Menu
import CharacterSheet.Proofs.Preview.Rendering
import CharacterSheet.Proofs.Schema.Entries
import CharacterSheet.Proofs.Schema.Localizations
import CharacterSheet.Proofs.Text.Numbers
import CharacterSheet.Proofs.Token.Rerendering
import CharacterSheet.Proofs.Validation.Clean

/-!
# References that are offered

The menu writes the id of an item as the schema has it, with its sign, whereas the id in a
reference is a run of digits. A clean schema may have items with negative ids, and what is offered
for these is no reference. Main statement: the menu of a clean schema and every search offer for
each item a text for each of its properties; where the id is not negative that text is a reference
to the item, and is shown as the property, and where it is negative it is shown as it stands.
-/

namespace CharacterSheet

open Mention

/-! ### Texts that are shown -/

/-- What counts as true is not shown as an empty text. -/
theorem Json.display_ne_empty {v : Json} (h : v.isTruthy = true) : v.display ≠ "" := by
  cases v with
  | null => cases h
  | bool b => cases b <;> decide
  | number n => exact n.isNumberText_spelling.ne_empty
  | string s => simpa [isTruthy, display] using h
  | unpaired ps => simpa [isTruthy, display, Text.shownText] using h
  | array xs => simp [display, spelling]
  | object fs => simp [display, spelling]
  | table entries => simp [display, spelling]

/-- A text with a default is empty in no locale. -/
theorem Localization.ne_empty_of_get {l : Localization} (h : l.default ≠ "") {locale text : String}
    (hg : l.get locale = .ok text) : text ≠ "" := by
  unfold get at hg
  split at hg
  · exact Except.ok.inj hg ▸ h
  · split at hg
    · split at hg
      · next ht =>
        obtain ⟨-, rfl⟩ := Json.writeText_eq_ok_iff.mp hg
        exact Json.display_ne_empty ht
      · exact Except.ok.inj hg ▸ h
    · exact Except.ok.inj hg ▸ h

/-- Nothing else is shown in the place of a name with a default. -/
theorem Preview.nameText_eq_get {m : Type → Type} {v : Preview m} {name : Localization}
    (h : name.default ≠ "") (other : String) : v.nameText name other = name.get v.locale := by
  unfold nameText
  cases hg : name.get v.locale with
  | error e => rfl
  | ok text => simp [Except.map, orElse, Localization.ne_empty_of_get h hg]

/-! ### Items and their properties -/

/-- A stat or a section. -/
inductive SchemaItem where
  | stat (s : Stat)
  | sheetSection (s : SheetSection)

namespace SchemaItem
variable {m : Type → Type}

/-- The subject of a reference to an item. -/
def subject : SchemaItem → Subject
  | .stat _ => .stat
  | .sheetSection _ => .sheetSection

/-- The id of an item. -/
def id : SchemaItem → Int
  | .stat s => s.id
  | .sheetSection s => s.id

/-- The key of the part of the menu that an item is found in. -/
def category : SchemaItem → String
  | .stat _ => "stats"
  | .sheetSection _ => "sections"

/-- A property of an item, as a preview shows it. -/
def shown (v : Preview m) : SchemaItem → Property → Except NumeralError String
  | .stat s, .name => s.name.get v.locale
  | .stat s, .value => v.shownValue s
  | .stat s, .emoji => .ok (s.emoji.getD "")
  | .sheetSection s, .name => s.name.get v.locale
  | .sheetSection _, .value => .ok (v.wording.unknownProperty Property.value.word)
  | .sheetSection s, .emoji => .ok (s.emoji.getD "")

/-- The text that is offered for a property of an item. -/
def offer (item : SchemaItem) (p : Property) : String := offeredText item.subject item.id p

end SchemaItem

/-- An item is one of a schema. -/
def GameSystem.Holds (s : GameSystem) : SchemaItem → Prop
  | .stat stat => stat ∈ s.stats
  | .sheetSection sec => sec ∈ s.sections

/-- A text is a reference to a property of an item, which it is shown as. -/
structure GameSystem.StandsFor (s : GameSystem) (text : String) (item : SchemaItem)
    (p : Property) : Prop where
  scanned : spannedTokens text =
    .ok [(.reference ⟨item.subject, item.id.toNat, p⟩, ⟨0, text.length⟩)]
  rendered : ∀ {m : Type → Type} [Monad m] [LawfulMonad m] (v : Preview m), v.system = s →
    v.render text = liftExcept (item.shown v p)

/-- A text has no tokens and is shown as it stands. -/
structure IsPlainText (text : String) : Prop where
  scanned : spannedTokens text = .ok []
  rendered : ∀ {m : Type → Type} [Monad m] [LawfulMonad m] (v : Preview m),
    v.render text = pure text

/-! ### What is offered for an id -/

section
variable {m : Type → Type} [Monad m] [LawfulMonad m]

/-- What is offered for an id that is not negative is read as a reference with that id. -/
theorem reads_offeredText {subject : Subject} {n : Nat} {p : Property}
    (hw : Numeral.isWritable n = true) :
    Token.Reads (offeredText subject n p).toList (.reference ⟨subject, n, p⟩) := by
  have hl : (Nat.toDigits 10 n).length ≤ maxDigits :=
    (Nat.length_toDigits_le_iff (by decide) (by decide)).mpr (of_decide_eq_true hw)
  have hr : (Reference.mention ⟨subject, n, p⟩).reference = .ok ⟨subject, n, p⟩ := by
    rw [reference_eq hl, meaning, Reference.mention, Text.digitsValue_toDigits]
  change Token.Reads (Reference.render ⟨subject, n, p⟩).toList _
  rw [Reference.toList_render]
  exact .reference (Reference.isProper_mention _) hr

/-- A text that is a token is scanned as that token. -/
theorem spannedTokens_of_reads {text : String} {t : Token} (h : Token.Reads text.toList t) :
    spannedTokens text = .ok [(t, ⟨0, text.length⟩)] := by
  have hcut := Cut.token h .nil
  rw [List.append_nil, String.ofList_toList] at hcut
  rw [spannedTokens, hcut.spannedFrom_eq]
  simp [withSpans, spanned?, Segment.token?, Segment.source]

/-- A text in which a token could only start at the front, and does not, has none. -/
theorem isPlainText_of_read? {text : String} {tail : List Char} (ht : text.toList = '<' :: tail)
    (hn : '<' ∉ tail) (hr : Token.read? ('<' :: tail) = .ok none) : IsPlainText text := by
  have hb : Barren text.toList [] := by
    intro back hne hs
    rw [List.append_nil]
    rw [ht] at hs
    rcases List.suffix_cons_iff.mp hs with rfl | hs
    · exact hr
    · cases back with
      | nil => exact absurd rfl hne
      | cons c back =>
        have hc : c ≠ '<' := by
          rintro rfl
          exact hn (hs.subset List.mem_cons_self)
        exact Token.read?_of_ne hc back
  have hcut := Cut.literal (by simp [ht]) hb (show StartsWithToken [] by simp [StartsWithToken])
    .nil
  rw [List.append_nil, String.ofList_toList] at hcut
  have hscan : scan text = ⟨[.literal text], none⟩ := hcut.fromRun_eq
  refine ⟨?_, fun v ↦ ?_⟩
  · rw [spannedTokens, hcut.spannedFrom_eq]
    rfl
  · have hcontains : containsToken text = .ok false := by rw [containsToken, hscan]; rfl
    rw [Preview.render, hcontains, liftExcept, pure_bind, if_neg (by simp)]

/-- What is offered for a negative id is no reference. -/
theorem isPlainText_offeredText {subject : Subject} {id : Int} {p : Property} (h : id < 0) :
    IsPlainText (offeredText subject id p) := by
  have hid : (toString id).toList = '-' :: Nat.toDigits 10 id.natAbs := by
    rw [Text.toList_toString, if_pos h]
    rfl
  have ht : (offeredText subject id p).toList =
      '<' :: (subject.word.toList ++ ':' :: '-' ::
        (Nat.toDigits 10 id.natAbs ++ closing p)) := by
    simp only [offeredText, closing, String.toList_append, hid]
    simp
  refine isPlainText_of_read? ht ?_ ?_
  · have hs : '<' ∉ subject.word.toList := by cases subject <;> decide
    have hp : '<' ∉ closing p := by cases p <;> decide
    have hd : '<' ∉ Nat.toDigits 10 id.natAbs := fun hm ↦
      absurd (Text.isDecimalDigit_of_mem_toDigits hm) (by decide)
    simp [hs, hp, hd]
  · have hm : Mention.read? ('<' :: (subject.word.toList ++ ':' :: '-' ::
        (Nat.toDigits 10 id.natAbs ++ closing p))) = none := by
      have hopening := readOpening?_opening subject
        ('-' :: (Nat.toDigits 10 id.natAbs ++ closing p))
      simp only [opening, List.cons_append, List.append_assoc, List.nil_append] at hopening
      rw [Mention.read?, hopening]
      rfl
    rw [Token.read?, hm]
    cases subject <;> rfl

end

/-! ### Properties of items that are there -/

/-- An item is found by its id where ids are distinct. -/
theorem find?_of_nodup {α : Type} {key : α → Int} {xs : List α} {a : α} (h : (xs.map key).Nodup)
    (ha : a ∈ xs) : xs.find? (key · == key a) = some a := by
  obtain ⟨b, hb⟩ := Option.isSome_iff_exists.mp
    (List.find?_isSome (p := (key · == key a)).mpr ⟨a, ha, beq_self_eq_true (key a)⟩)
  have hkey : key b = key a := by simpa using List.find?_some hb
  rw [hb, List.inj_on_of_nodup_map h (List.mem_of_find?_eq_some hb) ha hkey]

namespace GameSystem
variable {s : GameSystem}

/-- In a clean schema a reference to an item is shown as the property of the item. -/
theorem reference_eq_shown {m : Type → Type} (h : s.IsClean) {item : SchemaItem}
    (hm : s.Holds item) (hn : 0 ≤ item.id) {p : Property} (hp : p ∈ item.subject.offered)
    (v : Preview m) (hv : v.system = s) :
    v.reference ⟨item.subject, item.id.toNat, p⟩ = item.shown v p := by
  have hid : (item.id.toNat : Int) = item.id := Int.toNat_of_nonneg hn
  rw [Preview.reference]
  dsimp only
  rw [hid]
  cases item with
  | stat stat =>
    have hname := Preview.nameText_eq_get (v := v) (h.stats stat hm).name
    have hfind : findStat v.system.stats stat.id = some stat :=
      (findStat_eq_some_iff (hv ▸ h.statIds)).mpr ⟨hv ▸ hm, rfl⟩
    cases p <;>
      simp [SchemaItem.subject, SchemaItem.id, SchemaItem.shown, Preview.property,
        Preview.statProperty, hfind, Property.word, hname]
  | sheetSection sec =>
    have hname := Preview.nameText_eq_get (v := v) (h.sections sec hm).name
    have hfind : findSection v.system.sections sec.id = some sec :=
      find?_of_nodup (hv ▸ h.sectionIds) (hv ▸ hm)
    cases p <;>
      simp [SchemaItem.subject, SchemaItem.id, SchemaItem.shown, Preview.property,
        Preview.sectionProperty, hfind, Property.word, hname]

/-- What is offered for a property of an item stands for it, unless the id is negative. -/
theorem standsFor_offer (h : s.IsClean) {item : SchemaItem} (hm : s.Holds item)
    (hw : Numeral.isWritable item.id = true) {p : Property} (hp : p ∈ item.subject.offered)
    (hn : 0 ≤ item.id) : s.StandsFor (item.offer p) item p := by
  have hid : (item.id.toNat : Int) = item.id := Int.toNat_of_nonneg hn
  have hr : Token.Reads (item.offer p).toList
      (.reference ⟨item.subject, item.id.toNat, p⟩) := by
    rw [SchemaItem.offer, ← hid]
    exact reads_offeredText (hid.symm ▸ hw)
  refine ⟨spannedTokens_of_reads hr, fun v hv ↦ ?_⟩
  have hrender := Preview.render_of_reads (p := v) hr
  rw [String.ofList_toList] at hrender
  rw [hrender, Preview.token, reference_eq_shown h hm hn hp v hv]

end GameSystem

/-! ### The menu -/

/-- Items with distinct ids are listed one by one. -/
theorem itemLevel_of_nodup {α : Type} {subject : Subject} {icon : String} {id : α → Int}
    {label : α → String} {items : List α} (h : (items.map id).Nodup) :
    itemLevel subject icon id label items = items.map fun a ↦
      (toString (id a), .branch (label a) icon (propertyLevel subject (id a))) := by
  have hfound : items.foldl (fun found a ↦ insertEntry (id a) a found) [] =
      items.map fun a ↦ (id a, a) := by
    have hn : (([] ++ items.map fun a ↦ (id a, a)).map Prod.fst).Nodup := by
      simpa [Function.comp_def] using h
    rw [← List.nil_append (items.map _), ← insertEntries_of_nodup [] _ hn, insertEntries,
      List.foldl_map]
  rw [itemLevel, hfound, List.map_map]
  rfl

/-- Integers are told apart by their texts. -/
theorem toString_injective : Function.Injective fun n : Int ↦ toString n := by
  intro a b h
  have hdigit {m : Nat} {cs : List Char} : Nat.toDigits 10 m ≠ '-' :: cs := by
    intro he
    have hm : '-' ∈ Nat.toDigits 10 m := he ▸ List.mem_cons_self
    exact absurd (Text.isDecimalDigit_of_mem_toDigits hm) (by decide)
  have hvalue {m n : Nat} (he : Nat.toDigits 10 m = Nat.toDigits 10 n) : m = n := by
    rw [← Text.digitsValue_toDigits m, he, Text.digitsValue_toDigits]
  have hlists : (toString a).toList = (toString b).toList := congrArg String.toList h
  rw [Text.toList_toString, Text.toList_toString] at hlists
  split at hlists <;> split at hlists
  · have := hvalue (List.cons.inj hlists).2
    omega
  · exact absurd hlists.symm hdigit
  · exact absurd hlists hdigit
  · have := hvalue hlists
    omega

theorem lookup_map_of_nodup {α β : Type} {key : α → String} {f : α → β} {xs : List α} {a : α}
    (h : (xs.map key).Nodup) (ha : a ∈ xs) :
    (xs.map fun a ↦ (key a, f a)).lookup (key a) = some (f a) := by
  induction xs with
  | nil => simp at ha
  | cons x xs ih =>
    obtain ⟨hx, hxs⟩ := List.nodup_cons.mp h
    rw [List.map_cons]
    rcases List.mem_cons.mp ha with rfl | ha
    · exact List.lookup_cons_self
    · have hne : (key a == key x) = false :=
        beq_eq_false_iff_ne.mpr fun he ↦ hx (he ▸ List.mem_map_of_mem ha)
      rw [List.lookup_cons, hne]
      exact ih hxs ha

/-- The level of an item opens with the text of its id. -/
theorem descend_itemLevel {α : Type} {subject : Subject} {icon : String} {id : α → Int}
    {label : α → String} {items : List α} (h : (items.map id).Nodup) {a : α} (ha : a ∈ items) :
    (itemLevel subject icon id label items).descend [toString (id a)] =
      propertyLevel subject (id a) := by
  have hkeys : (items.map fun a ↦ toString (id a)).Nodup := by
    simpa [Function.comp_def] using h.map toString_injective
  rw [itemLevel_of_nodup h, MenuLevel.descend, lookup_map_of_nodup hkeys ha]
  rfl

namespace GameSystem
variable {s : GameSystem}

/-- The menu of a clean schema leads to the properties of each item. -/
theorem descend_referenceMenu (h : s.IsClean) {item : SchemaItem} (hm : s.Holds item) :
    (referenceMenu s.stats s.sections).descend [item.category, toString item.id] =
      propertyLevel item.subject item.id := by
  cases item with
  | stat stat => exact descend_itemLevel h.statIds hm
  | sheetSection sec => exact descend_itemLevel h.sectionIds hm

/-- A search finds editors, and properties of items. -/
theorem cases_of_mem_searchReferences {query key : String} {entry : MenuItem}
    (h : (key, entry) ∈ searchReferences s.stats s.sections query) :
    (∃ label icon, entry = .leaf label mathEditor icon ∨ entry = .leaf label diceEditor icon) ∨
    ∃ item p, s.Holds item ∧ p ∈ item.subject.offered ∧
      key = item.subject.word ++ "-" ++ toString item.id ++ "-" ++ p.word ∧
      ∃ label, entry = .leaf label (item.offer p) p.icon := by
  have hfound {subject : Subject} {icon label : String} {id : Int} {term : String}
      (hm : (key, entry) ∈ foundReferences subject icon label id term) :
      ∃ p ∈ subject.offered, key = subject.word ++ "-" ++ toString id ++ "-" ++ p.word ∧
        ∃ label, entry = .leaf label (offeredText subject id p) p.icon := by
    rw [foundReferences] at hm
    split at hm
    · obtain ⟨p, hp, he⟩ := List.mem_map.mp hm
      obtain ⟨rfl, rfl⟩ := Prod.mk.inj he
      exact ⟨p, hp, rfl, _, rfl⟩
    · cases hm
  simp only [searchReferences, List.mem_append, List.mem_flatMap] at h
  rcases h with ((⟨stat, hs, hm⟩ | ⟨sec, hs, hm⟩) | hm) | hm
  · obtain ⟨p, hp, hkey, hentry⟩ := hfound hm
    exact .inr ⟨.stat stat, p, hs, hp, hkey, hentry⟩
  · obtain ⟨p, hp, hkey, hentry⟩ := hfound hm
    exact .inr ⟨.sheetSection sec, p, hs, hp, hkey, hentry⟩
  · split at hm
    · obtain ⟨-, rfl⟩ := Prod.mk.inj (List.mem_singleton.mp hm)
      exact .inl ⟨_, _, .inl rfl⟩
    · cases hm
  · split at hm
    · obtain ⟨-, rfl⟩ := Prod.mk.inj (List.mem_singleton.mp hm)
      exact .inl ⟨_, _, .inr rfl⟩
    · cases hm

/-! ### Main statement -/

/-- The menu of a clean schema leads to every item, and what is offered for a property of an item
is a reference that stands for it, but for items with negative ids, for which it is plain text. A
search offers nothing else beside the editors. -/
theorem offers_of_clean (h : s.issues false = .ok []) {menu : MenuLevel}
    (hmenu : buildMenu s.stats s.sections = .ok menu) :
    (∀ item, s.Holds item →
      menu.descend [item.category, toString item.id] = propertyLevel item.subject item.id ∧
      ∀ p ∈ item.subject.offered,
        (0 ≤ item.id → s.StandsFor (item.offer p) item p) ∧
        (item.id < 0 → IsPlainText (item.offer p))) ∧
    ∀ query, ∃ found, findReferences s.stats s.sections query = .ok found ∧
      ∀ key entry, (key, entry) ∈ found →
        (∃ label icon,
          entry = .leaf label mathEditor icon ∨ entry = .leaf label diceEditor icon) ∨
        ∃ item p, s.Holds item ∧ p ∈ item.subject.offered ∧
          key = item.subject.word ++ "-" ++ toString item.id ++ "-" ++ p.word ∧
          ∃ label, entry = .leaf label (item.offer p) p.icon := by
  have hclean := issues_eq_nil_iff_isClean.mp h
  have hw : idsAreWritable s.stats s.sections = true := by
    by_contra hn
    rw [buildMenu, if_neg hn] at hmenu
    cases hmenu
  have hwritable : ∀ item, s.Holds item → Numeral.isWritable item.id = true := by
    obtain ⟨hstats, hsections⟩ := Bool.and_eq_true_iff.mp hw
    intro item hm
    cases item with
    | stat stat => exact List.all_eq_true.mp hstats stat hm
    | sheetSection sec => exact List.all_eq_true.mp hsections sec hm
  rw [buildMenu, if_pos hw] at hmenu
  obtain rfl := Except.ok.inj hmenu
  refine ⟨fun item hm ↦ ⟨descend_referenceMenu hclean hm, fun p hp ↦ ⟨?_, ?_⟩⟩, fun query ↦ ?_⟩
  · exact standsFor_offer hclean hm (hwritable item hm) hp
  · exact fun hn ↦ isPlainText_offeredText hn
  · exact ⟨_, if_pos hw, fun _ _ ↦ cases_of_mem_searchReferences⟩

/-- A schema with two stats, one with a negative id. -/
def withNegativeStat : GameSystem where
  config := { id := some 1, name := { default := "S" } }
  stats := [
    { id := 1, name := { default := "Strength" }, detail := .text none none },
    { id := -2, name := { default := "Debt" }, detail := .text none none }]

/-- A preview of that schema. -/
def previewWithNegativeStat : Preview Id where
  system := withNegativeStat
  locale := "default"
  language := .english
  evaluate := Arithmetic.evaluator
  roll := diceRoller fun _ ↦ 0

theorem buildMenu_withNegativeStat :
    buildMenu withNegativeStat.stats withNegativeStat.sections =
      .ok (referenceMenu withNegativeStat.stats withNegativeStat.sections) :=
  if_pos (by decide +kernel)

/-- What is offered for the name of the first stat is shown as that name, and what is offered for
the name of the second one is no token. -/
theorem offers_of_clean_withNegativeStat :
    withNegativeStat.issues false = .ok [] ∧
    (∃ menu, buildMenu withNegativeStat.stats withNegativeStat.sections = .ok menu ∧
      menu.descend ["stats", "1"] = propertyLevel .stat 1) ∧
    previewWithNegativeStat.render "<stat:1:name>" = pure "Strength" ∧
    spannedTokens "<stat:-2:name>" = .ok [] := by
  have h : withNegativeStat.issues false = .ok [] := rfl
  obtain ⟨hitems, -⟩ := offers_of_clean h buildMenu_withNegativeStat
  obtain ⟨hlevel, hoffers⟩ := hitems (.stat _) List.mem_cons_self
  obtain ⟨-, hother⟩ := hitems (.stat _) (List.mem_cons_of_mem _ List.mem_cons_self)
  have hfirst := (hoffers .name (by decide)).1 (by decide)
  have hsecond := (hother .name (by decide)).2 (by decide)
  exact ⟨h, ⟨_, buildMenu_withNegativeStat, hlevel⟩,
    hfirst.rendered previewWithNegativeStat rfl, hsecond.scanned⟩

/-- The menu of a clean schema offers a text for the name of a stat with a negative id that is no
token, and is shown as it stands in place of the name. -/
theorem offer_without_token :
    withNegativeStat.issues false = .ok [] ∧
    (∃ menu label icon, buildMenu withNegativeStat.stats withNegativeStat.sections = .ok menu ∧
      (menu.descend ["stats", "-2"]).lookup "name" =
        some (.leaf label "<stat:-2:name>" icon)) ∧
    spannedTokens "<stat:-2:name>" = .ok [] ∧
    previewWithNegativeStat.render "<stat:-2:name>" = pure "<stat:-2:name>" ∧
    "<stat:-2:name>" ≠ "Debt" := by
  have hplain : IsPlainText (offeredText .stat (-2) .name) := isPlainText_offeredText (by decide)
  refine ⟨rfl, ⟨_, _, _, buildMenu_withNegativeStat, rfl⟩, hplain.scanned,
    hplain.rendered previewWithNegativeStat, by decide⟩

end GameSystem
end CharacterSheet
