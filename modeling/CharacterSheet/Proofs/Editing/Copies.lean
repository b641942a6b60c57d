import CharacterSheet.Proofs.Editing.Items
import CharacterSheet.Proofs.Schema.Rereading

/-!
# Copies of stats

A copy of a stat is read from the document of the stat, in which the id and the default name are
others. A document shows a number that is not finite as null, and a field that is null is not shown
again. Main statement: a copy is put behind its original, but in front of all stats when the index
is the last one counted from the end; it is what is read from the edited document, and it has that
document exactly when no variant of a name is a number that is not finite.
-/

namespace CharacterSheet

open Checked
open Json (Fields)

/-! ### Copies and their documents -/

/-- The default name of a copy. -/
def Stat.copyName (s : Stat) : String :=
  (if s.name.default.isEmpty then "Stat" else s.name.default) ++ " (Copy)"

/-- The texts of a stat that have variants: its name, and the names of its own options. -/
def Stat.names (s : Stat) : List Localization := s.name :: (s.ownOptions?.getD []).map (·.name)

/-- No variant is kept under the key of the default, as is so for every text that was read. -/
def Localization.HasOwnKeys (l : Localization) : Prop := ∀ f ∈ l.variants, f.1 ≠ "default"

/-- No variant is a number that is not finite. -/
def Localization.IsShown (l : Localization) : Prop :=
  ∀ f ∈ l.variants, ∀ n, f.2 = .number n → n.isFinite = true

/-- The fields of a stat with another id and another default name. -/
def Json.Fields.renamed (id : Int) (name : String) (fs : Fields) : Fields :=
  let shown := ((fs.get? "name").bind Json.fields?).getD []
  (fs.set "id" (.int id)).set "name" (.object (shown.set "default" (.string name)))

/-- An option whose name is as a document shows it. -/
def EnumOption.written (o : EnumOption) : EnumOption := { o with name := o.name.written }

/-! ### Values as documents show them -/

/-- A value is as a document shows it. -/
structure Json.IsWritten (v : Json) : Prop where
  plain : v.isPlain = true
  again : v.written = v

namespace Json

theorem writtenFields_eq (fs : Fields) : writtenFields fs = fs.map fun f ↦ (f.1, f.2.written) := by
  induction fs with
  | nil => rfl
  | cons f fs ih => rw [writtenFields, ih]; rfl

theorem writtenFields_of_isWritten {fs : Fields} (h : ∀ f ∈ fs, f.2.IsWritten) :
    writtenFields fs = fs := by
  rw [writtenFields_eq]
  exact (List.map_congr_left fun f hf ↦ by rw [(h f hf).again]).trans (List.map_id' fs)

theorem isWritten_object {fs : Fields} (h : ∀ f ∈ fs, f.2.IsWritten) : IsWritten (.object fs) where
  plain := arePlainFields_iff.mpr fun f hf ↦ (h f hf).plain
  again := congrArg _ (writtenFields_of_isWritten h)

theorem isWritten_array {xs : List Json} (h : ∀ x ∈ xs, x.IsWritten) : IsWritten (.array xs) where
  plain := arePlainItems_iff.mpr fun x hx ↦ (h x hx).plain
  again := by
    have hw : writtenItems xs = xs := by
      induction xs with
      | nil => rfl
      | cons x xs ih =>
        obtain ⟨hx, hxs⟩ := List.forall_mem_cons.mp h
        rw [writtenItems, hx.again, ih hxs]
    exact congrArg _ hw

mutual

/-- What a document shows it shows so again. -/
theorem isWritten_written (v : Json) : v.written.IsWritten := by
  match v with
  | .null | .bool _ | .string _ | .unpaired _ => exact ⟨rfl, rfl⟩
  | .number n =>
    rw [written]
    split
    · next hn => exact ⟨rfl, by rw [written, if_pos hn]⟩
    · exact ⟨rfl, rfl⟩
  | .array xs => exact isWritten_array (isWritten_writtenItems xs)
  | .object fs => exact isWritten_object (isWritten_writtenFields fs)
  | .table entries =>
    exact isWritten_object (Fields.forall_mem_ofEntries (isWritten_writtenEntries entries))

theorem isWritten_writtenItems (xs : List Json) : ∀ x ∈ writtenItems xs, x.IsWritten := by
  match xs with
  | [] => exact fun _ ↦ nofun
  | x :: xs => exact List.forall_mem_cons.mpr ⟨isWritten_written x, isWritten_writtenItems xs⟩

theorem isWritten_writtenFields (fs : List (String × Json)) :
    ∀ f ∈ writtenFields fs, f.2.IsWritten := by
  match fs with
  | [] => exact fun _ ↦ nofun
  | (k, v) :: fs =>
    exact List.forall_mem_cons.mpr ⟨isWritten_written v, isWritten_writtenFields fs⟩

theorem isWritten_writtenEntries (es : List (Key × Json)) :
    ∀ e ∈ writtenEntries es, e.2.IsWritten := by
  match es with
  | [] => exact fun _ ↦ nofun
  | (k, v) :: es =>
    exact List.forall_mem_cons.mpr ⟨isWritten_written v, isWritten_writtenEntries es⟩

end

/-- A value is shown as null when it is null or a number that is not finite. -/
theorem isNull_written {v : Json} (hv : v.isNull = false) :
    v.written.isNull = false ↔ ∀ n, v = .number n → n.isFinite = true := by
  cases v with
  | null => cases hv
  | number n =>
    rw [written]
    cases hn : n.isFinite with
    | true => exact iff_of_true rfl fun m hm ↦ by cases hm; exact hn
    | false => exact iff_of_false nofun fun h ↦ by simpa [hn] using h n rfl
  | _ => exact iff_of_true rfl fun _ ↦ nofun

end Json

namespace Extent

/-- A field that is shown is one that is not null. -/
theorem mem_kept_iff {fs : Fields} {key : String} {v : Json} :
    (key, v) ∈ brief.kept fs ↔ ∃ w, (key, w) ∈ fs ∧ w.isNull = false ∧ w.written = v := by
  change _ ∈ Json.writtenFields fs.present ↔ _
  rw [Json.writtenFields_eq]
  simp [Json.Fields.present, and_assoc]

theorem isWritten_of_mem_kept {fs : Fields} : ∀ f ∈ brief.kept fs, f.2.IsWritten :=
  Json.isWritten_writtenFields fs.present

/-- Fields that were shown are shown again but for those that are shown as null. -/
theorem kept_kept (fs : Fields) : brief.kept (brief.kept fs) = (brief.kept fs).present :=
  Json.writtenFields_of_isWritten fun f hf ↦ isWritten_of_mem_kept f (List.mem_of_mem_filter hf)

end Extent

/-- A text as a document shows it is shown so again exactly when no variant is shown as null. -/
theorem Localization.kept_variants_written {l : Localization} :
    Extent.brief.kept l.written.variants = Extent.brief.kept l.variants ↔ l.IsShown := by
  have hnull : (∀ f ∈ Extent.brief.kept l.variants, f.2.isNull = false) ↔ l.IsShown := by
    constructor
    · rintro h ⟨key, v⟩ hf n rfl
      exact (Json.isNull_written rfl).mp
        (h (key, _) (Extent.mem_kept_iff.mpr ⟨_, hf, rfl, rfl⟩)) n rfl
    · rintro h ⟨key, v⟩ hf
      obtain ⟨w, hw, hn, rfl⟩ := Extent.mem_kept_iff.mp hf
      exact (Json.isNull_written hn).mpr (h (key, w) hw)
  rw [← hnull]
  change Extent.brief.kept (Extent.brief.kept l.variants) = _ ↔ _
  rw [Extent.kept_kept, Json.Fields.present, List.filter_eq_self]
  simp

/-! ### Reading the edited document -/

/-- The keys of a text that was read are its own. -/
theorem Localization.hasOwnKeys_of_read {v : Json} {l : Localization}
    (h : Localization.read v = .ok l) : l.HasOwnKeys := by
  obtain ⟨fs, -, -, -, ho⟩ := read_eq_ok_iff.mp h
  intro f hf
  rw [ho, others] at hf
  obtain ⟨g, hg, rfl⟩ := List.mem_map.mp hf
  simpa using (List.mem_filter.mp hg).2

/-- A text is read from its document, with any default, as that shows it. -/
theorem Localization.read_shown {l : Localization} (h : l.HasOwnKeys) (default : String) :
    Localization.read (.object (("default", .string default) :: Extent.brief.kept l.variants)) =
      .ok { l.written with default } := by
  refine read_eq_ok_iff.mpr ⟨_, rfl, hasTextKeys_object _, fieldOr_of_get? rfl rfl, ?_⟩
  have hkeys : (Extent.brief.kept l.variants).filter (fun f ↦ !(["default"].contains f.1)) =
      Extent.brief.kept l.variants := by
    refine List.filter_eq_self.mpr ?_
    rintro ⟨key, v⟩ hf
    obtain ⟨w, hw, -⟩ := Extent.mem_kept_iff.mp hf
    simpa using h (key, w) hw
  have hplain : Json.arePlainFields (Extent.brief.kept l.variants) = true :=
    Json.arePlainFields_iff.mpr fun f hf ↦ (Extent.isWritten_of_mem_kept f hf).plain
  change _ = List.map _ (List.filter _ (Extent.brief.kept l.variants))
  rw [hkeys]
  exact (Kept.map_settled hplain).symm

theorem EnumOption.read_written {o : EnumOption} (h : o.name.HasOwnKeys) :
    EnumOption.read (o.toJson .brief) = .ok o.written := by
  have hname : Localization.read (o.name.toJson .brief) = .ok o.name.written :=
    Localization.read_shown h o.name.default
  refine read_eq_ok_iff.mpr ⟨_, rfl, required_of_get? rfl rfl, fieldOr_of_get? rfl hname,
    fieldOr_text ?_, fieldOr_integers ?_,
    fieldOr_nullable_self (fun _ _ ↦ list_ofList_self Replacement.read_toJson) (fun _ ↦ nofun) ?_⟩
  all_goals simp [written]

theorem OptionSource.read_written {o : OptionSource}
    (h : ∀ options, o = .own options → ∀ a ∈ options, a.name.HasOwnKeys) :
    OptionSource.read (o.toJson .brief) = .ok (o.mapOptions EnumOption.written) := by
  cases o with
  | own options =>
    exact read_eq_ok_iff.mpr
      (.inl ⟨_, list_ofList fun a ha ↦ EnumOption.read_written (h options rfl a ha), rfl⟩)
  | sharedWith id => exact read_eq_ok_iff.mpr (.inr ⟨_, id, rfl, rfl, rfl⟩)

namespace Stat
variable {s : Stat}

/-- A stat with options of its own is an enumeration that has them for its source. -/
theorem optionSource?_of_ownOptions? {options : List EnumOption} (h : options ∈ s.ownOptions?) :
    .own options ∈ s.optionSource? := by
  obtain ⟨id, name, emoji, pages, detail⟩ := s
  cases detail with
  | enumeration source rolls =>
    cases source <;> cases h
    rfl
  | _ => cases h

/-- The names of a stat that was read have keys of their own. -/
theorem hasOwnKeys_of_read {v : Json} (h : Stat.read v = .ok s) : ∀ l ∈ s.names, l.HasOwnKeys := by
  have hfield {fs : Fields} {l : Localization}
      (hl : fieldOr fs "name" {} Localization.read = .ok l) : l.HasOwnKeys := by
    rcases fieldOr_eq_ok_iff.mp hl with ⟨w, -, hw⟩ | ⟨-, rfl⟩
    · exact Localization.hasOwnKeys_of_read hw
    · exact fun _ ↦ nofun
  obtain ⟨fs, kind, word, -, -, -, h⟩ := read_eq_ok_iff.mp h
  obtain ⟨-, hname, -, -, hdetail⟩ := readKind_eq_ok_iff.mp h
  refine List.forall_mem_cons.mpr ⟨hfield hname, fun l hl ↦ ?_⟩
  obtain ⟨o, ho, rfl⟩ := List.mem_map.mp hl
  cases hown : s.ownOptions? with
  | none => simp [hown] at ho
  | some options =>
    rw [hown, Option.getD_some] at ho
    rcases fieldOr_eq_ok_iff.mp (options_of_read hdetail (optionSource?_of_ownOptions? hown)) with
      ⟨w, -, hw⟩ | ⟨-, he⟩
    · rcases OptionSource.read_eq_ok_iff.mp hw with ⟨found, hf, he⟩ | ⟨_, _, -, -, he⟩
      · cases he
        obtain ⟨items, rfl, hi⟩ := list_eq_ok_iff.mp hf
        obtain ⟨u, -, hu⟩ := exists_mem_of_forall₂ hi ho
        obtain ⟨gs, -, -, hname, -⟩ := EnumOption.read_eq_ok_iff.mp hu
        exact hfield hname
      · cases he
    · cases he
      cases ho

/-- A copy with the texts of its document is the stat with its options as that shows them. -/
theorem copyAs_eq (s : Stat) (id : Int) :
    s.copyAs id =
      { s with
        id
        name := { s.name.written with default := s.copyName }
        detail := s.detail.mapOptions EnumOption.written } := by
  obtain ⟨own, name, emoji, pages, detail⟩ := s
  cases detail with
  | enumeration options rolls => cases options <;> rfl
  | _ => rfl

/-- The edited document of a stat. -/
theorem object_renamed {fs : Fields} (hfs : s.toJson .brief = .object fs) (id : Int)
    (name : String) :
    .object (fs.renamed id name) = s.documentWith id
      (.object (("default", .string name) :: Extent.brief.kept s.name.variants)) := by
  cases hfs
  rfl

/-- A copy is read from the edited document of its original. -/
theorem read_renamed {fs : Fields} (hfs : s.toJson .brief = .object fs)
    (h : ∀ l ∈ s.names, l.HasOwnKeys) (id : Int) :
    Stat.read (.object (fs.renamed id s.copyName)) = .ok (s.copyAs id) := by
  obtain ⟨hname, hoptions⟩ := List.forall_mem_cons.mp h
  rw [object_renamed hfs, copyAs_eq]
  refine read_documentWith id (Localization.read_shown hname s.copyName) fun options ho ↦ ?_
  refine OptionSource.read_written fun own he a ha ↦ hoptions a.name ?_
  obtain ⟨rolls, hd⟩ := detail_of_optionSource? ho
  rw [he] at hd
  rw [ownOptions?, hd]
  exact List.mem_map_of_mem ha

/-! ### The document of a copy -/

end Stat

theorem EnumOption.toJson_written_iff {o : EnumOption} :
    o.written.toJson .brief = o.toJson .brief ↔ o.name.IsShown := by
  rw [← Localization.kept_variants_written]
  constructor
  · intro h
    have hname : o.written.name.toJson .brief = o.name.toJson .brief := by
      simpa [toJson, written] using h
    have hboth : o.written.name.default = o.name.default ∧
        Extent.brief.kept o.written.name.variants = Extent.brief.kept o.name.variants := by
      simpa [Localization.toJson] using hname
    exact hboth.2
  · intro h
    simp only [toJson, written, Localization.toJson, h]
    rfl

theorem StatDetail.toFields_written_iff {s : Stat} :
    (s.detail.mapOptions EnumOption.written).toFields .brief = s.detail.toFields .brief ↔
      ∀ l ∈ (s.ownOptions?.getD []).map (·.name), l.IsShown := by
  obtain ⟨id, name, emoji, pages, detail⟩ := s
  cases detail with
  | enumeration source rolls =>
    cases source with
    | own options =>
      rw [List.forall_mem_map]
      simp [mapOptions, OptionSource.mapOptions, toFields, OptionSource.toJson, Json.ofList,
        Stat.ownOptions?, EnumOption.toJson_written_iff]
    | sharedWith other => exact iff_of_true rfl (by simp [Stat.ownOptions?])
  | _ => exact iff_of_true rfl (by simp [Stat.ownOptions?])

/-- A copy has the edited document of its original exactly when no variant of a name is a number
that is not finite. -/
theorem Stat.toJson_copyAs_iff {s : Stat} {fs : Fields} (hfs : s.toJson .brief = .object fs)
    (id : Int) :
    (s.copyAs id).toJson .brief = .object (fs.renamed id s.copyName) ↔
      ∀ l ∈ s.names, l.IsShown := by
  have hkind : (s.copyAs id).kind = s.kind := by
    rw [copyAs_eq, kind, kind]
    cases s.detail <;> rfl
  have hdetail : (s.copyAs id).detail = s.detail.mapOptions EnumOption.written := by
    rw [copyAs_eq]
  have hshown : (s.copyAs id).toJson .brief = (s.copyAs id).documentWith id
      (.object (("default", .string s.copyName) :: Extent.brief.kept s.name.written.variants)) :=
    rfl
  have hsame : (s.copyAs id).emoji = s.emoji ∧ (s.copyAs id).editPages = s.editPages := ⟨rfl, rfl⟩
  rw [object_renamed hfs, names, List.forall_mem_cons, ← StatDetail.toFields_written_iff,
    ← Localization.kept_variants_written, hshown, documentWith, documentWith, hkind, hdetail,
    hsame.1, hsame.2]
  simp

/-! ### The place of a copy -/

/-- The place behind an index is the one behind the item there, but the front for the last index
that counts from the end. -/
theorem placeBehind_eq {length place : Nat} {index : Int} (h : placeOf? length index = some place) :
    placeBehind length index = if index = -1 then 0 else place + 1 := by
  unfold placeOf? at h
  unfold placeBehind
  split at h <;> split at h <;> simp_all <;> split <;> split <;> omega

section
variable {s next : GameSystem} {index : Int}

/-- A list of stats with a copy put right behind the original, which stands at an index. -/
def PutBehind (stats : List Stat) (index : Int) (original copy : Stat) (found : List Stat) : Prop :=
  ∃ front back, stats = front ++ original :: back ∧
    placeOf? stats.length index = some front.length ∧ found = front ++ original :: copy :: back

/-- A copy is put behind its original, and in front of all stats for the last index that counts from
the end. -/
theorem exists_copy_of_duplicateStat (h : s.duplicateStat index = .ok next) :
    ∃ stat, s.statAt? index = some stat ∧
      (index ≠ -1 → PutBehind s.stats index stat (stat.copyAs (nextId s.statIds)) next.stats) ∧
      (index = -1 → next.stats = stat.copyAs (nextId s.statIds) :: s.stats) ∧
      next = { s with stats := next.stats } := by
  unfold GameSystem.duplicateStat at h
  split at h
  · next stat hs =>
    cases h
    obtain ⟨place, hp, hstat⟩ := Option.bind_eq_some_iff.mp hs
    obtain ⟨hlt, rfl⟩ := List.getElem?_eq_some_iff.mp hstat
    have hfront : (s.stats.take place).length = place := List.length_take_of_le hlt.le
    have hstats : s.stats.take place ++ s.stats[place] :: s.stats.drop (place + 1) = s.stats := by
      rw [← List.drop_eq_getElem_cons hlt, List.take_append_drop]
    refine ⟨_, hs, fun hi ↦ ?_, fun hi ↦ ?_, rfl⟩
    · refine ⟨_, _, hstats.symm, by rw [hp, hfront], ?_⟩
      have hput (copy : Stat) := insertIdx_length_append (s.stats.take place ++ [s.stats[place]])
        (s.stats.drop (place + 1)) copy
      simp only [List.length_append, hfront, List.length_singleton, List.append_assoc,
        List.singleton_append, hstats] at hput
      simp only [placeBehind_eq hp, if_neg hi, hput]
      rfl
    · simp only [placeBehind_eq hp, if_pos hi, List.insertIdx_zero]
      rfl
  · cases h

/-- A copy is put right behind its original, unless the index is the last one that counts from the
end: then it comes in front of all stats. It is what is read from the document of its original with
the next id and the name of a copy, and it has that document exactly when no variant of a name of
the original is a number that is not finite. -/
theorem GameSystem.copies_of_duplicateStat (h : s.duplicateStat index = .ok next) :
    ∃ (stat copy : Stat) (fs : Fields), s.statAt? index = some stat ∧
      (index ≠ -1 → PutBehind s.stats index stat copy next.stats) ∧
      (index = -1 → next.stats = copy :: s.stats) ∧ next = { s with stats := next.stats } ∧
      stat.toJson .brief = .object fs ∧
      ((∀ l ∈ stat.names, l.HasOwnKeys) →
        Stat.read (.object (fs.renamed (nextId s.statIds) stat.copyName)) = .ok copy) ∧
      (copy.toJson .brief = .object (fs.renamed (nextId s.statIds) stat.copyName) ↔
        ∀ l ∈ stat.names, l.IsShown) := by
  obtain ⟨stat, hs, hbehind, hfront, hnext⟩ := exists_copy_of_duplicateStat h
  exact ⟨stat, _, _, hs, hbehind, hfront, hnext, rfl, fun hk ↦ stat.read_renamed rfl hk _,
    stat.toJson_copyAs_iff rfl _⟩

end

/-- Two stats, the second an enumeration whose name and whose option have variants. -/
def twoStats : GameSystem where
  stats := [
    { id := 1, name := { default := "A" }, detail := .boolean {} },
    { id := 2, name := { default := "B", variants := [("fr", .string "C"), ("ko", .null)] },
      detail := .enumeration
        (.own [{ value := 1, name := { default := "x", variants := [("fr", .string "y")] } }])
        {} }]

/-- The second of two stats is copied behind itself, with its variants and its option. -/
theorem GameSystem.copies_of_duplicateStat_second :
    ∃ (next : GameSystem) (stat copy : Stat) (fs : Fields), twoStats.duplicateStat 1 = .ok next ∧
      PutBehind twoStats.stats 1 stat copy next.stats ∧ stat.toJson .brief = .object fs ∧
      Stat.read (.object (fs.renamed 3 "B (Copy)")) = .ok copy ∧
      copy.toJson .brief = .object (fs.renamed 3 "B (Copy)") := by
  obtain ⟨next, h⟩ : ∃ next, twoStats.duplicateStat 1 = .ok next := ⟨_, rfl⟩
  obtain ⟨stat, copy, fs, hs, hbehind, -, -, hfs, hread, hshown⟩ := copies_of_duplicateStat h
  have hnames : ∀ l ∈ stat.names, l.HasOwnKeys ∧ l.IsShown := by
    cases hs
    simp only [Stat.names, Stat.ownOptions?, Localization.HasOwnKeys, Localization.IsShown,
      Option.getD_some, List.map_cons, List.map_nil, List.forall_mem_cons]
    simp
  have hname : stat.copyName = "B (Copy)" := by
    cases hs
    decide
  have hid : nextId twoStats.statIds = 3 := by decide
  rw [hname, hid] at hread hshown
  exact ⟨next, stat, copy, fs, h, hbehind (by decide), hfs, hread fun l hl ↦ (hnames l hl).1,
    hshown.mpr fun l hl ↦ (hnames l hl).2⟩

/-- The last stat, counted from the end, is copied to the front of the list, and the copy stands
behind no stat. -/
theorem GameSystem.copy_in_front :
    ∃ next, twoStats.duplicateStat (-1) = .ok next ∧ next.statIds = [3, 1, 2] ∧
      ∀ stat copy, ¬ PutBehind twoStats.stats (-1) stat copy next.stats := by
  refine ⟨_, rfl, by decide, ?_⟩
  rintro stat copy ⟨front, back, hs, -, hn⟩
  -- the lists would begin with the same stat
  have hhead (rest : List Stat) : (front ++ stat :: rest).head? = (front ++ [stat]).head? := by
    cases front <;> rfl
  have hbefore : some 1 = (front ++ [stat]).head?.map (·.id) := by
    rw [← hhead back, ← hs]
    rfl
  have hafter : some 3 = (front ++ [stat]).head?.map (·.id) := by
    rw [← hhead (copy :: back), ← hn]
    rfl
  exact absurd (hbefore.trans hafter.symm) (by decide)

end CharacterSheet
