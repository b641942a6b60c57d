import CharacterSheet.Proofs.Schema.Faults
import CharacterSheet.Validation

/-!
# Loading validated documents

Validation reads the stats, the sections and the settings for other programs of a document as
loading does, and its issues hold the faults of those readings. Into the head it only looks for
an id and a name. Main statement: a document without issues loads, unless its head has faults.
-/

namespace CharacterSheet

open Arithmetic.Template (bind_eq_ok)

/-! ### Entries -/

/-- An entry without faults was read from an item. -/
theorem Entry.exists_read_eq_ok {α : Type} {id : α → Int} {read : Json → Checked α}
    (hr : ∀ v, (read v).Explained) {v : Json} (h : (Entry.read id read v).faults = []) :
    ∃ a, read v = .ok a := by
  apply (hr v).exists_eq_ok
  intro faults hb
  rwa [Entry.read, hb] at h

/-- A list is read when the entries for its items have no faults. -/
theorem exists_list_eq_ok {α : Type} {id : α → Int} {read : Json → Checked α}
    (hr : ∀ v, (read v).Explained) {v : Json} {entries : List (Entry α)}
    (he : Draft.readEntries id read v = some entries) (hf : ∀ e ∈ entries, e.faults = []) :
    ∃ as, Checked.list read v = .ok as := by
  unfold Draft.readEntries at he
  split at he
  · next items =>
    obtain rfl := Option.some.inj he
    apply Checked.exists_all_eq_ok
    intro x hx
    obtain ⟨i, hi, rfl⟩ := List.mem_mapIdx.mp hx
    obtain ⟨a, ha⟩ := Entry.exists_read_eq_ok hr
      (hf _ (List.mem_map_of_mem (List.getElem_mem hi)))
    exact ⟨a, by rw [ha]; rfl⟩
  · contradiction

namespace Validation

/-- Issues are not changed when they are put into words. -/
theorem eq_of_worded {xs ys : List Issue} (h : worded xs = .ok ys) : xs = ys := by
  unfold worded at h
  split at h
  · exact Except.ok.inj h
  · contradiction

/-- The faults of an entry are among its issues. -/
theorem faults_of_entryIssues {α : Type} {collection : String} {before : List (Option Int)}
    {e : Entry α} (h : worded (entryIssues collection before e) = .ok []) : e.faults = [] := by
  have he := eq_of_worded h
  exact List.map_eq_nil_iff.mp (List.append_eq_nil_iff.mp he).1

variable {d : Draft} {strict : Bool}

/-- Stats without issues have no faults. -/
theorem faults_of_allStatIssues {before : List (Option Int)} {checker : CycleChecker}
    {entries : List (Entry Stat)} (h : allStatIssues d strict before checker entries = .ok []) :
    ∀ e ∈ entries, e.faults = [] := by
  induction entries generalizing before checker with
  | nil => simp
  | cons e rest ih =>
    obtain ⟨entry, he, h⟩ := bind_eq_ok h
    -- whether the item was read or not, the others are looked at and their issues put behind
    have hrest : ∃ own next, (do
        let others ← allStatIssues d strict (before ++ [e.id]) next rest
        return entry ++ own ++ others : Findings) = .ok [] := by
      dsimp only at h
      split at h
      · obtain ⟨⟨own, next⟩, -, h⟩ := bind_eq_ok h
        exact ⟨own, next, h⟩
      · exact ⟨[], checker, h⟩
    obtain ⟨own, next, h⟩ := hrest
    obtain ⟨others, ho, h⟩ := bind_eq_ok h
    have hn := Except.ok.inj h
    simp only [List.append_eq_nil_iff] at hn
    obtain ⟨⟨rfl, -⟩, rfl⟩ := hn
    exact List.forall_mem_cons.mpr ⟨faults_of_entryIssues he, ih ho⟩

/-- Sections without issues have no faults. -/
theorem faults_of_allSectionIssues {before : List (Option Int)}
    {entries : List (Entry SheetSection)}
    (h : allSectionIssues d strict before entries = .ok []) : ∀ e ∈ entries, e.faults = [] := by
  induction entries generalizing before with
  | nil => simp
  | cons e rest ih =>
    obtain ⟨entry, he, h⟩ := bind_eq_ok h
    have hrest : ∃ own, (do
        let others ← allSectionIssues d strict (before ++ [e.id]) rest
        return entry ++ own ++ others : Findings) = .ok [] := by
      dsimp only at h
      split at h
      · obtain ⟨own, -, h⟩ := bind_eq_ok h
        exact ⟨own, h⟩
      · exact ⟨[], h⟩
    obtain ⟨own, h⟩ := hrest
    obtain ⟨others, ho, h⟩ := bind_eq_ok h
    have hn := Except.ok.inj h
    simp only [List.append_eq_nil_iff] at hn
    obtain ⟨⟨rfl, -⟩, rfl⟩ := hn
    exact List.forall_mem_cons.mpr ⟨faults_of_entryIssues he, ih ho⟩

/-- Settings without issues were read. -/
theorem exists_of_integrationIssues {stats : List Stat} {read : Checked (Option Integrations)}
    (hr : read.Explained) (h : integrationIssues stats strict read = .ok []) :
    ∃ i, read = .ok i := by
  apply hr.exists_eq_ok
  rintro faults rfl
  exact List.map_eq_nil_iff.mp (Except.ok.inj h)

/-- What a draft without issues has: a head, and lists and settings without issues. -/
theorem parts_of_draftIssues (h : draftIssues d strict = .ok []) :
    d.head.isSome ∧ d.stats.isSome ∧ d.sections.isSome ∧
      allStatIssues d strict [] ⟨d.readStats, [], []⟩ (d.stats.getD []) = .ok [] ∧
      allSectionIssues d strict [] (d.sections.getD []) = .ok [] ∧
      integrationIssues d.readStats strict d.integrations = .ok [] := by
  obtain ⟨stats, hs, h⟩ := bind_eq_ok h
  obtain ⟨sections, ht, h⟩ := bind_eq_ok h
  obtain ⟨integrations, hi, h⟩ := bind_eq_ok h
  have hn := Except.ok.inj h
  simp only [List.append_eq_nil_iff] at hn
  obtain ⟨⟨⟨⟨⟨hh, hl⟩, hm⟩, rfl⟩, rfl⟩, rfl⟩ := hn
  refine ⟨?_, ?_, ?_, hs, ht, hi⟩
  · cases hd : d.head with
    | none => simp [hd, headIssues] at hh
    | some head => rfl
  · cases hd : d.stats with
    | none => simp [hd, issueIf] at hl
    | some entries => rfl
  · cases hd : d.sections with
    | none => simp [hd, issueIf] at hm
    | some entries => rfl

end Validation

/-! ### Fields -/

/-- A list that was read is the field of its record. -/
theorem fieldOr_list {α : Type} {read : Json → Checked α} {fs : Json.Fields} {key : String}
    {as : List α} (h : Checked.list read ((Json.Fields.get? key fs).getD .null) = .ok as) :
    Checked.fieldOr fs key [] (Checked.list read) = .ok as := by
  cases hf : Json.Fields.get? key fs with
  | none => simp [hf, Checked.list, Checked.fail] at h
  | some v =>
    rw [hf] at h
    change Checked.list read v = .ok as at h
    simp only [Checked.fieldOr, hf, h, Checked.inside]

/-- Settings that were read are the field of their record. -/
theorem fieldOr_nullable {α : Type} {read : Json → Checked α} {fs : Json.Fields}
    {key : String} {found : Option α}
    (h : Checked.nullable read ((Json.Fields.get? key fs).getD .null) = .ok found) :
    Checked.fieldOr fs key none (Checked.nullable read) = .ok found := by
  cases hf : Json.Fields.get? key fs with
  | none =>
    rw [hf] at h
    simpa [Checked.fieldOr, hf, Checked.nullable] using h
  | some v =>
    rw [hf] at h
    change Checked.nullable read v = .ok found at h
    simp only [Checked.fieldOr, hf, h, Checked.inside]

/-! ### Main statement -/

/-- A document without issues has a head, and it loads exactly when the head can be read: what
the system is then, and what the faults are otherwise, is what the reading of the head tells. -/
theorem Json.loads_of_no_issues {v : Json} {strict : Bool} (h : v.schemaIssues strict = .ok []) :
    ∃ config, v.get? "config" = some config ∧
      (∀ c, SystemConfig.read config = .ok c → ∃ s, GameSystem.read v = .ok s ∧ s.config = c) ∧
      ∀ faults, SystemConfig.read config = .bad faults →
        GameSystem.read v = .bad (faults.map (·.inside (.field "config"))) := by
  unfold Json.schemaIssues at h
  cases hv : v.fields? with
  | none => simp [Draft.read, hv] at h
  | some fs =>
    simp only [Draft.read, hv, Option.map_some] at h
    obtain ⟨hh, hs, ht, hsi, hti, hii⟩ := Validation.parts_of_draftIssues h
    have hfield (key : String) : v.get? key = Json.Fields.get? key fs := by
      rw [Json.get?, hv, Option.bind_some]
    -- the head is an object, so it is there
    obtain ⟨head, hhead⟩ := Option.isSome_iff_exists.mp hh
    have hc : ∃ config, Json.Fields.get? "config" fs = some config := by
      cases hf : Json.Fields.get? "config" fs with
      | none => simp [Draft.readHead, hf, Json.fields?] at hhead
      | some config => exact ⟨config, rfl⟩
    obtain ⟨config, hc⟩ := hc
    obtain ⟨stats, he⟩ := Option.isSome_iff_exists.mp hs
    obtain ⟨sections, hg⟩ := Option.isSome_iff_exists.mp ht
    dsimp only at he hg
    simp only [he, hg, Option.getD_some] at hsi hti
    obtain ⟨readStats, hrs⟩ := exists_list_eq_ok Stat.explained_read he
      (Validation.faults_of_allStatIssues hsi)
    obtain ⟨readSections, hrt⟩ := exists_list_eq_ok SheetSection.explained_read hg
      (Validation.faults_of_allSectionIssues hti)
    obtain ⟨integrations, hri⟩ := Validation.exists_of_integrationIssues
      (Checked.explained_nullable Integrations.explained_read _) hii
    have hread : GameSystem.read v =
        (fun c ↦ ⟨c, readStats, readSections, integrations⟩) <$>
          Checked.inside (.field "config") (SystemConfig.read config) := by
      simp only [GameSystem.read, Checked.record, hv, fieldOr_list hrs, fieldOr_list hrt,
        fieldOr_nullable hri]
      simp only [Checked.fieldOr, hc]
      cases SystemConfig.read config <;> rfl
    refine ⟨config, (hfield "config").trans hc, ?_, ?_⟩
    · intro c hok
      rw [hread, hok]
      exact ⟨_, rfl, rfl⟩
    · intro faults hbad
      rw [hread, hbad]
      rfl

/-- A document with a given id, a stat and a section. -/
def sampleDocument (id : Json) : Json :=
  .object [("config", .object [("id", id), ("name", .object [("default", .string "S")])]),
    ("stats", .array [.object [("id", .number (.int 1)), ("type", .string "numeric"),
      ("name", .object [("default", .string "A")]), ("min", .number (.int 2))]]),
    ("sections", .array [.object [("id", .number (.int 1)),
      ("name", .object [("default", .string "P")]),
      ("preview", .object [("type", .string "string")])]])]

/-- An id that is a text of digits is read when the document loads. -/
theorem Json.loads_of_no_issues_digits :
    (sampleDocument (.string "7")).schemaIssues false = .ok [] ∧
      ∃ s, GameSystem.read (sampleDocument (.string "7")) = .ok s ∧
        s.config = ⟨some 7, { default := "S" }, {}⟩ := by
  have h : (sampleDocument (.string "7")).schemaIssues false = .ok [] := rfl
  obtain ⟨config, hc, hok, -⟩ := Json.loads_of_no_issues h
  obtain rfl := Option.some.inj hc
  exact ⟨h, hok _ rfl⟩

/-- An id that is any other text is no issue, but the document does not load. -/
theorem Json.no_issues_but_unreadable :
    (sampleDocument (.string "x")).schemaIssues false = .ok [] ∧
      GameSystem.read (sampleDocument (.string "x")) =
        .bad [⟨[.field "config", .field "id"], .unreadableInteger⟩] := ⟨rfl, rfl⟩

end CharacterSheet
