import CharacterSheet.Proofs.Schema.Localizations
import CharacterSheet.Proofs.Schema.Places
import CharacterSheet.Proofs.Validation.Unseen

/-!
# Issues of what lasts

Validation looks at no field that is kept as null, but for the texts of sections, where null is
shown as a word without references. So a schema has the issues of what lasts of it. Main statement:
the document of a schema that was read is read again as a schema with the same document and the same
issues, and shows what the records of its source kept.
-/

namespace CharacterSheet
open Validation

/-! ### Stats -/

/-- Validation does not see what lasts of stats from the stats. -/
theorem Stat.unseen_lasting : Stat.Unseen Stat.lasting EnumOption.lasting where
  id _ := rfl
  name _ := rfl
  editPages _ := rfl
  detail s := s.detail.mapOptions_lasting.symm
  value _ := rfl
  optionName _ := rfl

/-! ### Issues of sections -/

/-- Items without findings may be left out. -/
theorem flatten_mapM_filter {α β ε : Type} {f : α → Except ε (List β)} {p : α → Bool}
    {as : List α} (h : ∀ a ∈ as, p a = false → f a = .ok []) :
    List.flatten <$> (as.filter p).mapM f = List.flatten <$> as.mapM f := by
  induction as with
  | nil => rfl
  | cons a as ih =>
    obtain ⟨ha, has⟩ := List.forall_mem_cons.mp h
    rw [List.filter_cons, List.mapM_cons]
    cases hp : p a with
    | true =>
      have := congrArg (fun m ↦ f a >>= fun bs ↦ (bs ++ ·) <$> m) (ih has)
      simpa [map_bind] using this
    | false =>
      rw [ha hp, if_neg Bool.false_ne_true, ih has]
      cases as.mapM f <;> rfl

theorem Scan.fromRun_of_notMem {run cs : List Char} (h : '<' ∉ cs) :
    fromRun run cs = afterLiteral (cs.reverse ++ run) ⟨[], none⟩ := by
  induction cs generalizing run with
  | nil => rw [fromRun, List.reverse_nil, List.nil_append]
  | cons c cs ih =>
    obtain ⟨hc, hcs⟩ := not_or.mp fun hm ↦ h (List.mem_cons.mpr hm)
    rw [fromRun, if_neg (Ne.symm hc), ih hcs, List.reverse_cons, List.append_assoc]
    rfl

/-- There are no tokens in a text without opening brackets. -/
theorem tokens_of_notMem {text : String} (h : '<' ∉ text.toList) : tokens text = .ok [] := by
  rw [tokens, segments, scan, Scan.fromRun_of_notMem h, Scan.afterLiteral]
  split <;> rfl

/-- The integers in what lasts of a text are those in the text. -/
theorem Localization.isWritable_lasting {l : Localization} :
    l.lasting.IsWritable ↔ l.IsWritable := by
  refine ⟨fun h variant hm n hn ↦ h variant (List.mem_filter.mpr ⟨hm, ?_⟩) n hn,
    fun h variant hm ↦ h variant (List.mem_of_mem_filter hm)⟩
  obtain ⟨locale, v⟩ := variant
  cases v with
  | null => cases hn
  | _ => rfl

/-- Texts that are shown for null may be left out when nothing is found in them. -/
theorem flatten_mapM_translations {β : Type}
    {f : String × String → Except NumeralError (List β)}
    (h : ∀ locale, f (locale, Json.null.display) = .ok []) (l : Localization) :
    (l.lasting.translations >>= fun texts ↦
        List.flatten <$> (("default", l.default) :: texts).mapM f) =
      l.translations >>= fun texts ↦ List.flatten <$> (("default", l.default) :: texts).mapM f := by
  by_cases hw : l.IsWritable
  · have hs : List.flatten <$> l.lasting.displayed.mapM f =
        List.flatten <$> l.displayed.mapM f := by
      rw [Localization.displayed, Localization.displayed, List.mapM_map, List.mapM_map]
      refine flatten_mapM_filter fun v _ hv ↦ ?_
      obtain ⟨locale, w⟩ := v
      cases w with
      | null => exact h locale
      | _ => cases hv
    rw [Localization.translations_eq_ok_iff.mpr ⟨hw, rfl⟩,
      Localization.translations_eq_ok_iff.mpr ⟨Localization.isWritable_lasting.mpr hw, rfl⟩]
    have := congrArg (fun m ↦ f ("default", l.default) >>= fun bs ↦ (bs ++ ·) <$> m) hs
    change List.flatten <$> (("default", l.default) :: l.lasting.displayed).mapM f =
      List.flatten <$> (("default", l.default) :: l.displayed).mapM f
    simpa [map_bind] using this
  · rw [Localization.translations_of_not_isWritable hw,
      Localization.translations_of_not_isWritable (Localization.isWritable_lasting.not.mpr hw)]

section
variable (stats : List Stat)

theorem strictSectionIssues_lasting (sections : List Int) (path : String) (a : SheetSection) :
    strictSectionIssues stats sections path a.lasting =
      strictSectionIssues stats sections path a := by
  have ht : tokens Json.null.display = .ok [] := tokens_of_notMem (by decide)
  rw [strictSectionIssues, strictSectionIssues]
  refine bind_congr fun pages ↦ ?_
  let found (shown : String × String) : Findings := (tokens shown.2).map (·.flatMap
    (previewIssues stats sections (path ++ ".preview.content." ++ shown.1)))
  have hf (locale : String) : found (locale, Json.null.display) = .ok [] := by
    simp only [found, ht]
    rfl
  have hall (l : Localization) :
      (do
        let texts ← l.translations
        let issues ← (("default", a.preview.content.default) :: texts).mapM found
        pure (pages ++ issues.flatten)) =
      (pages ++ ·) <$> (l.translations >>= fun texts ↦
        List.flatten <$> (("default", a.preview.content.default) :: texts).mapM found) := by
    simp
  exact (hall _).trans
    ((congrArg _ (flatten_mapM_translations hf a.preview.content)).trans (hall _).symm)

/-! ### Issues of settings for other programs -/

theorem strictIntegrationIssues_lasting (i : Integrations) :
    strictIntegrationIssues stats i.lasting = strictIntegrationIssues stats i := by
  have hm (as : List IntegrationSchema) :
      (as.map IntegrationSchema.lasting).mapIdx (fun k a ↦ (k, a)) =
        (as.mapIdx fun k a ↦ (k, a)).map fun e ↦ (e.1, e.2.lasting) :=
    List.ext_getElem? fun k ↦ by simp [Function.comp_def]
  have ha (path : String) (a : IntegrationSchema) :
      authorizedIssues stats path a.lasting = authorizedIssues stats path a := rfl
  simp only [strictIntegrationIssues, Integrations.lasting, hm, List.mapM_map, Function.comp_def,
    ha]
  cases i.initiative <;> rfl

theorem integrationIssues_lasting (strict : Bool) (found : Option Integrations) :
    integrationIssues stats strict (.ok (found.map Integrations.lasting)) =
      integrationIssues stats strict (.ok found) := by
  cases found with
  | none => rfl
  | some i =>
    cases strict with
    | true => exact strictIntegrationIssues_lasting stats i
    | false => rfl

end

/-! ### Main statements -/

section
variable (s : GameSystem)

theorem allSectionIssues_lasting {d again : Draft} (hr : again.readStats = d.readStats)
    (hs : again.sectionIds = d.sectionIds) (strict : Bool) (before : List (Option Int))
    (sections : List SheetSection) :
    allSectionIssues again strict before
        ((sections.map SheetSection.lasting).map (Entry.ofItem SheetSection.id)) =
      allSectionIssues d strict before (sections.map (Entry.ofItem SheetSection.id)) := by
  have hsec (path : String) (a : SheetSection) :
      sectionIssues again strict path a.lasting = sectionIssues d strict path a := by
    rw [sectionIssues, sectionIssues, hr, hs, strictSectionIssues_lasting]
    rfl
  induction sections generalizing before with
  | nil => rfl
  | cons a sections ih =>
    simp only [List.map_cons, allSectionIssues, Entry.ofItem] at ih ⊢
    simp only [hsec, ih]
    rfl

/-- A schema has the issues of what lasts of it. -/
theorem GameSystem.issues_lasting (strict : Bool) : s.lasting.issues strict = s.issues strict := by
  -- first the stats are changed, then what stands beside them
  rw [← issues_map Stat.unseen_lasting s]
  let d := Draft.ofSystem { s with stats := s.stats.map Stat.lasting }
  let again := Draft.ofSystem s.lasting
  have hr : again.readStats = d.readStats := rfl
  have hs : again.sectionIds = d.sectionIds := by
    simp [again, d, Draft.sectionIds, Draft.ofSystem, Entry.ofItem, lasting,
      SheetSection.lasting, List.filterMap_map, Function.comp_def]
  have hstats (before : List (Option Int)) (c : CycleChecker) (entries : List (Entry Stat)) :
      allStatIssues again strict before c entries = allStatIssues d strict before c entries := by
    have hstat : statIssues again strict = statIssues d strict := by
      funext path a c
      rw [statIssues, statIssues, hr, hs]
    induction entries generalizing before c with
    | nil => rfl
    | cons e entries ih => simp only [allStatIssues, ih, hstat]
  have hsections : allSectionIssues again strict [] (again.sections.getD []) =
      allSectionIssues d strict [] (d.sections.getD []) :=
    allSectionIssues_lasting hr hs strict [] s.sections
  have hintegrations : integrationIssues d.readStats strict again.integrations =
      integrationIssues d.readStats strict d.integrations :=
    integrationIssues_lasting d.readStats strict s.integrations
  rw [issues, issues, draftIssues, draftIssues, hr, hstats, hsections, hintegrations]
  rfl

end

/-- The document of a schema that was read from a plain value and is finite is read again. The
schema that it is read as has the same document and the same issues, and the document has every
field that is not null and that a record keeps beside its declared ones, and every modifier that an
integration allows, where the value has it. -/
theorem GameSystem.document_round_trip {v : Json} {s : GameSystem} (hv : v.isPlain = true)
    (h : GameSystem.read v = .ok s) (hs : s.isFinite = true) :
    ∃ again, GameSystem.read s.document = .ok again ∧ again.document = s.document ∧
      (∀ strict, again.issues strict = s.issues strict) ∧
      (∀ record place, OpenAt v record place → ∀ key value, key ∉ record.declared →
        value ≠ .null → v.at? (place ++ [.field key]) = some value →
          s.document.at? (place ++ [.field key]) = some value) ∧
      ∀ i j value, v.at? (modifierPlace i j) = some value →
        s.document.at? (modifierPlace i j) = some value := by
  refine ⟨s.lasting, read_document hv h hs, s.document_lasting, s.issues_lasting, ?_, ?_⟩
  · intro record place ho key value hk hn hat
    exact shows_kept hv h hs ho hk value hn hat
  · intro i j value hat
    exact shows_modifier hv h hs i j value trivial hat

/-- A document in which records keep fields, some of them null. -/
def keepingDocument : Json :=
  .object [
    ("config", .object [("id", .string "7"),
      ("name", .object [("default", .string "S"), ("fr", .string "T"), ("ko", .null)])]),
    ("stats", .array [.object [("id", .int 1), ("type", .string "enum"),
      ("options", .array [.object [("value", .bool true),
        ("name", .object [("default", .string "A"), ("fr", .array [.null])])]])]]),
    ("integrations", .object [("bot", .object [("on", .null)]),
      ("iniciative", .object [("id", .string "1"), ("dice", .null)]),
      ("schemas", .array [.object [("id", .int 1),
        ("fields", .object [("01", .object []), ("+1", .object [("name", .string "F")])]),
        ("AutorizedModifierList", .array [.null, .object [("by", .null)]])]])])]

/-- What records keep in the document is there again once it was read and written. -/
theorem GameSystem.document_round_trip_keeping :
    ∃ s again, GameSystem.read keepingDocument = .ok s ∧ GameSystem.read s.document = .ok again ∧
      again.document = s.document ∧ (∀ strict, again.issues strict = s.issues strict) ∧
      s.document.at? [.field "stats", .index 0, .field "options", .index 0, .field "name",
        .field "fr"] = some (.array [.null]) ∧
      s.document.at? (modifierPlace 0 0) = some .null := by
  obtain ⟨again, hr, hd, hi, hk, hm⟩ := document_round_trip (v := keepingDocument) rfl rfl rfl
  refine ⟨_, again, rfl, hr, hd, hi, ?_, hm 0 0 .null rfl⟩
  exact hk .localization _ (.optionName 0 0 rfl) "fr" _ (by decide) nofun rfl

end CharacterSheet
