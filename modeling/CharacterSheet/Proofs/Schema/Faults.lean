import CharacterSheet.Schema.Reader

/-!
# Faults of readings

What is refused is refused for a reason: however a reading is put together, it is complete or it
has a fault to show. Main statements: `Stat.explained_read`, `SheetSection.explained_read` and
`Integrations.explained_read`.
-/

namespace CharacterSheet
namespace Checked

/-- A reading that is complete or has a fault to show. -/
def Explained {α : Type} (x : Checked α) : Prop := x ≠ .bad []

/-! ### How readings are put together -/

section
variable {α β : Type}

theorem explained_ok (a : α) : (ok a).Explained := by
  intro h
  contradiction

theorem explained_fail (cause : FaultCause) : (fail cause : Checked α).Explained := by
  intro h
  exact List.cons_ne_nil _ _ (Checked.bad.inj h)

theorem explained_ofExcept (x : Except FaultCause α) : (ofExcept x).Explained := by
  cases x with
  | ok a => exact explained_ok a
  | error cause => exact explained_fail cause

/-- An explained reading is complete unless it has faults. -/
theorem Explained.exists_eq_ok {x : Checked α} (hx : x.Explained)
    (h : ∀ faults, x = .bad faults → faults = []) : ∃ a, x = .ok a := by
  cases x with
  | ok a => exact ⟨a, rfl⟩
  | bad faults => exact absurd (congrArg bad (h faults rfl)) hx

theorem Explained.map {x : Checked α} (hx : x.Explained) (f : α → β) : (f <$> x).Explained := by
  cases x with
  | ok a => exact explained_ok (f a)
  | bad faults =>
    intro h
    exact hx (congrArg bad (Checked.bad.inj h))

/-- Two readings in a row are refused with the faults of either. -/
theorem Explained.seq {f : Checked (α → β)} {x : Checked α} (hf : f.Explained)
    (hx : x.Explained) : (f <*> x).Explained := by
  cases f with
  | ok g =>
    cases x with
    | ok a => exact explained_ok (g a)
    | bad faults =>
      intro h
      exact hx (congrArg bad (Checked.bad.inj h))
  | bad faults =>
    have hne : faults ≠ [] := fun he ↦ hf (congrArg bad he)
    cases x with
    | ok a => exact fun h ↦ hne (Checked.bad.inj h)
    | bad more =>
      intro h
      exact hne (List.append_eq_nil_iff.mp (Checked.bad.inj h)).1

theorem Explained.inside {x : Checked α} (hx : x.Explained) (step : Step) :
    (x.inside step).Explained := by
  cases x with
  | ok a => exact explained_ok a
  | bad faults =>
    intro h
    exact hx (congrArg bad (List.map_eq_nil_iff.mp (Checked.bad.inj h)))

/-- Of two refusals it is enough that the first one is explained. -/
theorem explained_neither {x : Checked β} {faults : List Fault} (hx : x.Explained)
    (hf : x = .bad faults) (first second : String) (more : List Fault) :
    (neither first faults second more : Checked α).Explained := by
  intro h
  have he : faults = [] :=
    List.map_eq_nil_iff.mp (List.append_eq_nil_iff.mp (Checked.bad.inj h)).1
  exact hx (hf.trans (congrArg bad he))

theorem explained_all {xs : List (Checked α)} (h : ∀ x ∈ xs, x.Explained) :
    (all xs).Explained := by
  induction xs with
  | nil => exact explained_ok []
  | cons x xs ih =>
    obtain ⟨hx, hs⟩ := List.forall_mem_cons.mp h
    exact (hx.map List.cons).seq (ih hs)

/-- Complete readings are complete together. -/
theorem exists_all_eq_ok {xs : List (Checked α)} (h : ∀ x ∈ xs, ∃ a, x = .ok a) :
    ∃ as, all xs = .ok as := by
  induction xs with
  | nil => exact ⟨[], rfl⟩
  | cons x xs ih =>
    obtain ⟨⟨a, rfl⟩, hs⟩ := List.forall_mem_cons.mp h
    obtain ⟨as, ha⟩ := ih hs
    exact ⟨a :: as, by rw [all, ha]; rfl⟩

end

/-! ### Single values -/

theorem explained_integer (v : Json) : (integer v).Explained := by
  unfold integer
  split
  · exact explained_ok _
  · unfold integerOfFloat
    split
    · exact explained_fail _
    · split
      · exact explained_fail _
      · split
        · exact explained_ok _
        · exact explained_fail _
  · exact explained_ok _
  · exact explained_ofExcept _
  · exact explained_fail _
  · exact explained_fail _

theorem explained_number (v : Json) : (number v).Explained := by
  unfold number
  split
  · exact explained_ok _
  · split
    · exact explained_ok _
    · next faults hf =>
      dsimp only
      split
      · exact explained_ok _
      · exact explained_neither (explained_integer _) hf _ _ _

theorem explained_text (v : Json) : (text v).Explained := by
  unfold text
  split
  · exact explained_ok _
  · exact explained_fail _
  · exact explained_fail _

theorem explained_bool (v : Json) : (bool v).Explained := by
  unfold bool
  split
  · exact explained_ok _
  · split
    · exact explained_ok _
    · exact explained_ok _
    · exact explained_fail _
    · exact explained_fail _
  · split
    · exact explained_ok _
    · exact explained_fail _
  · exact explained_fail _
  · exact explained_fail _

/-! ### Lists and records -/

section
variable {α : Type}

theorem explained_nullable {read : Json → Checked α} (h : ∀ v, (read v).Explained) (v : Json) :
    (nullable read v).Explained := by
  unfold nullable
  split
  · exact explained_ok none
  · exact (h v).map some

theorem explained_list {read : Json → Checked α} (h : ∀ v, (read v).Explained) (v : Json) :
    (list read v).Explained := by
  unfold list
  split
  · apply explained_all
    intro x hx
    obtain ⟨i, hi, rfl⟩ := List.mem_mapIdx.mp hx
    exact (h _).inside _
  · exact explained_fail _

theorem explained_choice (word : α → String) (choices : List α) (v : Json) :
    (choice word choices v).Explained := by
  unfold choice
  dsimp only
  split
  · exact explained_ok _
  · exact explained_fail _

theorem explained_record {read : Json.Fields → Checked α} (h : ∀ fs, (read fs).Explained)
    (name : String) (v : Json) : (record name read v).Explained := by
  unfold record
  split
  · exact h _
  · exact explained_fail _

theorem explained_textKeys (v : Json) : (textKeys v).Explained := by
  apply explained_all
  intro x hx
  obtain ⟨e, -, rfl⟩ := List.mem_map.mp hx
  exact (explained_fail _).inside _

theorem explained_openRecord {read : Json.Fields → Checked α} (h : ∀ fs, (read fs).Explained)
    (name : String) (v : Json) : (openRecord name read v).Explained :=
  ((explained_record h name v).map _).seq (explained_textKeys v)

theorem explained_fieldOr {read : Json → Checked α} (h : ∀ v, (read v).Explained)
    (fs : Json.Fields) (key : String) (default : α) :
    (fieldOr fs key default read).Explained := by
  unfold fieldOr
  split
  · exact (h _).inside _
  · exact explained_ok default

theorem explained_required {read : Json → Checked α} (h : ∀ v, (read v).Explained)
    (fs : Json.Fields) (key : String) : (required fs key read).Explained := by
  unfold required
  split
  · exact (h _).inside _
  · exact (explained_fail _).inside _

theorem explained_entries {read : Json → Checked α} (h : ∀ v, (read v).Explained) (v : Json) :
    (entries read v).Explained := by
  unfold entries
  split
  · exact explained_fail _
  · apply Explained.map
    apply explained_all
    intro x hx
    obtain ⟨⟨key, v⟩, -, rfl⟩ := List.mem_map.mp hx
    exact ((((explained_integer _).inside _).inside _).map _).seq ((h v).inside _)

end

end Checked

open Checked

/-! ### Stats -/

theorem Localization.explained_read (v : Json) : (Localization.read v).Explained :=
  explained_openRecord (fun fs ↦ (explained_fieldOr explained_text fs _ _).map _) _ v

theorem Condition.explained_read (v : Json) : (Condition.read v).Explained := by
  apply explained_record
  intro fs
  have left := explained_fieldOr explained_text fs "value1" ""
  have comparison := explained_fieldOr (explained_choice Comparison.symbol Comparison.all) fs
    "operator" .eq
  have right := explained_fieldOr explained_text fs "value2" ""
  exact ((left.map _).seq comparison).seq right

theorem Dice.explained_read (v : Json) : (Dice.read v).Explained := by
  apply explained_record
  intro fs
  have expression := explained_fieldOr explained_text fs "expression" ""
  have condition := explained_fieldOr (explained_nullable Condition.explained_read) fs
    "condition" none
  exact (expression.map _).seq condition

theorem Replacement.explained_read (v : Json) : (Replacement.read v).Explained := by
  apply explained_record
  intro fs
  have key := explained_required explained_integer fs "key"
  have options := explained_fieldOr (explained_list explained_integer) fs "options" []
  exact (key.map _).seq options

theorem Rolls.explained_read (fs : Json.Fields) : (Rolls.read fs).Explained := by
  have dice := explained_fieldOr (explained_nullable (explained_list Dice.explained_read)) fs
    "dices" none
  have replacements := explained_fieldOr
    (explained_nullable (explained_list Replacement.explained_read)) fs "replacements" none
  exact (dice.map _).seq replacements

theorem EnumOption.explained_read (v : Json) : (EnumOption.read v).Explained := by
  apply explained_record
  intro fs
  have value := explained_required explained_integer fs "value"
  have name := explained_fieldOr Localization.explained_read fs "name" {}
  have emoji := explained_fieldOr (explained_nullable explained_text) fs "emoji" none
  have pages := explained_fieldOr (explained_nullable (explained_list explained_integer)) fs
    "edit_page" none
  have replacements := explained_fieldOr
    (explained_nullable (explained_list Replacement.explained_read)) fs "replacements" none
  exact ((((value.map _).seq name).seq emoji).seq pages).seq replacements

theorem OptionSource.explained_read (v : Json) : (OptionSource.read v).Explained := by
  unfold OptionSource.read
  split
  · exact explained_ok _
  · next faults hf =>
    split
    · exact explained_ok _
    · exact explained_neither (explained_list EnumOption.explained_read v) hf _ _ _

theorem StatDetail.explained_read (fs : Json.Fields) (kind : StatKind) :
    (StatDetail.read fs kind).Explained := by
  have rolls := Rolls.explained_read fs
  cases kind with
  | numeric =>
    have bound (key : String) := explained_fieldOr (explained_nullable explained_number) fs key none
    exact (((bound "min").map _).seq (bound "max")).seq rolls
  | enumeration =>
    exact ((explained_fieldOr OptionSource.explained_read fs "options" _).map _).seq rolls
  | boolean => exact rolls.map _
  | text =>
    have bound (key : String) :=
      explained_fieldOr (explained_nullable explained_integer) fs key none
    exact ((bound "minLength").map _).seq (bound "maxLength")
  | calculated => exact ((explained_fieldOr explained_text fs "formula" "").map _).seq rolls

/-- A stat that is refused has a fault. -/
theorem Stat.explained_read (v : Json) : (Stat.read v).Explained := by
  unfold Stat.read
  split
  · exact explained_fail _
  · next fs hfs =>
    split
    · exact explained_fail _
    · dsimp only
      split
      · next kind hk =>
        have id := explained_required explained_integer fs "id"
        have name := explained_fieldOr Localization.explained_read fs "name" {}
        have emoji := explained_fieldOr (explained_nullable explained_text) fs "emoji" none
        have pages := explained_fieldOr (explained_nullable (explained_list explained_integer)) fs
          "edit_page" none
        have detail := StatDetail.explained_read fs kind
        exact (((((id.map _).seq name).seq emoji).seq pages).seq detail).inside _
      · exact explained_fail _

/-! ### Sections -/

theorem SectionPreview.explained_read (v : Json) : (SectionPreview.read v).Explained := by
  apply explained_record
  intro fs
  have kind := explained_fieldOr
    (explained_nullable (explained_choice PreviewKind.word [.text, .image])) fs "type" none
  have content := explained_fieldOr Localization.explained_read fs "content" {}
  exact (kind.map _).seq content

/-- A section that is refused has a fault. -/
theorem SheetSection.explained_read (v : Json) : (SheetSection.read v).Explained := by
  apply explained_record
  intro fs
  have id := explained_required explained_integer fs "id"
  have name := explained_fieldOr Localization.explained_read fs "name" {}
  have emoji := explained_fieldOr (explained_nullable explained_text) fs "emoji" none
  have quick := explained_fieldOr explained_bool fs "quick_edit_btn" false
  have preview := explained_fieldOr SectionPreview.explained_read fs "preview" {}
  have pages := explained_fieldOr (explained_list explained_integer) fs "view_pages" []
  exact (((((id.map _).seq name).seq emoji).seq quick).seq preview).seq pages

/-! ### Settings for other programs -/

theorem SchemaChoice.explained_read (v : Json) : (SchemaChoice.read v).Explained := by
  apply explained_record
  intro fs
  have value := explained_required explained_text fs "value"
  have label := explained_fieldOr explained_text fs "label" ""
  exact (value.map _).seq label

theorem SchemaField.explained_read (v : Json) : (SchemaField.read v).Explained := by
  apply explained_record
  intro fs
  have name := explained_fieldOr explained_text fs "name" ""
  have kind := explained_fieldOr (explained_choice id ["eval"]) fs "type" "eval"
  have options := explained_fieldOr (explained_list SchemaChoice.explained_read) fs "options" []
  exact ((name.map _).seq kind).seq options

theorem IntegrationSchema.explained_read (v : Json) : (IntegrationSchema.read v).Explained := by
  apply explained_openRecord
  intro fs
  have id := explained_required explained_integer fs "id"
  have name (key : String) := explained_fieldOr Localization.explained_read fs key {}
  have fields := explained_fieldOr
    (explained_nullable (explained_entries SchemaField.explained_read)) fs
    "fields" none
  have modifiers := explained_fieldOr (explained_nullable
    (explained_list fun v ↦ explained_ok v.settled)) fs "AutorizedModifierList" none
  have stats := explained_fieldOr (explained_list explained_integer) fs
    "authorized_status_ids" []
  exact ((((((id.map _).seq (name "name")).seq (name "description")).seq fields).seq
    modifiers).seq stats).seq (explained_ok _)

theorem InitiativeId.explained_read (v : Json) : (InitiativeId.read v).Explained := by
  unfold InitiativeId.read
  split
  · exact explained_ok _
  · split
    · exact explained_ok _
    · next faults hf =>
      exact explained_neither (explained_integer _) hf _ _ _

theorem Initiative.explained_read (v : Json) : (Initiative.read v).Explained :=
  explained_openRecord (fun fs ↦
    (explained_fieldOr (explained_nullable InitiativeId.explained_read) fs _ _).map _) _ v

/-- Settings for other programs that are refused have a fault. -/
theorem Integrations.explained_read (v : Json) : (Integrations.read v).Explained := by
  apply explained_openRecord
  intro fs
  have initiative := explained_fieldOr (explained_nullable Initiative.explained_read) fs
    "iniciative" none
  have roll := explained_fieldOr (explained_nullable explained_text) fs "atributes_roll" none
  have schemas := explained_fieldOr (explained_list IntegrationSchema.explained_read) fs
    "schemas" []
  exact (((initiative.map _).seq roll).seq schemas).seq (explained_ok _)

end CharacterSheet
