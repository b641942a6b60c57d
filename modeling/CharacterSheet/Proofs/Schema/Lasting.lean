import CharacterSheet.Proofs.Schema.Values

/-!
# What lasts of a schema

A document leaves out what records keep as null beside their declared fields. What lasts of a
schema is the schema without that. Main statement: a schema has the document of what lasts of it.
-/

namespace CharacterSheet

/-- The fields that are not null. -/
def Json.Fields.present (fs : Json.Fields) : Json.Fields := fs.filter fun (_, v) ↦ !v.isNull

/-! ### Changes of options -/

/-- The options of an enumeration, each of them changed. -/
def OptionSource.mapOptions (g : EnumOption → EnumOption) : OptionSource → OptionSource
  | .own options => .own (options.map g)
  | .sharedWith id => .sharedWith id

/-- What belongs to the kind of a stat, with its options changed. -/
def StatDetail.mapOptions (g : EnumOption → EnumOption) : StatDetail → StatDetail
  | .enumeration options rolls => .enumeration (options.mapOptions g) rolls
  | detail => detail

/-! ### What lasts -/

/-- What lasts of a localized text. -/
def Localization.lasting (l : Localization) : Localization :=
  { l with variants := l.variants.present }

/-- What lasts of an option. -/
def EnumOption.lasting (o : EnumOption) : EnumOption := { o with name := o.name.lasting }

/-- What lasts of the options of an enumeration. -/
def OptionSource.lasting : OptionSource → OptionSource
  | .own options => .own (options.map EnumOption.lasting)
  | .sharedWith id => .sharedWith id

/-- What lasts of what belongs to the kind of a stat. -/
def StatDetail.lasting : StatDetail → StatDetail
  | .enumeration options rolls => .enumeration options.lasting rolls
  | detail => detail

theorem OptionSource.mapOptions_lasting (o : OptionSource) :
    o.mapOptions EnumOption.lasting = o.lasting := by
  cases o <;> rfl

theorem StatDetail.mapOptions_lasting (d : StatDetail) :
    d.mapOptions EnumOption.lasting = d.lasting := by
  cases d with
  | enumeration options rolls => exact congrArg (enumeration · rolls) options.mapOptions_lasting
  | _ => rfl

/-- What lasts of a stat. -/
def Stat.lasting (s : Stat) : Stat :=
  { s with name := s.name.lasting, detail := s.detail.lasting }

/-- What lasts of the template of a section. -/
def SectionPreview.lasting (p : SectionPreview) : SectionPreview :=
  { p with content := p.content.lasting }

/-- What lasts of a section. -/
def SheetSection.lasting (s : SheetSection) : SheetSection :=
  { s with name := s.name.lasting, preview := s.preview.lasting }

/-- What lasts of an integration. -/
def IntegrationSchema.lasting (s : IntegrationSchema) : IntegrationSchema :=
  { s with
    name := s.name.lasting
    description := s.description.lasting
    extra := s.extra.present }

/-- What lasts of how initiative is rolled. -/
def Initiative.lasting (i : Initiative) : Initiative := { i with extra := i.extra.present }

/-- What lasts of the settings for other programs. -/
def Integrations.lasting (i : Integrations) : Integrations :=
  { i with
    initiative := i.initiative.map Initiative.lasting
    schemas := i.schemas.map IntegrationSchema.lasting
    extra := i.extra.present }

/-- What lasts of the head of a schema. -/
def SystemConfig.lasting (c : SystemConfig) : SystemConfig :=
  { c with name := c.name.lasting, description := c.description.lasting }

/-- What lasts of a schema. -/
def GameSystem.lasting (s : GameSystem) : GameSystem where
  config := s.config.lasting
  stats := s.stats.map Stat.lasting
  sections := s.sections.map SheetSection.lasting
  integrations := s.integrations.map Integrations.lasting

/-! ### Numbers that may be infinite -/

/-- The numbers in a localized text. -/
def Localization.numbers (l : Localization) : List Number := Json.fieldNumbers l.variants

/-- The numbers in an option. -/
def EnumOption.numbers (o : EnumOption) : List Number := o.name.numbers

/-- The numbers in the options of an enumeration. -/
def OptionSource.numbers : OptionSource → List Number
  | .own options => options.flatMap EnumOption.numbers
  | .sharedWith _ => []

/-- The numbers in what belongs to the kind of a stat. -/
def StatDetail.numbers : StatDetail → List Number
  | .numeric min max _ => min.toList ++ max.toList
  | .enumeration options _ => options.numbers
  | _ => []

/-- The numbers in a stat. -/
def Stat.numbers (s : Stat) : List Number := s.name.numbers ++ s.detail.numbers

/-- The numbers in the template of a section. -/
def SectionPreview.numbers (p : SectionPreview) : List Number := p.content.numbers

/-- The numbers in a section. -/
def SheetSection.numbers (s : SheetSection) : List Number := s.name.numbers ++ s.preview.numbers

/-- The numbers in an integration. -/
def IntegrationSchema.numbers (s : IntegrationSchema) : List Number :=
  s.name.numbers ++ s.description.numbers ++ (s.modifiers.getD []).flatMap Json.numbers ++
    Json.fieldNumbers s.extra

/-- The numbers in how initiative is rolled. -/
def Initiative.numbers (i : Initiative) : List Number := Json.fieldNumbers i.extra

/-- The numbers in the settings for other programs. -/
def Integrations.numbers (i : Integrations) : List Number :=
  i.initiative.toList.flatMap Initiative.numbers ++ i.schemas.flatMap IntegrationSchema.numbers ++
    Json.fieldNumbers i.extra

/-- The numbers in the head of a schema. -/
def SystemConfig.numbers (c : SystemConfig) : List Number :=
  c.name.numbers ++ c.description.numbers

/-- The numbers in a schema, but for those that can only be integers. -/
def GameSystem.numbers (s : GameSystem) : List Number :=
  s.config.numbers ++ s.stats.flatMap Stat.numbers ++ s.sections.flatMap SheetSection.numbers ++
    s.integrations.toList.flatMap Integrations.numbers

/-- Whether a schema holds only finite numbers. -/
def GameSystem.isFinite (s : GameSystem) : Bool := s.numbers.all Number.isFinite

/-! ### Documents -/

theorem Json.Fields.present_present (fs : Json.Fields) : fs.present.present = fs.present := by
  simp [present]

/-- A brief document leaves out fields that are null. -/
theorem Extent.kept_present (fs : Json.Fields) : brief.kept fs.present = brief.kept fs :=
  congrArg Json.writtenFields fs.present_present

/-- Items that are written alike make lists that are written alike. -/
theorem Json.ofList_map {α : Type} {write : α → Json} {f : α → α}
    (h : ∀ a, write (f a) = write a) (as : List α) : ofList write (as.map f) = ofList write as := by
  simp [ofList, h]

theorem Localization.toJson_lasting (l : Localization) :
    l.lasting.toJson .brief = l.toJson .brief := by
  simp [toJson, lasting, Extent.kept_present]

theorem EnumOption.toJson_lasting (o : EnumOption) :
    o.lasting.toJson .brief = o.toJson .brief := by
  simp [toJson, lasting, Localization.toJson_lasting]

theorem OptionSource.toJson_lasting (o : OptionSource) :
    o.lasting.toJson .brief = o.toJson .brief := by
  cases o with
  | own options => exact Json.ofList_map EnumOption.toJson_lasting options
  | sharedWith id => rfl

theorem StatDetail.toFields_lasting (d : StatDetail) :
    d.lasting.toFields .brief = d.toFields .brief := by
  cases d with
  | enumeration options rolls => simp [lasting, toFields, OptionSource.toJson_lasting]
  | _ => rfl

theorem Stat.kind_lasting (s : Stat) : s.lasting.kind = s.kind := by
  obtain ⟨id, name, emoji, pages, detail⟩ := s
  cases detail <;> rfl

theorem Stat.toJson_lasting (s : Stat) : s.lasting.toJson .brief = s.toJson .brief := by
  simp only [toJson, kind_lasting]
  simp [lasting, Localization.toJson_lasting, StatDetail.toFields_lasting]

theorem SectionPreview.toJson_lasting (p : SectionPreview) :
    p.lasting.toJson .brief = p.toJson .brief := by
  simp [toJson, lasting, Localization.toJson_lasting]

theorem SheetSection.toJson_lasting (s : SheetSection) :
    s.lasting.toJson .brief = s.toJson .brief := by
  simp [toJson, lasting, Localization.toJson_lasting, SectionPreview.toJson_lasting]

theorem IntegrationSchema.toJson_lasting (s : IntegrationSchema) :
    s.lasting.toJson .brief = s.toJson .brief := by
  simp [toJson, lasting, Localization.toJson_lasting, Extent.kept_present]

theorem Initiative.toJson_lasting (i : Initiative) :
    i.lasting.toJson .brief = i.toJson .brief := by
  simp [toJson, lasting, Extent.kept_present]

theorem Integrations.toJson_lasting (i : Integrations) :
    i.lasting.toJson .brief = i.toJson .brief := by
  simp [toJson, lasting, Extent.kept_present, Json.ofList_map IntegrationSchema.toJson_lasting,
    Function.comp_def, Initiative.toJson_lasting]

theorem SystemConfig.toJson_lasting (c : SystemConfig) :
    c.lasting.toJson .brief = c.toJson .brief := by
  simp [toJson, lasting, Localization.toJson_lasting]

/-- A schema has the document of what lasts of it. -/
theorem GameSystem.document_lasting (s : GameSystem) : s.lasting.document = s.document := by
  simp [document, toJson, lasting, SystemConfig.toJson_lasting,
    Json.ofList_map Stat.toJson_lasting, Json.ofList_map SheetSection.toJson_lasting,
    Function.comp_def, Integrations.toJson_lasting]

end CharacterSheet
