import CharacterSheet.Proofs.Schema.Reading
import CharacterSheet.Proofs.Schema.Values

/-!
# Texts for locales

What stands for a locale is written as a text when it is asked for, which fails for an integer with
too many digits, wherever it stands in the value. Main statements: the text for a locale is found
exactly when the integers in it can be written, and all variants are written exactly when the
integers in all of them can be; what is written then is what is displayed.
-/

namespace CharacterSheet

/-- Items that are all looked at, where what is found for an item is known and found only for items
with a property. -/
theorem mapM_eq_ok_iff {ε α β : Type} {f : α → Except ε β} {p : α → Prop} {g : α → β}
    (hf : ∀ a b, f a = .ok b ↔ p a ∧ g a = b) {as : List α} {bs : List β} :
    as.mapM f = .ok bs ↔ (∀ a ∈ as, p a) ∧ as.map g = bs := by
  constructor
  · intro h
    have hall := forall₂_of_mapM h
    refine ⟨fun a ha ↦ ?_, ?_⟩
    · obtain ⟨b, hb⟩ := exists_mapM_eq_ok_iff.mp ⟨bs, h⟩ a ha
      exact ((hf a b).mp hb).1
    · clear h
      induction hall with
      | nil => rfl
      | cons h _ ih => rw [List.map_cons, ((hf _ _).mp h).2, ih]
  · rintro ⟨hp, rfl⟩
    induction as with
    | nil => rfl
    | cons a as ih =>
      obtain ⟨ha, has⟩ := List.forall_mem_cons.mp hp
      rw [List.mapM_cons, (hf a _).mpr ⟨ha, rfl⟩, ih has]
      rfl

/-! ### What goes wrong -/

/-- Nothing goes wrong but that an integer has too many digits to be written. -/
def OnlyTooLarge {α : Type} (x : Except NumeralError α) : Prop :=
  ∀ e, x = .error e → e = .tooLargeToWrite

section
variable {α β : Type} {x : Except NumeralError α}

theorem onlyTooLarge_ok (a : α) : OnlyTooLarge (.ok a) := nofun

theorem OnlyTooLarge.map (h : OnlyTooLarge x) (f : α → β) : OnlyTooLarge (x.map f) := by
  cases x with
  | ok a => exact onlyTooLarge_ok _
  | error e =>
    rintro _ ⟨⟩
    exact h e rfl

theorem OnlyTooLarge.mapM {f : α → Except NumeralError β} (h : ∀ a, OnlyTooLarge (f a))
    (as : List α) : OnlyTooLarge (as.mapM f) := by
  induction as with
  | nil => exact onlyTooLarge_ok []
  | cons a as ih =>
    rw [List.mapM_cons]
    cases ha : f a with
    | error e =>
      rintro _ ⟨⟩
      exact h a e ha
    | ok b =>
      cases has : as.mapM f with
      | error e =>
        rintro _ ⟨⟩
        exact ih e has
      | ok bs => exact onlyTooLarge_ok _

/-- Where the same goes wrong in front and behind, it does not matter where it does. -/
theorem OnlyTooLarge.bind_error (h : OnlyTooLarge x) :
    (x >>= fun _ ↦ (.error .tooLargeToWrite : Except NumeralError β)) =
      .error .tooLargeToWrite := by
  cases x with
  | ok a => rfl
  | error e =>
    rw [h e rfl]
    rfl

theorem onlyTooLarge_writeInteger (n : Int) : OnlyTooLarge (Numeral.writeInteger n) := by
  unfold Numeral.writeInteger
  split
  · exact onlyTooLarge_ok _
  · rintro _ ⟨⟩
    rfl

end

/-! ### What is written -/

/-- A value is written as it is displayed, if the integers in it can be written. -/
theorem Json.writeText_eq_ok_iff {v : Json} {text : String} :
    v.writeText = .ok text ↔
      (∀ n ∈ v.integers, Numeral.isWritable n = true) ∧ v.display = text := by
  unfold writeText
  split
  · next h => simpa using fun _ ↦ List.all_eq_true.mp h
  · next h => simpa using fun hw ↦ absurd (List.all_eq_true.mpr hw) h

theorem Json.onlyTooLarge_writeText (v : Json) : OnlyTooLarge v.writeText := by
  unfold writeText
  split
  · exact onlyTooLarge_ok _
  · rintro _ ⟨⟩
    rfl

namespace Localization
variable {l : Localization} {locale : String}

/-- The variants as they are displayed. -/
def displayed (l : Localization) : List (String × String) :=
  l.variants.map fun (locale, v) ↦ (locale, v.display)

/-- The integers in all variants can be written. -/
def IsWritable (l : Localization) : Prop :=
  ∀ variant ∈ l.variants, ∀ n ∈ variant.2.integers, Numeral.isWritable n = true

/-- The integers in the text for a locale. -/
def shownIntegers (l : Localization) (locale : String) : List Int :=
  if locale = "" || locale = "default" then []
  else
    match Json.Fields.get? locale l.variants with
    | some v => if v.isTruthy then v.integers else []
    | none => []

/-- The text for a locale is found exactly when the integers in it can be written. -/
theorem exists_get_iff :
    (∃ text, l.get locale = .ok text) ↔
      ∀ n ∈ l.shownIntegers locale, Numeral.isWritable n = true := by
  unfold get shownIntegers
  split
  · simp
  · cases Json.Fields.get? locale l.variants with
    | none => simp
    | some v =>
      dsimp only
      split <;> simp [Json.writeText_eq_ok_iff]

theorem onlyTooLarge_get (l : Localization) (locale : String) :
    OnlyTooLarge (l.get locale) := by
  unfold get
  split
  · exact onlyTooLarge_ok _
  · split
    · split
      · exact Json.onlyTooLarge_writeText _
      · exact onlyTooLarge_ok _
    · exact onlyTooLarge_ok _

/-- Integers that are shown are among those of a variant. -/
theorem IsWritable.of_mem_shownIntegers (h : l.IsWritable) {n : Int}
    (hn : n ∈ l.shownIntegers locale) : Numeral.isWritable n = true := by
  unfold shownIntegers at hn
  split at hn
  · cases hn
  · split at hn
    · next v hv =>
      split at hn
      · exact h _ (Json.mem_of_get? hv) n hn
      · cases hn
    · cases hn

/-- The variants are written as they are displayed, if the integers in them can be written. -/
theorem translations_eq_ok_iff {texts : List (String × String)} :
    l.translations = .ok texts ↔ l.IsWritable ∧ l.displayed = texts := by
  refine mapM_eq_ok_iff fun (locale, v) text ↦ ?_
  dsimp only
  constructor
  · intro h
    obtain ⟨shown, hs, rfl⟩ := Json.Bounded.exists_of_map_eq_ok h
    obtain ⟨hn, rfl⟩ := Json.writeText_eq_ok_iff.mp hs
    exact ⟨hn, rfl⟩
  · rintro ⟨hn, rfl⟩
    rw [Json.writeText_eq_ok_iff.mpr ⟨hn, rfl⟩]
    rfl

/-- Nothing is written of variants when one of them cannot be written. -/
theorem translations_of_not_isWritable (h : ¬ l.IsWritable) :
    l.translations = .error .tooLargeToWrite := by
  cases ht : l.translations with
  | ok texts => exact absurd (translations_eq_ok_iff.mp ht).1 h
  | error e =>
    have hone (variant : String × Json) : OnlyTooLarge (variant.2.writeText.map (variant.1, ·)) :=
      (Json.onlyTooLarge_writeText variant.2).map _
    rw [OnlyTooLarge.mapM hone l.variants e ht]

end Localization
end CharacterSheet
