import CharacterSheet.Proofs.Menu.Offers
import CharacterSheet.Proofs.Preview.LeastValues
import CharacterSheet.Proofs.Validation.Previews

/-!
# Options in previews

The value of an enumeration is shown as the first of its options. Validation, the search for the
options and the text that is shown each sort the places that options may come from by tests of their
own. Main statement: where strict validation finds nothing, the options of every enumeration are
found, and the first of them is shown. Where there are none, the text says so, but for an
enumeration that shares the options of another: its text names that one as if it were not there.
-/

namespace CharacterSheet

namespace GameSystem
variable {s : GameSystem}

/-- A schema in which strict validation finds nothing is clean. -/
theorem isClean_of_strict (h : s.issues true = .ok []) : s.IsClean := by
  obtain ⟨plain, hp, hx⟩ := extends_issues h
  obtain rfl := (hx.eq_nil_iff.mp rfl).1
  exact issues_eq_nil_iff_isClean.mp hp

/-- The options of an enumeration are found in a linked schema. -/
theorem IsLinked.exists_resolveOptions (h : s.IsLinked) {stat : Stat} (hm : stat ∈ s.stats)
    {source : OptionSource} {rolls : Rolls} (hd : stat.detail = .enumeration source rolls) :
    ∃ options, resolveOptions s.stats source = some options := by
  cases source with
  | own options => exact ⟨options, rfl⟩
  | sharedWith id =>
    have hshared : stat.sharesWith? = some id := by rw [Stat.sharesWith?, hd]
    obtain ⟨target, hfound, howns⟩ := (h.details stat hm).options id hshared
    obtain ⟨options, ho⟩ := Option.isSome_iff_exists.mp howns
    exact ⟨options, by rw [resolveOptions, hfound, Option.bind_some, ho]⟩

end GameSystem

namespace Preview
variable {m : Type → Type} {p : Preview m}

/-- The text for an enumeration with some options: the name of the first one, if that can be
written. -/
def optionText (p : Preview m) : List EnumOption → Except NumeralError String
  | [] => .ok "enum"
  | o :: _ => (o.name.get p.locale).map fun name ↦ orElse name p.wording.unnamedOption

/-- The text for an enumeration with options that are not found. -/
def unresolvedText (id : Int) : Except NumeralError String :=
  (Numeral.writeInteger id).map fun digits ↦ "[ref: " ++ digits ++ "]"

/-- An enumeration shares its options with a stat, whose id is positive, and these are none. -/
def SharesNothing (stat : Stat) (options : List EnumOption) (id : Int) : Prop :=
  options = [] ∧ stat.sharesWith? = some id ∧ 0 < id

section
variable {stat : Stat} {source : OptionSource} {rolls : Rolls} {options : List EnumOption}
  (hd : stat.detail = .enumeration source rolls)
  (ho : resolveOptions p.system.stats source = some options)
include hd ho

/-- An enumeration is shown as the first option that is found. -/
theorem shownValue_of_resolved (hn : ∀ id, ¬ SharesNothing stat options id) :
    p.shownValue stat = p.optionText options := by
  simp only [shownValue, hd, ho]
  cases options with
  | cons o rest => rfl
  | nil =>
    cases source with
    | own _ => rfl
    | sharedWith id =>
      have hid : ¬ 0 < id := fun hid ↦ hn id ⟨rfl, by rw [Stat.sharesWith?, hd], hid⟩
      exact if_neg hid

/-- An enumeration that shares no options is shown as if its reference led nowhere. -/
theorem shownValue_of_sharesNothing {id : Int} (hn : SharesNothing stat options id) :
    p.shownValue stat = unresolvedText id := by
  obtain ⟨rfl, hs, hid⟩ := hn
  simp only [shownValue, hd, ho]
  cases source with
  | own _ => simp [Stat.sharesWith?, hd] at hs
  | sharedWith other =>
    obtain rfl : other = id := by simpa [Stat.sharesWith?, hd] using hs
    exact if_pos hid

end

variable [Monad m] [LawfulMonad m]

theorem offeredText_value (id : Int) :
    offeredText .stat id .value = "<stat:" ++ toString id ++ ":value>" := by
  simp [offeredText, Subject.word, Property.word, String.append_assoc]

/-- A reference to the value of a stat of a clean schema is shown as that value. -/
theorem render_offeredText_value (h : p.system.IsClean) {stat : Stat} (hm : stat ∈ p.system.stats)
    (hn : 0 ≤ stat.id) (hw : Numeral.isWritable stat.id = true) :
    p.render (offeredText .stat stat.id .value) = liftExcept (p.shownValue stat) := by
  have hholds : p.system.Holds (.stat stat) := hm
  have hp : Property.value ∈ Subject.stat.offered := by decide
  exact (GameSystem.standsFor_offer h hholds hw hp hn).rendered p rfl

/-- There is no preview of a reference to a stat whose id has too many digits. -/
theorem render_offeredText_of_long {id : Int} (hn : 0 ≤ id) (hw : Numeral.isWritable id = false) :
    p.render (offeredText .stat id .value) =
      throw (.tooManyDigits (Nat.toDigits 10 id.toNat).length) := by
  obtain ⟨n, rfl⟩ := Int.eq_ofNat_of_zero_le hn
  have htext : offeredText .stat n .value = (valueOf n).render := by
    rw [offeredText_value, (render_eq_of_valueOf n).1]
    rfl
  have h := render_of_long (p := p) (r := valueOf n) (n := n) rfl hw .math
  rw [htext, Int.toNat_natCast, h.1]

/-- Where strict validation finds nothing, the options of every enumeration are found, and its value
is shown as the name of the first of them, as far as that can be written, or as that there are none.
Only where it shares the options of another enumeration, and these are none, the text is the one for
options that are not found. References with a negative id are no tokens, and there is no preview of
an id with too many digits. -/
theorem render_enumeration (h : p.system.issues true = .ok []) {stat : Stat}
    (hm : stat ∈ p.system.stats) {source : OptionSource} {rolls : Rolls}
    (hd : stat.detail = .enumeration source rolls) :
    let text := "<stat:" ++ toString stat.id ++ ":value>"
    ∃ options, resolveOptions p.system.stats source = some options ∧
      (0 ≤ stat.id → Numeral.isWritable stat.id = true →
        ((∀ id, ¬ SharesNothing stat options id) →
          p.render text = liftExcept (p.optionText options)) ∧
        (∀ id, SharesNothing stat options id → p.render text = liftExcept (unresolvedText id))) ∧
      (0 ≤ stat.id → Numeral.isWritable stat.id = false →
        p.render text = throw (.tooManyDigits (Nat.toDigits 10 stat.id.toNat).length)) ∧
      (stat.id < 0 → p.render text = pure text) := by
  intro text
  have htext : offeredText .stat stat.id .value = text := offeredText_value stat.id
  obtain ⟨options, ho⟩ := (GameSystem.isLinked_of_issues h).exists_resolveOptions hm hd
  refine ⟨options, ho, fun hn hw ↦ ?_, fun hn hw ↦ ?_, fun hn ↦ ?_⟩
  · have hshown : p.render text = liftExcept (p.shownValue stat) :=
      htext ▸ render_offeredText_value (GameSystem.isClean_of_strict h) hm hn hw
    refine ⟨fun hne ↦ ?_, fun id hid ↦ ?_⟩
    · rw [hshown, shownValue_of_resolved hd ho hne]
    · rw [hshown, shownValue_of_sharesNothing hd ho hid]
  · exact htext ▸ render_offeredText_of_long hn hw
  · exact htext ▸ (isPlainText_offeredText hn).rendered p

/-- A preview of a schema with an enumeration that has some options of its own, and another one that
shares them. -/
def ofShared (options : List EnumOption) (locale : String) : Preview Id where
  system := {
    config := { id := some 1, name := { default := "S" } }
    stats := [
      { id := 1, name := { default := "A" }, detail := .enumeration (.own options) {} },
      { id := 2, name := { default := "B" }, detail := .enumeration (.sharedWith 1) {} }] }
  locale
  language := .english
  evaluate := Arithmetic.evaluator
  roll := diceRoller fun _ ↦ 0

/-- An option with names for two locales. -/
def sword : EnumOption where
  value := 1
  name := { default := "Sword", variants := [("fr", .string "Épée")] }

/-- An option is shown where it is shared, by its name for the locale. -/
theorem render_enumeration_shared :
    (ofShared [sword] "fr").system.issues true = .ok [] ∧
      (ofShared [sword] "fr").render "<stat:2:value>" = pure "Épée" := by
  have h : (ofShared [sword] "fr").system.issues true = .ok [] :=
    Validation.eq_nil_of_map_length (by decide +kernel)
  have hid : Numeral.isWritable 2 = true :=
    Numeral.isWritable_of_lt (k := 1) (by decide) (by decide)
  obtain ⟨options, ho, hshown, -⟩ :=
    render_enumeration h (List.mem_cons_of_mem _ List.mem_cons_self) rfl
  obtain rfl : [sword] = options := Option.some.inj ho
  exact ⟨h, (hshown (by decide) hid).1 fun id hn ↦ nomatch hn.1⟩

/-- No option is shown as a reference to what is not there, though strict validation finds nothing
and the list of options is found. -/
theorem unresolved_though_valid :
    (ofShared [] "default").system.issues true = .ok [] ∧
      resolveOptions (ofShared [] "default").system.stats (.sharedWith 1) = some [] ∧
      (ofShared [] "default").render "<stat:2:value>" = pure "[ref: 1]" ∧
      (ofShared [] "default").optionText [] = .ok "enum" ∧
      (ofShared [] "default").render "<stat:2:value>" ≠
        liftExcept ((ofShared [] "default").optionText []) := by
  have h : (ofShared [] "default").system.issues true = .ok [] :=
    Validation.eq_nil_of_map_length (by decide +kernel)
  have hwritable (n : Int) (hn : n.natAbs < 10 ^ 1) : Numeral.isWritable n = true :=
    Numeral.isWritable_of_lt (by decide) hn
  have hshown := render_offeredText_value (GameSystem.isClean_of_strict h)
    (List.mem_cons_of_mem _ List.mem_cons_self) (by decide) (hwritable 2 (by decide))
  rw [shownValue_of_sharesNothing rfl rfl ⟨rfl, rfl, by decide⟩, unresolvedText,
    Numeral.writeInteger, hwritable 1 (by decide)] at hshown
  have hne : (pure "[ref: 1]" : ExceptT NumeralError Id String) ≠ pure "enum" := by
    intro he
    injection he with htext
    exact absurd htext (by decide)
  exact ⟨h, rfl, hshown, rfl, fun he ↦ hne (hshown.symm.trans he)⟩

end Preview
end CharacterSheet
