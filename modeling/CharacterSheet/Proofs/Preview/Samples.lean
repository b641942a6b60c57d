import CharacterSheet.Preview
import CharacterSheet.Proofs.Schema.Localizations
import CharacterSheet.Proofs.Text.Numbers
import CharacterSheet.Proofs.Validation.Loading

/-!
# Samples and shown values

A sample is an integer that is written, a double or a fixed word, and what is shown for a stat or a
section may be a name as well. Only an integer with too many digits cannot be written: a double
without a fraction is written as an integer, too, but has few digits. Main statements: a sample is
found exactly when its integer can be written, it is the text of a number, and a reference is shown
exactly when the integers in its text can be written.
-/

namespace CharacterSheet

/-! ### Texts of numbers -/

/-- A text without the brackets of tokens. -/
def NoBracket (cs : List Char) : Prop := '<' ∉ cs ∧ '>' ∉ cs

/-- A number is written without brackets. -/
theorem NoBracket.of_isNumberText {text : String} (h : IsNumberText text) :
    NoBracket text.toList := by
  obtain hword | hchars := h.chars
  · have : ∀ word ∈ ["nan", "inf", "-inf"], NoBracket word.toList := by simp [NoBracket]
    exact this text hword
  · exact ⟨fun hm ↦ absurd (hchars _ hm) (by decide), fun hm ↦ absurd (hchars _ hm) (by decide)⟩

namespace Numeral

theorem exists_writeInteger_iff {n : Int} :
    (∃ text, writeInteger n = .ok text) ↔ isWritable n = true := by
  unfold writeInteger
  generalize isWritable n = w
  cases w <;> simp

theorem eq_of_writeInteger {n : Int} {text : String} (h : writeInteger n = .ok text) :
    toString n = text := by
  unfold writeInteger at h
  generalize isWritable n = w at h
  cases w with
  | false => simp at h
  | true => exact Except.ok.inj h

end Numeral

namespace Binary64

/-- The parts that a finite double is decoded into are bounded. -/
theorem decode_bounds {x : Float} {negative : Bool} {m : Nat} {q : Int}
    (h : decode x = .finite negative m q) : m < 2 ^ 53 ∧ q ≤ 971 := by
  unfold decode at h
  simp only at h
  split at h
  · split at h <;> contradiction
  · next hp =>
    have hf : x.toBits.toNat % 2 ^ 52 < 2 ^ 52 := Nat.mod_lt _ (by decide)
    have hq : x.toBits.toNat / 2 ^ 52 % 2 ^ 11 < 2 ^ 11 := Nat.mod_lt _ (by decide)
    split at h
    · cases h
      omega
    · cases h
      simp only [beq_iff_eq] at hp
      omega

/-- A significand that is scaled has no more digits than bits. -/
theorem scale_lt {m a b : Nat} {q : Int} (hm : m < 2 ^ a) (hq : q ≤ b) :
    (scale m q).1 < 10 ^ (a + b) := by
  have hten : 2 ^ (a + b) ≤ 10 ^ (a + b) := Nat.pow_le_pow_left (by decide) _
  have hle : q.toNat ≤ b := by omega
  unfold scale
  split
  · calc m * 2 ^ q.toNat
      _ ≤ m * 2 ^ b := Nat.mul_le_mul_left m (Nat.pow_le_pow_right (by decide) hle)
      _ < 2 ^ a * 2 ^ b := Nat.mul_lt_mul_of_pos_right hm (Nat.pow_pos (by decide))
      _ = 2 ^ (a + b) := (Nat.pow_add 2 a b).symm
      _ ≤ 10 ^ (a + b) := hten
  · calc m
      _ < 2 ^ a := hm
      _ ≤ 2 ^ (a + b) := Nat.pow_le_pow_right (by decide) (Nat.le_add_right a b)
      _ ≤ 10 ^ (a + b) := hten

/-- The integer that a double denotes can be written. -/
theorem isWritable_toInt? {x : Float} {n : Int} (h : toInt? x = some n) :
    Numeral.isWritable n = true := by
  unfold toInt? toRatio? at h
  cases hd : decode x with
  | notANumber => simp [hd] at h
  | infinite negative => simp [hd] at h
  | finite negative m q =>
    obtain ⟨hm, hq⟩ := decode_bounds hd
    have habs : (if negative then -((scale m q).1 : Int) else (scale m q).1).natAbs =
        (scale m q).1 := by
      split <;> simp
    simp only [hd] at h
    generalize (if negative then -((scale m q).1 : Int) else (scale m q).1) = num at h habs
    split at h
    · obtain rfl := Option.some.inj h
      have hlt : (num / ((scale m q).2 : Int)).natAbs < 10 ^ (53 + 971) := by
        refine Nat.lt_of_le_of_lt (Int.natAbs_ediv_le_natAbs num _) ?_
        rw [habs]
        exact scale_lt (a := 53) (b := 971) hm hq
      exact Numeral.isWritable_of_lt (by decide) hlt
    · contradiction

end Binary64

namespace Number

/-- A number is written exactly when it is no integer with too many digits. -/
theorem exists_plainText_iff (a : Number) :
    (∃ text, a.plainText = .ok text) ↔ ∀ n ∈ a.int?, Numeral.isWritable n = true := by
  cases a with
  | int n =>
    have hp : plainText (.int n) = Numeral.writeInteger n := rfl
    rw [hp, Numeral.exists_writeInteger_iff]
    simp [int?]
  | float x =>
    have h : ∃ text, plainText (.float x) = .ok text := by
      rw [plainText]
      cases ht : Binary64.toInt? x with
      | none =>
        have hf : fold (.float x) = .float x := by simp only [fold, ht]
        rw [hf]
        exact ⟨Decimal.text x, rfl⟩
      | some n =>
        have hf : fold (.float x) = .int n := by simp only [fold, ht]
        rw [hf]
        exact Numeral.exists_writeInteger_iff.mpr (Binary64.isWritable_toInt? ht)
    simpa [int?] using h

theorem onlyTooLarge_plainText (a : Number) : OnlyTooLarge a.plainText := by
  unfold plainText
  split
  · exact onlyTooLarge_writeInteger _
  · exact onlyTooLarge_ok _

/-- The text of a number in which a double without a fraction is written as an integer. -/
theorem isNumberText_plainText {a : Number} {text : String} (h : a.plainText = .ok text) :
    IsNumberText text := by
  unfold plainText at h
  cases hf : a.fold with
  | int n =>
    rw [hf] at h
    exact Numeral.eq_of_writeInteger h ▸ isNumberText_toString n
  | float x =>
    rw [hf] at h
    exact Except.ok.inj h ▸ Decimal.isNumberText_text x

end Number

/-! ### Samples -/

/-- The integer that is the sample of a stat, if its sample is one. -/
def sampleInteger? (stats : List Stat) (use : SampleUse) (id : Int) : Option Int :=
  (findStat stats id).bind fun s ↦
    match s.detail with
    | .numeric min max _ =>
      ((if use.profile.takesMax then max else min).getD (.int use.profile.unbounded)).int?
    | .enumeration source _ =>
      (((resolveOptions stats source).getD [])[use.profile.option]?).map (·.value)
    | .boolean _ | .text .. | .calculated .. => none

/-- The fixed samples are texts of numbers. -/
theorem SampleUse.isNumberText_profile (use : SampleUse) :
    IsNumberText use.profile.missing ∧ IsNumberText use.profile.text ∧
      IsNumberText use.profile.boolean ∧ IsNumberText use.profile.calculated ∧
      IsNumberText use.profile.noOption := by
  have hchars : ∀ text ∈ ["0", "1", "2", "3", "5"],
      text ≠ "" ∧ text.toList.all isNumberChar = true := by decide
  have digit : ∀ text ∈ ["0", "1", "2", "3", "5"], IsNumberText text :=
    fun text ht ↦ ⟨(hchars text ht).1, .inr (List.all_eq_true.mp (hchars text ht).2)⟩
  cases use <;> exact ⟨digit _ (by decide), digit _ (by decide), digit _ (by decide),
    digit _ (by decide), digit _ (by decide)⟩

/-- A sample is found exactly when its integer can be written. -/
theorem exists_sampleValue_iff {stats : List Stat} {use : SampleUse} {id : Int} :
    (∃ text, sampleValue stats use id = .ok text) ↔
      ∀ n ∈ sampleInteger? stats use id, Numeral.isWritable n = true := by
  unfold sampleValue sampleInteger?
  cases findStat stats id with
  | none => simp
  | some s =>
    simp only [Stat.sample, Option.bind_some]
    cases s.detail with
    | numeric min max rolls => exact Number.exists_plainText_iff _
    | enumeration source rolls =>
      cases ho : ((resolveOptions stats source).getD [])[use.profile.option]? with
      | none => simp [ho]
      | some o => simpa [ho] using Numeral.exists_writeInteger_iff
    | boolean rolls => simp
    | text low high => simp
    | calculated formula rolls => simp

theorem onlyTooLarge_sampleValue (stats : List Stat) (use : SampleUse) (id : Int) :
    OnlyTooLarge (sampleValue stats use id) := by
  unfold sampleValue
  split
  · unfold Stat.sample
    split
    · exact Number.onlyTooLarge_plainText _
    · exact onlyTooLarge_ok _
    · split
      · exact onlyTooLarge_writeInteger _
      · exact onlyTooLarge_ok _
    · exact onlyTooLarge_ok _
    · exact onlyTooLarge_ok _
  · exact onlyTooLarge_ok _

/-- A sample is the text of a number. -/
theorem isNumberText_sampleValue {stats : List Stat} {use : SampleUse} {id : Int} {text : String}
    (h : sampleValue stats use id = .ok text) : IsNumberText text := by
  obtain ⟨hmissing, htext, hboolean, hcalculated, hoption⟩ := use.isNumberText_profile
  unfold sampleValue at h
  cases hs : findStat stats id with
  | none =>
    rw [hs] at h
    exact Except.ok.inj h ▸ hmissing
  | some s =>
    simp only [hs, Stat.sample] at h
    cases hd : s.detail with
    | numeric min max rolls =>
      rw [hd] at h
      exact Number.isNumberText_plainText h
    | enumeration source rolls =>
      simp only [hd] at h
      cases ho : ((resolveOptions stats source).getD [])[use.profile.option]? with
      | none =>
        rw [ho] at h
        exact Except.ok.inj h ▸ hoption
      | some o =>
        rw [ho] at h
        exact Numeral.eq_of_writeInteger h ▸ isNumberText_toString o.value
    | boolean rolls =>
      rw [hd] at h
      exact Except.ok.inj h ▸ hboolean
    | text low high =>
      rw [hd] at h
      exact Except.ok.inj h ▸ htext
    | calculated formula rolls =>
      rw [hd] at h
      exact Except.ok.inj h ▸ hcalculated

/-! ### Shown texts -/

namespace Preview
variable {m : Type → Type} {p : Preview m}

/-- The integers in the text that is shown for the value of a stat. -/
def valueIntegers (p : Preview m) (s : Stat) : List Int :=
  match s.detail with
  | .numeric min _ _ => (min.getD (.int 1)).int?.toList
  | .enumeration source _ =>
    match resolveOptions p.system.stats source, source with
    | some (o :: _), _ => o.name.shownIntegers p.locale
    | _, .own _ => []
    | _, .sharedWith other => if 0 < other then [other] else []
  | .boolean _ | .text .. | .calculated .. => []

/-- The integers in the text that a reference stands for. -/
def shownIntegers (p : Preview m) (r : Reference) : List Int :=
  match r.subject, r.property with
  | .stat, .value => (findStat p.system.stats r.id).elim [] p.valueIntegers
  | .stat, .name => (findStat p.system.stats r.id).elim [] (·.name.shownIntegers p.locale)
  | .sheetSection, .name =>
    (findSection p.system.sections r.id).elim [] (·.name.shownIntegers p.locale)
  | _, _ => []

/-- A name is shown exactly when the integers in it can be written. -/
theorem exists_nameText_iff {name : Localization} {other : String} :
    (∃ text, p.nameText name other = .ok text) ↔
      ∀ n ∈ name.shownIntegers p.locale, Numeral.isWritable n = true := by
  rw [← Localization.exists_get_iff, nameText]
  cases name.get p.locale <;> simp [Except.map]

/-- The value of a stat is shown exactly when the integers in its text can be written. -/
theorem exists_shownValue_iff {s : Stat} :
    (∃ text, p.shownValue s = .ok text) ↔
      ∀ n ∈ p.valueIntegers s, Numeral.isWritable n = true := by
  unfold shownValue valueIntegers
  cases s.detail with
  | numeric min max rolls => simpa using Number.exists_plainText_iff (min.getD (.int 1))
  | enumeration source rolls =>
    cases source with
    | own options =>
      cases options with
      | nil => simp [resolveOptions]
      | cons o options => exact exists_nameText_iff
    | sharedWith other =>
      -- without options to show, the id of the stat that should have them is written
      have hid : (∃ text, (if 0 < other then (Numeral.writeInteger other).map fun digits ↦
            "[ref: " ++ digits ++ "]" else .ok "enum") = .ok text) ↔
          ∀ n ∈ (if 0 < other then [other] else []), Numeral.isWritable n = true := by
        split
        · rw [List.forall_mem_singleton, ← Numeral.exists_writeInteger_iff]
          cases Numeral.writeInteger other <;> simp [Except.map]
        · simp
      rcases ho : resolveOptions p.system.stats (.sharedWith other) with _ | _ | ⟨o, options⟩
      · simpa only [ho] using hid
      · simpa only [ho] using hid
      · simpa only [ho] using exists_nameText_iff
  | boolean rolls => simp
  | text low high => simp
  | calculated formula rolls => simp

/-- What a reference stands for is shown exactly when the integers in it can be written. -/
theorem exists_reference_iff {r : Reference} :
    (∃ text, p.reference r = .ok text) ↔
      ∀ n ∈ p.shownIntegers r, Numeral.isWritable n = true := by
  obtain ⟨subject, id, property⟩ := r
  unfold reference Preview.property shownIntegers
  cases subject with
  | stat =>
    unfold statProperty
    cases findStat p.system.stats id with
    | none => cases property <;> simp
    | some s =>
      cases property with
      | value => simpa [Property.word] using exists_shownValue_iff
      | name => simpa [Property.word] using exists_nameText_iff
      | emoji => simp [Property.word]
  | sheetSection =>
    unfold sectionProperty
    cases findSection p.system.sections id with
    | none => cases property <;> simp
    | some s =>
      cases property with
      | value => simp [Property.word]
      | name => simpa [Property.word] using exists_nameText_iff
      | emoji => simp [Property.word]

theorem onlyTooLarge_nameText (name : Localization) (other : String) :
    OnlyTooLarge (p.nameText name other) :=
  (name.onlyTooLarge_get p.locale).map _

theorem onlyTooLarge_shownValue (s : Stat) : OnlyTooLarge (p.shownValue s) := by
  unfold shownValue
  split
  · exact Number.onlyTooLarge_plainText _
  · exact onlyTooLarge_ok _
  · exact onlyTooLarge_ok _
  · exact onlyTooLarge_ok _
  · split
    · exact onlyTooLarge_nameText _ _
    · exact onlyTooLarge_ok _
    · split
      · exact (onlyTooLarge_writeInteger _).map _
      · exact onlyTooLarge_ok _

theorem onlyTooLarge_reference (r : Reference) : OnlyTooLarge (p.reference r) := by
  unfold reference Preview.property statProperty sectionProperty
  split
  · split
    · exact onlyTooLarge_ok _
    · split_ifs
      · exact onlyTooLarge_nameText _ _
      · exact onlyTooLarge_ok _
      · exact onlyTooLarge_shownValue _
      · exact onlyTooLarge_ok _
  · split
    · exact onlyTooLarge_ok _
    · split_ifs
      · exact onlyTooLarge_nameText _ _
      · exact onlyTooLarge_ok _
      · exact onlyTooLarge_ok _

end Preview
end CharacterSheet
