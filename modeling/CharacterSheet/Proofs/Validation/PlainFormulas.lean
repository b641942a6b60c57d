import CharacterSheet.Evaluation
import CharacterSheet.Proofs.Arithmetic.Orderly
import CharacterSheet.Proofs.Arithmetic.PlainTexts
import CharacterSheet.Proofs.Preview.Payload
import CharacterSheet.Proofs.Preview.Samples
import CharacterSheet.Proofs.Validation.Clean
import CharacterSheet.Proofs.Validation.Previews
import CharacterSheet.Proofs.Validation.Totality

/-!
# Plain formulas

A plain formula is written with digits, signs, products and brackets, and with values of stats.
Strict validation reads it with samples in the place of the values, but does not calculate it.
Main statement: in a schema in which strict validation finds nothing, samples are found for the
values in a plain formula, and what they leave is read as a program; where it is orderly, the value
of an expression is found for it, and an integer if all its numbers are integers.
-/

namespace CharacterSheet
open Arithmetic Mention Validation
open Arithmetic.Template (bind_eq_ok)

/-- Whether a character may stand anywhere in a plain formula. -/
def isFormulaChar (c : Char) : Bool :=
  c.isDigit || Text.isBlank c || ['+', '-', '(', ')'].contains c

/-- A formula of digits, signs, brackets, blanks and values of stats, and of asterisks of which no
two stand in a row, because these would be a power. -/
inductive PlainFormula : List Char → Prop where
  | nil : PlainFormula []
  | char {c : Char} {cs : List Char} (hc : isFormulaChar c = true) (h : PlainFormula cs) :
    PlainFormula (c :: cs)
  | times {cs : List Char} (hcs : cs.head? ≠ some '*') (h : PlainFormula cs) :
    PlainFormula ('*' :: cs)
  | value {m : Mention} {cs : List Char} (hm : m.IsProper) (hv : m.isStatValue = true)
    (h : PlainFormula cs) : PlainFormula (m.source ++ cs)

/-- Characters that may stand anywhere are a plain formula. -/
theorem PlainFormula.of_chars {cs : List Char} (h : cs.all isFormulaChar = true) :
    PlainFormula cs := by
  induction cs with
  | nil => exact .nil
  | cons c cs ih =>
    rw [List.all_cons, Bool.and_eq_true] at h
    exact .char h.1 (ih h.2)

/-! ### Samples in plain texts -/

theorem isPlainChar_of_isFormulaChar {c : Char} (h : isFormulaChar c = true) :
    isPlainChar c = true := by
  simp only [isFormulaChar, isPlainChar, Lexeme.isNumeralChar, Bool.or_eq_true] at h ⊢
  rcases h with (h | h) | h
  · exact .inl (.inl (.inl h))
  · exact .inl (.inr h)
  · exact .inr h

/-- The text of a number is plain wherever it stands. -/
theorem Arithmetic.PlainText.append_numberText {text : String} {cs : List Char}
    (ht : IsNumberText text) (h : PlainText cs) : PlainText (text.toList ++ cs) := by
  obtain hword | hchars := ht.chars
  · simp only [List.mem_cons, List.not_mem_nil, or_false] at hword
    obtain rfl | rfl | rfl := hword
    · exact h.word (w := ['n', 'a', 'n']) (by decide)
    · exact h.word (w := ['i', 'n', 'f']) (by decide)
    · exact (h.word (w := ['i', 'n', 'f']) (by decide)).char (c := '-') (by decide +kernel)
  · generalize text.toList = ds at hchars
    induction ds with
    | nil => exact h
    | cons d ds ih =>
      obtain ⟨hd, hds⟩ := List.forall_mem_cons.mp hchars
      by_cases he : d = 'e'
      · subst he
        exact (ih hds).word (w := ['e']) (by decide)
      · have hplain : d.isDigit = true ∨ d = '.' ∨ d = '+' ∨ d = '-' := by
          simpa [isNumberChar, he] using hd
        refine (ih hds).char ?_
        rcases hplain with hdigit | rfl | rfl | rfl
        · rw [isPlainChar, Lexeme.isNumeralChar, hdigit]
          rfl
        · decide +kernel
        · decide +kernel
        · decide +kernel

/-- The text of a number does not start with an asterisk. -/
theorem IsNumberText.head?_ne {text : String} (ht : IsNumberText text) (cs : List Char) :
    (text.toList ++ cs).head? ≠ some '*' := by
  intro hs
  cases hl : text.toList with
  | nil => exact ht.ne_empty (String.toList_eq_nil_iff.mp hl)
  | cons c tail =>
    rw [hl] at hs
    obtain rfl := Option.some.inj hs
    obtain hword | hchars := ht.chars
    · have : ∀ word ∈ ["nan", "inf", "-inf"], word.toList.head? ≠ some '*' := by decide
      exact this text hword (by rw [hl]; rfl)
    · exact absurd (hchars '*' (by rw [hl]; exact List.mem_cons_self)) (by decide)

/-- A character that opens no reference stays what it is. -/
theorem exists_parts_of_cons {c : Char} {cs : List Char} (hc : c ≠ '<')
    {value : Nat → Except NumeralError String} {parts : List (List Char)}
    (hp : (pieces isStatValue (c :: cs)).mapM (Piece.replaced fun r ↦ value r.id) = .ok parts) :
    ∃ rest, (pieces isStatValue cs).mapM (Piece.replaced fun r ↦ value r.id) = .ok rest ∧
      parts.flatten = c :: rest.flatten := by
  have hfront : '<' ∉ [c] := by simpa using hc.symm
  have hpieces := pieces_append_of_notMem isStatValue hfront cs
  rw [List.singleton_append] at hpieces
  rw [hpieces, List.map_singleton, List.singleton_append, List.mapM_cons] at hp
  obtain ⟨part, hpart, hp⟩ := bind_eq_ok hp
  obtain ⟨rest, hrest, hp⟩ := bind_eq_ok hp
  cases hp
  cases hpart
  exact ⟨rest, hrest, rfl⟩

/-- What samples leave of a plain formula is a plain text. -/
theorem PlainFormula.plainText {cs : List Char} (h : PlainFormula cs)
    {value : Nat → Except NumeralError String}
    (hv : ∀ id text, value id = .ok text → IsNumberText text) {parts : List (List Char)}
    (hp : (pieces isStatValue cs).mapM (Piece.replaced fun r ↦ value r.id) = .ok parts) :
    PlainText parts.flatten ∧ (cs.head? ≠ some '*' → parts.flatten.head? ≠ some '*') := by
  induction h generalizing parts with
  | nil =>
    rw [pieces] at hp
    cases hp
    exact ⟨.nil, id⟩
  | @char c cs hc h ih =>
    have hne : c ≠ '<' := by
      rintro rfl
      exact absurd hc (by decide +kernel)
    obtain ⟨rest, hrest, hparts⟩ := exists_parts_of_cons hne hp
    rw [hparts]
    exact ⟨(ih hrest).1.char (isPlainChar_of_isFormulaChar hc), id⟩
  | @times cs hcs h ih =>
    obtain ⟨rest, hrest, hparts⟩ := exists_parts_of_cons (by decide) hp
    rw [hparts]
    exact ⟨(ih hrest).1.times ((ih hrest).2 hcs), id⟩
  | @value m cs hm hvm h ih =>
    rw [pieces_of_read? (read?_source hm cs) hvm, List.mapM_cons] at hp
    obtain ⟨part, hpart, hp⟩ := bind_eq_ok hp
    obtain ⟨rest, hrest, hp⟩ := bind_eq_ok hp
    cases hp
    obtain ⟨r, hr, hpart⟩ := bind_eq_ok hpart
    obtain ⟨text, htext, hpart⟩ := bind_eq_ok hpart
    cases hpart
    have hnumber := hv _ _ htext
    exact ⟨(ih hrest).1.append_numberText hnumber, fun _ ↦ hnumber.head?_ne _⟩

/-- With samples in the place of values, a plain formula is a plain text. -/
theorem plainText_of_substituteStatValues {stats : List Stat} {formula payload : String}
    (h : PlainFormula formula.toList)
    (hp : substituteStatValues (fun id : Nat ↦ sampleValue stats .math id) formula = .ok payload) :
    PlainText payload.toList := by
  obtain ⟨parts, hparts, hp⟩ := bind_eq_ok hp
  cases hp
  rw [String.toList_ofList]
  exact (h.plainText (fun _ _ ht ↦ isNumberText_sampleValue ht) hparts).1

/-! ### Programs and what they come to -/

/-- An expression is not empty. -/
theorem Arithmetic.Program.compile_empty_ne_ok (p : Program) : Program.compile "" ≠ .ok p := by
  simp [Program.compile, Assembly.run, Assembly.finish, Except.mapError]

/-- The number that is found for an expression is what its program comes to. -/
theorem Arithmetic.find_eq_ok_iff {text : String} {p : Program}
    (h : Program.compile (Text.trimmed text) = .ok p) {n : Number} :
    find text = .ok n ↔ ((p.value []).run {} >>= fun result ↦ result.1.toNumber) = .ok n := by
  have hempty : (Text.trimmed text).isEmpty = false := by
    rw [Bool.eq_false_iff]
    intro he
    rw [String.isEmpty_iff.mp he] at h
    exact Program.compile_empty_ne_ok p h
  have heval : evaluate text = (p.value []).run {} >>= fun result ↦ result.1.toNumber := by
    simp only [evaluate, hempty, h]
    rfl
  rw [find, heval]
  cases (p.value []).run {} >>= fun result ↦ result.1.toNumber <;> simp [Except.mapError]

/-- An expression with a value is found to be its value. -/
theorem Arithmetic.find_of_postfixed {text : String} {e : Expression} {n : Number}
    (h : Program.compile (Text.trimmed text) = .ok e.postfixed) (hn : e.value = .ok n) :
    find text = .ok n.fold := by
  rw [find_eq_ok_iff h, Program.value, e.run_postfixed hn]
  rfl

namespace GameSystem

/-! ### A stat with a negative least value -/

/-- Where all ids can be read and all integers can be written, strict validation finds nothing in a
clean schema that is linked. -/
theorem issues_eq_nil_of_isLinked {s : GameSystem} (hd : (Draft.ofSystem s).IsLegible)
    (hi : (Draft.ofSystem s).InitiativeIsReadable) (hc : s.IsClean) (hl : s.IsLinked) :
    s.issues true = .ok [] := by
  obtain ⟨strict, hs⟩ := (exists_draftIssues_iff hd true).mpr fun _ ↦ hi
  obtain ⟨plain, hp, hx⟩ := extends_issues (s := s) hs
  obtain rfl : [] = plain := Except.ok.inj ((issues_eq_nil_iff_isClean.mpr hc).symm.trans hp)
  have hnil : strict = [] := hx.eq_nil_iff.mpr ⟨rfl, hl⟩
  exact hs.trans (congrArg _ hnil)

/-- A schema in which a stat is calculated from another with minus three for its least value. -/
def calculatedBy (formula : String) : GameSystem :=
  calculatedBeside (.numeric (some (.int (-3))) none {}) formula

/-- Strict validation finds nothing when the formula has the form of an expression. -/
theorem issues_calculatedBy {formula : String} (hdeps : dependencies formula = .ok [1])
    (hne : formula ≠ "") (hform : HasForm (calculatedBy formula).stats formula) :
    (calculatedBy formula).issues true = .ok [] := by
  have hwritable {n : Int} (hn : n.natAbs < 10) : Numeral.isWritable n = true :=
    Numeral.isWritable_of_lt (k := 1) (by decide) hn
  have hone : Numeral.isWritable 1 = true := hwritable (by decide)
  have htwo : Numeral.isWritable 2 = true := hwritable (by decide)
  have hleast : ∀ n ∈ some (Number.int (-3)), n.IsWritable := by
    rintro n ⟨⟩ i ⟨⟩
    exact hwritable (by decide)
  have hname {text : String} (h : text.length ≤ maxDigits) :
      ({ default := text } : Localization).IsLegible := ⟨readableIds_of_length_le h, nofun, nofun⟩
  have hrolls : Rolls.IsLegible {} := ⟨nofun, nofun⟩
  have hclean : (calculatedBy formula).IsClean :=
    isClean_calculatedBeside hdeps hne ⟨by decide, nofun, nofun, nofun⟩ rfl rfl
  refine issues_eq_nil_of_isLinked ⟨?_, nofun, nofun⟩ nofun hclean ⟨?_, ?_, nofun, nofun⟩
  · intro e he
    obtain ⟨stat, hm, rfl⟩ := List.mem_map.mp he
    obtain rfl | rfl := List.mem_pair.mp hm
    · refine ⟨?_, ?_⟩
      · rintro stat ⟨⟩
        exact ⟨hone, hname (by decide), nofun, hleast, nofun, hrolls⟩
      · rintro id ⟨⟩
        exact hone
    · refine ⟨?_, ?_⟩
      · rintro stat ⟨⟩
        exact ⟨htwo, hname (by decide), nofun, readableIds_of_dependencies hdeps, hrolls⟩
      · rintro id ⟨⟩
        exact htwo
  · intro stat hm
    obtain rfl | rfl := List.mem_pair.mp hm
    · exact ⟨nofun, nofun⟩
    · refine ⟨nofun, ?_⟩
      rintro f ⟨⟩
      exact hform
  · intro stat hm
    obtain rfl | rfl := List.mem_pair.mp hm <;> exact ⟨nofun, nofun, nofun⟩

/-- The value of the other stat may stand in front of a plain formula. -/
theorem plainFormula_value {cs : List Char} (h : PlainFormula cs) :
    PlainFormula ("<stat:1:value>".toList ++ cs) :=
  .value (m := ⟨.stat, ['1'], .value⟩) ⟨by decide, List.forall_mem_singleton.mpr (by decide)⟩ rfl h

/-! ### Main statement -/

/-- Where strict validation finds nothing, samples are found for the values in a plain formula, and
what they leave is read as a program. A number is found for it exactly when the program is an
expression in which no integer that is too large for a double is calculated with a double. Where
what the samples leave is orderly, the program is such an expression, of the numbers that are read:
its value is found if it has one, and if all of these numbers are integers it has one. -/
theorem plain_formula_evaluates {s : GameSystem} (h : s.issues true = .ok []) {stat : Stat}
    (hs : stat ∈ s.stats) {formula : String} (hf : stat.formula? = some formula)
    (hplain : PlainFormula formula.toList) :
    ∃ payload lexemes program,
      substituteStatValues (fun id : Nat ↦ sampleValue s.stats .math id) formula = .ok payload ∧
      Lexeme.ReadAll (Text.trimmed payload).toList lexemes ∧
      Program.compile (Text.trimmed payload) = .ok program ∧
      ((∃ n, find payload = .ok n) ↔ ∃ e : Expression, e.postfixed = program ∧ e.Fits) ∧
      (IsOrderly lexemes → ∃ e : Expression, e.postfixed = program ∧
        e.numbers = lexemes.filterMap Lexeme.number? ∧
        (e.Fits → ∃ n, e.value = .ok n ∧ find payload = .ok n.fold) ∧
        ((∀ x, .float x ∉ e.numbers) →
          ∃ i : Int, e.value = .ok (.int i) ∧ find payload = .ok (.int i))) := by
  obtain ⟨payload, hpayload, hform⟩ := ((isLinked_of_issues h).details stat hs).form formula hf
  cases hc : Program.compile (Text.trimmed payload) with
  | error e =>
    rw [checkForm, hc] at hform
    cases hform
  | ok program =>
    have htext : PlainText (Text.trimmed payload).toList := by
      rw [Text.trimmed, String.toList_ofList]
      exact (plainText_of_substituteStatValues hplain hpayload).trim
    have hsteps := Program.isPlain_of_compile htext hc
    obtain ⟨lexemes, hread⟩ := Program.exists_readAll_of_compile hc
    refine ⟨payload, lexemes, program, hpayload, hread, hc, ?_, fun ho ↦ ?_⟩
    · simp only [find_eq_ok_iff hc, Program.exists_toNumber_value_iff hsteps]
    · obtain ⟨e, rfl, hnumbers⟩ := Program.exists_postfixed_eq_of_isOrderly hread ho hc
      refine ⟨e, rfl, hnumbers, fun hfits ↦ ?_, fun hint ↦ ?_⟩
      · obtain ⟨n, hn⟩ := e.exists_value_iff.mpr hfits
        exact ⟨n, hn, find_of_postfixed hc hn⟩
      · obtain ⟨i, hi⟩ := Expression.exists_value_eq_int hint
        exact ⟨i, hi, find_of_postfixed hc hi⟩

/-- In twice the stat, the stat stands in brackets. -/
theorem plain_formula_evaluates_brackets :
    let s := calculatedBy "2*(<stat:1:value>)"
    s.issues true = .ok [] ∧ PlainFormula "2*(<stat:1:value>)".toList ∧
      substituteStatValues (fun id : Nat ↦ sampleValue s.stats .math id) "2*(<stat:1:value>)" =
        .ok "2*(-3)" ∧
      find "2*(-3)" = .ok (.int (-6)) := by
  intro s
  have hsamples : substituteStatValues (fun id : Nat ↦ sampleValue s.stats .math id)
      "2*(<stat:1:value>)" = .ok "2*(-3)" := by decide +kernel
  have h : s.issues true = .ok [] :=
    issues_calculatedBy (by decide +kernel) (by decide) ⟨"2*(-3)", hsamples, by decide +kernel⟩
  have hbrackets : PlainFormula "(<stat:1:value>)".toList :=
    .char (by decide +kernel) (plainFormula_value (.char (by decide +kernel) .nil))
  have hplain : PlainFormula "2*(<stat:1:value>)".toList :=
    .char (by decide +kernel) (.times (by decide) hbrackets)
  obtain ⟨payload, lexemes, program, hpayload, hread, hc, -, hvalue⟩ :=
    plain_formula_evaluates h (List.mem_pair.mpr (.inr rfl)) rfl hplain
  obtain rfl : "2*(-3)" = payload := Except.ok.inj (hsamples.symm.trans hpayload)
  have hlexemes : Lexeme.ReadAll "2*(-3)".toList [.number (.int 2), .operator .multiply, .opening,
      .operator .subtract, .number (.int 3), .closing] :=
    .cons rfl (.cons rfl (.cons rfl (.cons rfl (.cons rfl (.cons rfl .nil)))))
  obtain rfl := hread.unique hlexemes
  obtain ⟨e, -, hnumbers, -, hint⟩ := hvalue (by decide)
  obtain ⟨i, -, hi⟩ := hint (by simp [hnumbers, Lexeme.number?])
  have hsix : (find "2*(-3)").toOption.bind Number.int? = some (-6) := by decide +kernel
  obtain rfl : i = -6 := by simpa [hi, Except.toOption, Number.int?] using hsix
  exact ⟨h, hplain, hsamples, hi⟩

/-- A plain formula in which strict validation finds nothing, but which has no number once minus
three is put into it. -/
def IsValueless (formula payload : String) : Prop :=
  (calculatedBy formula).issues true = .ok [] ∧ PlainFormula formula.toList ∧
    substituteStatValues (fun id : Nat ↦ sampleValue (calculatedBy formula).stats .math id)
      formula = .ok payload ∧
    ∀ n, find payload ≠ .ok n

/-- Strict validation accepts what has a form, also when no number is found for it. -/
theorem isValueless_of_samples {formula payload : String} (hplain : PlainFormula formula.toList)
    (h : dependencies formula = .ok [1] ∧ formula ≠ "" ∧
      substituteStatValues (fun id : Nat ↦ sampleValue (calculatedBy formula).stats .math id)
        formula = .ok payload ∧
      checkForm payload = none ∧ (find payload).toOption.isSome = false) :
    IsValueless formula payload := by
  obtain ⟨hdeps, hne, hsamples, hform, hnone⟩ := h
  refine ⟨issues_calculatedBy hdeps hne ⟨payload, hsamples, hform⟩, hplain, hsamples, ?_⟩
  intro n hn
  simp [hn, Except.toOption] at hnone

/-- The sign of the sample comes behind an asterisk or behind another sign; brackets stand behind
brackets, or are empty; and numbers stand side by side, so that there is a number too many for the
operators that find none. -/
theorem plain_formula_without_value :
    IsValueless "2*<stat:1:value>" "2*-3" ∧ IsValueless "-<stat:1:value>" "--3" ∧
      IsValueless "(<stat:1:value>)(2)" "(-3)(2)" ∧ IsValueless "()-<stat:1:value>" "()--3" ∧
      IsValueless "<stat:1:value> * * 2 3" "-3 * * 2 3" := by
  refine ⟨isValueless_of_samples ?_ (by decide +kernel),
    isValueless_of_samples ?_ (by decide +kernel), isValueless_of_samples ?_ (by decide +kernel),
    isValueless_of_samples ?_ (by decide +kernel), isValueless_of_samples ?_ (by decide +kernel)⟩
  · exact .char (by decide +kernel) (.times (by decide) (plainFormula_value .nil))
  · exact .char (by decide +kernel) (plainFormula_value .nil)
  · exact .char (by decide +kernel) (plainFormula_value (.of_chars (by decide +kernel)))
  · exact .char (by decide +kernel) (.char (by decide +kernel) (.char (by decide +kernel)
      (plainFormula_value .nil)))
  · exact plainFormula_value (.char (by decide +kernel) (.times (by decide)
      (.char (by decide +kernel) (.times (by decide) (.of_chars (by decide +kernel))))))

end GameSystem
end CharacterSheet
