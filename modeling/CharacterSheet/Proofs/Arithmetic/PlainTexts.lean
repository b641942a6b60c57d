import CharacterSheet.Proofs.Arithmetic.Parts
import CharacterSheet.Proofs.Arithmetic.Postfix

/-!
# Plain texts

A plain text is written with the characters of numerals, signs, products and brackets, with blanks,
and with the words that a double may be written as that is infinite or no number. It asks for no
other operators and names no function. Main statement: the program of a plain text takes plain
steps alone.
-/

namespace CharacterSheet.Arithmetic
open Text

/-- The words in plain texts: of infinite doubles, of doubles that are no numbers, and of
exponents. -/
def plainWords : List (List Char) := [['i', 'n', 'f'], ['n', 'a', 'n'], ['e']]

theorem mem_plainWords {w : List Char} :
    w ∈ plainWords ↔ w = ['i', 'n', 'f'] ∨ w = ['n', 'a', 'n'] ∨ w = ['e'] := by
  simp [plainWords]

/-- Whether a character may stand anywhere in a plain text. -/
def isPlainChar (c : Char) : Bool :=
  Lexeme.isNumeralChar c || isBlank c || ['+', '-', '(', ')'].contains c

/-- A text of plain characters, plain words, and asterisks of which no two stand in a row. -/
inductive PlainText : List Char → Prop where
  | nil : PlainText []
  | char {c : Char} {cs : List Char} (hc : isPlainChar c = true) (h : PlainText cs) :
    PlainText (c :: cs)
  | times {cs : List Char} (hcs : cs.head? ≠ some '*') (h : PlainText cs) : PlainText ('*' :: cs)
  | word {w cs : List Char} (hw : w ∈ plainWords) (h : PlainText cs) : PlainText (w ++ cs)

/-- A lexeme that plain texts are read as. -/
inductive Lexeme.IsPlain : Lexeme → Prop where
  | operation (op : Operation) : IsPlain (.operator op.operator)
  | number (n : Number) : IsPlain (.number n)
  | opening : IsPlain .opening
  | closing : IsPlain .closing
  | blank : IsPlain .blank
  | unknown {name : String} (h : Function.named.lookup name = none) : IsPlain (.variable name)

namespace Lexeme

/-- Where no operator and no quoted text starts, a number is read, or what is neither. -/
theorem read_cases {cs rest : List Char} {l : Lexeme} (hs : readSymbol? cs = none)
    (hq : cs.head? ≠ some '\'' ∧ cs.head? ≠ some '"') (hr : read cs = .ok (l, rest)) :
    (∃ n, l = .number n ∧ readNumber cs = .ok (some (n, rest))) ∨
      readNumber cs = .ok none ∧ readMark cs = .ok (l, rest) := by
  simp only [read, hs] at hr
  split at hr
  · cases hr
  · next n behind hn =>
    cases hr
    exact .inl ⟨n, rfl, hn⟩
  · next hn =>
    cases cs with
    | nil => exact .inr ⟨hn, hr⟩
    | cons c cs =>
      have hc : (c = '\'' || c = '"') = false := by simpa using hq
      dsimp only at hr
      rw [hc] at hr
      exact .inr ⟨hn, hr⟩

/-- Where a digit or a point stands, a number starts. -/
theorem readNumber_ne_none {c : Char} (hc : isNumeralChar c = true) (cs : List Char) :
    readNumber (c :: cs) ≠ .ok none := by
  intro hn
  have hE : (c :: cs).head? ≠ some 'E' := by
    rintro ⟨⟩
    exact absurd hc (by decide)
  rw [readNumber, if_neg hE] at hn
  split at hn
  · split at hn <;> cases hn
  · rw [List.takeWhile_cons_of_pos hc] at hn
    dsimp only [List.isEmpty_cons] at hn
    rw [if_neg (by decide)] at hn
    split at hn <;> cases hn

end Lexeme

namespace PlainText

/-- What a plain text starts with. -/
theorem head_cases {c : Char} {cs : List Char} (h : PlainText (c :: cs)) :
    isPlainChar c = true ∨ c = '*' ∨ ∃ w ∈ plainWords, w.head? = some c := by
  generalize hs : c :: cs = s at h
  cases h with
  | nil => contradiction
  | char hd h =>
    obtain ⟨rfl, -⟩ := List.cons.inj hs
    exact .inl hd
  | times hd h => exact .inr (.inl (List.cons.inj hs).1)
  | @word w ds hw h =>
    cases w with
    | nil => exact absurd hw (by decide)
    | cons d w =>
      obtain ⟨rfl, -⟩ := List.cons.inj hs
      exact .inr (.inr ⟨_, hw, rfl⟩)

/-- What starts no plain word may be left out at the front of a text. -/
theorem of_cons {c : Char} {cs : List Char} (h : PlainText (c :: cs))
    (hc : ∀ w ∈ plainWords, w.head? ≠ some c) : PlainText cs := by
  generalize hs : c :: cs = s at h
  cases h with
  | nil => contradiction
  | char hd h | times hd h =>
    obtain ⟨rfl, rfl⟩ := List.cons.inj hs
    exact h
  | @word w ds hw h =>
    cases w with
    | nil => exact absurd hw (by decide)
    | cons d w =>
      obtain ⟨rfl, -⟩ := List.cons.inj hs
      exact absurd rfl (hc _ hw)

/-- An exponent may lose its letter. -/
theorem of_exponent {cs : List Char} (h : PlainText ('e' :: cs)) : PlainText cs := by
  generalize hs : 'e' :: cs = s at h
  cases h with
  | nil => contradiction
  | char _ h | times _ h =>
    obtain ⟨-, rfl⟩ := List.cons.inj hs
    exact h
  | @word w ds hw h =>
    obtain rfl | rfl | rfl := mem_plainWords.mp hw
    · exact absurd (List.cons.inj hs).1 (by decide)
    · exact absurd (List.cons.inj hs).1 (by decide)
    · obtain ⟨-, rfl⟩ := List.cons.inj hs
      exact h

section
variable {p : Char → Bool} {cs : List Char}

/-- What is left of a plain text from the first character on that is not of a kind is plain, when
no plain word starts with a character of that kind. -/
theorem dropWhile (hp : ∀ w ∈ plainWords, w.head?.any p = false) (h : PlainText cs) :
    PlainText (cs.dropWhile p) := by
  induction h with
  | nil => exact .nil
  | @char c cs hc h ih =>
    rw [List.dropWhile_cons]
    split
    · exact ih
    · exact h.char hc
  | @times cs hcs h ih =>
    rw [List.dropWhile_cons]
    split
    · exact ih
    · exact h.times hcs
  | @word w cs hw h ih =>
    have hn := hp w hw
    cases w with
    | nil => exact absurd hw (by decide)
    | cons c w =>
      rw [List.cons_append, List.dropWhile_cons_of_neg (by simpa using hn)]
      exact h.word hw

/-- A plain text may lose its first character when no plain word starts with one of its kind. -/
theorem drop_optionalChar (hp : ∀ w ∈ plainWords, w.head?.any p = false) (h : PlainText cs) :
    PlainText (cs.drop (Lexeme.optionalChar p cs).length) := by
  cases cs with
  | nil => exact .nil
  | cons c cs =>
    by_cases hc : p c = true
    · have ho : Lexeme.optionalChar p (c :: cs) = [c] := by simp [Lexeme.optionalChar, hc]
      rw [ho]
      refine h.of_cons fun w hw he ↦ ?_
      have := hp w hw
      rw [he, Option.any_some, hc] at this
      contradiction
    · have ho : Lexeme.optionalChar p (c :: cs) = [] := by simp [Lexeme.optionalChar, hc]
      rw [ho]
      exact h

/-- A plain word belongs to a name as a whole. -/
theorem nameLength_word {w : List Char} (hw : w ∈ plainWords) (cs : List Char) :
    Lexeme.nameLength false (w ++ cs) = w.length + Lexeme.nameLength false cs := by
  obtain rfl | rfl | rfl := mem_plainWords.mp hw <;>
    simp [Lexeme.nameLength, Lexeme.isWordChar, isTwoCaseLetter] <;> omega

/-- What stands behind a name at the front of a plain text is plain. -/
theorem drop_nameLength (h : PlainText cs) : PlainText (cs.drop (Lexeme.nameLength false cs)) := by
  induction h with
  | nil => exact .nil
  | @char c cs hc h ih =>
    have hq : c ≠ '"' := by
      rintro rfl
      exact absurd hc (by decide +kernel)
    rw [Lexeme.nameLength, if_neg hq]
    split
    · exact ih
    · exact h.char hc
  | @times cs hcs h ih => exact h.times hcs
  | @word w cs hw h ih =>
    rw [nameLength_word hw, List.drop_length_add_append]
    exact ih

end

/-- What stands behind a numeral with an exponent is plain. -/
theorem of_scientific? {cs numeral rest : List Char} (h : PlainText cs)
    (hs : Lexeme.scientific? cs = some (numeral, rest)) : PlainText rest := by
  have hdigits {ds : List Char} (hd : PlainText ds) : PlainText (ds.dropWhile Char.isDigit) :=
    hd.dropWhile (by decide)
  have hfraction := hdigits ((hdigits h).drop_optionalChar (p := (· = '.')) (by decide))
  unfold Lexeme.scientific? at hs
  dsimp only at hs
  generalize ((cs.dropWhile Char.isDigit).drop _).dropWhile Char.isDigit = ds at hs hfraction
  cases ds with
  | nil => cases hs
  | cons e more =>
    dsimp only at hs
    split at hs
    · next he =>
      have hmore : PlainText more := by
        obtain rfl | rfl : e = 'e' ∨ e = 'E' := by simpa using he
        · exact hfraction.of_exponent
        · exact hfraction.of_cons (by decide)
      split at hs
      · cases hs
      · cases hs
        exact hdigits (hmore.drop_optionalChar (by decide))
    · cases hs

/-- What stands behind a number at the front of a plain text is plain. -/
theorem of_readNumber {cs rest : List Char} {n : Number} (h : PlainText cs)
    (hn : Lexeme.readNumber cs = .ok (some (n, rest))) : PlainText rest := by
  unfold Lexeme.readNumber at hn
  split at hn
  · cases hn
  · split at hn
    · next hs =>
      split at hn
      · cases hn
        exact h.of_scientific? hs
      · cases hn
    · dsimp only at hn
      split at hn
      · cases hn
      · split at hn
        · cases hn
          exact h.dropWhile (by decide)
        · cases hn

/-- A text is not found among others when it goes on after a word otherwise than all that start
with the word. -/
theorem lookup_eq_none {α : Type} {entries : List (String × α)} {w t : List Char}
    (h : ∀ entry ∈ entries, w <+: entry.1.toList → entry.1.toList.drop w.length ≠ t) :
    entries.lookup (String.ofList (w ++ t)) = none := by
  rw [List.lookup_eq_none_iff]
  intro entry he
  rw [bne_iff_ne]
  intro hs
  have hl : entry.1.toList = w ++ t := by rw [← hs, String.toList_ofList]
  refine h entry he ⟨t, hl.symm⟩ ?_
  rw [hl, List.drop_left]

/-- A plain word belongs to a word of letters as a whole. -/
theorem wordOf_word {w : List Char} (hw : w ∈ plainWords) (cs : List Char) :
    Lexeme.wordOf (w ++ cs) = w ++ cs.takeWhile Lexeme.isWordChar := by
  obtain rfl | rfl | rfl := mem_plainWords.mp hw <;>
    simp [Lexeme.wordOf, Lexeme.isWordChar, isTwoCaseLetter]

/-- A plain word starts a name. -/
theorem readName?_word {w : List Char} (hw : w ∈ plainWords) (cs : List Char) :
    Lexeme.readName? (w ++ cs) = some
      (w ++ cs.take (Lexeme.nameLength false cs), cs.drop (Lexeme.nameLength false cs)) := by
  rw [← List.take_length_add_append, ← List.drop_length_add_append, ← nameLength_word hw]
  obtain rfl | rfl | rfl := mem_plainWords.mp hw <;> rfl

/-- No letter that may go on a plain word to the name of a function stands in a plain text. -/
theorem head?_takeWhile_ne {cs : List Char} (h : PlainText cs) :
    (cs.takeWhile Lexeme.isWordChar).head? ≠ some 'x' := by
  cases cs with
  | nil => simp
  | cons c cs =>
    rw [List.takeWhile_cons]
    split
    · rintro ⟨⟩
      exact absurd h.head_cases (by decide +kernel)
    · simp

/-- No word of operators starts with a plain word. -/
theorem lookup_operatorWords_word {w : List Char} (hw : w ∈ plainWords) (cs : List Char) :
    Lexeme.operatorWords.lookup (String.ofList (w ++ cs)) = none := by
  have hnone : ∀ entry ∈ Lexeme.operatorWords, ∀ w ∈ plainWords, ¬w <+: entry.1.toList := by
    decide
  exact lookup_eq_none fun entry he hp ↦ absurd hp (hnone entry he w hw)

/-- No function that is called by its name has one that starts with a plain word. -/
theorem lookup_named_word {w : List Char} (hw : w ∈ plainWords) (cs : List Char) :
    Function.named.lookup (String.ofList (w ++ cs)) = none := by
  have hnone : ∀ entry ∈ Function.named, ∀ w ∈ plainWords, ¬w <+: entry.1.toList := by decide
  exact lookup_eq_none fun entry he hp ↦ absurd hp (hnone entry he w hw)

/-- Of the words for functions one goes on after a plain word, with a letter that stands in no plain
text. -/
theorem lookup_functionWords_word {w cs : List Char} (hw : w ∈ plainWords)
    (hx : cs.head? ≠ some 'x') :
    Lexeme.functionWords.lookup (String.ofList (w ++ cs)) = none := by
  have hone : ∀ entry ∈ Lexeme.functionWords, ∀ w ∈ plainWords, w <+: entry.1.toList →
      (entry.1.toList.drop w.length).head? = some 'x' := by decide
  refine lookup_eq_none fun entry he hp ht ↦ hx ?_
  rw [← ht]
  exact hone entry he w hw hp

/-- A plain word, and the letters and digits behind it, are read as a name that is not known. -/
theorem readMark_word {w cs : List Char} (hw : w ∈ plainWords) (h : PlainText cs) :
    ∃ name, Lexeme.readMark (w ++ cs) =
        .ok (.variable name, cs.drop (Lexeme.nameLength false cs)) ∧
      Function.named.lookup name = none := by
  refine ⟨String.ofList (w ++ cs.take (Lexeme.nameLength false cs)), ?_, lookup_named_word hw _⟩
  have hword := wordOf_word hw cs
  have hname := readName?_word hw cs
  have hoperator := lookup_operatorWords_word hw (cs.takeWhile Lexeme.isWordChar)
  have hfunction := lookup_functionWords_word hw h.head?_takeWhile_ne
  have hconst : Lexeme.readConstant? (w ++ cs) = none := by
    obtain rfl | rfl | rfl := mem_plainWords.mp hw <;> rfl
  rw [← hword] at hoperator hfunction
  obtain rfl | rfl | rfl := mem_plainWords.mp hw <;>
    simp only [List.cons_append, List.nil_append] at hconst hoperator hfunction hname ⊢ <;>
    simp [Lexeme.readMark, hconst, hoperator, hfunction, hname]

/-- A plain word at the front of a plain text is read as part of a number or of a name that is
not known. -/
theorem read_word {w cs rest : List Char} {l : Lexeme} (hw : w ∈ plainWords) (h : PlainText cs)
    (hr : Lexeme.read (w ++ cs) = .ok (l, rest)) : l.IsPlain ∧ PlainText rest := by
  have hs : Lexeme.readSymbol? (w ++ cs) = none := by
    obtain rfl | rfl | rfl := mem_plainWords.mp hw <;> rfl
  have hq : (w ++ cs).head? ≠ some '\'' ∧ (w ++ cs).head? ≠ some '"' := by
    obtain rfl | rfl | rfl := mem_plainWords.mp hw <;> exact ⟨by simp, by simp⟩
  obtain ⟨n, rfl, hn⟩ | ⟨-, hm⟩ := Lexeme.read_cases hs hq hr
  · exact ⟨.number n, (h.word hw).of_readNumber hn⟩
  · obtain ⟨name, hname, hunknown⟩ := readMark_word hw h
    rw [hname] at hm
    cases hm
    exact ⟨.unknown hunknown, h.drop_nameLength⟩

/-- A plain text is read as a plain lexeme, if it can be read, and the rest of it is plain. -/
theorem of_read {cs rest : List Char} {l : Lexeme} (h : PlainText cs)
    (hr : Lexeme.read cs = .ok (l, rest)) : l.IsPlain ∧ PlainText rest := by
  cases h with
  | nil => cases hr
  | @times cs hcs h =>
    have hs := Lexeme.read_sign .times fun _ ↦ hcs
    cases hs.symm.trans hr
    exact ⟨.operation .product, h⟩
  | word hw h => exact read_word hw h hr
  | @char c cs hplain h =>
    have hc := hplain
    simp only [isPlainChar, Bool.or_eq_true] at hc
    obtain (hd | hb) | hc := hc
    · have hs : Lexeme.readSymbol? (c :: cs) = none :=
        Lexeme.readSymbol?_eq_none (by decide) hd cs
      have hq : (c :: cs).head? ≠ some '\'' ∧ (c :: cs).head? ≠ some '"' := by
        constructor <;>
        · rintro ⟨⟩
          exact absurd hd (by decide)
      obtain ⟨n, rfl, hn⟩ | ⟨hn, -⟩ := Lexeme.read_cases hs hq hr
      · exact ⟨.number n, (h.char hplain).of_readNumber hn⟩
      · exact absurd hn (Lexeme.readNumber_ne_none hd cs)
    · cases (Lexeme.read_blank hb cs).symm.trans hr
      exact ⟨.blank, h⟩
    · simp only [List.contains_cons, List.contains_nil, Bool.or_eq_true, beq_iff_eq] at hc
      obtain rfl | rfl | rfl | rfl | hc := hc
      · cases hr
        exact ⟨.operation .sum, h⟩
      · cases hr
        exact ⟨.operation .difference, h⟩
      · cases hr
        exact ⟨.opening, h⟩
      · cases hr
        exact ⟨.closing, h⟩
      · contradiction

/-- A plain text stays plain without a blank at its end. -/
theorem of_concat {cs : List Char} {c : Char} (h : PlainText (cs ++ [c])) (hc : isBlank c = true) :
    PlainText cs := by
  generalize hs : cs ++ [c] = s at h
  induction h generalizing cs with
  | nil => simp at hs
  | @char d ds hd h ih =>
    cases cs with
    | nil => exact .nil
    | cons e cs =>
      obtain ⟨rfl, ht⟩ := List.cons.inj hs
      exact (ih ht).char hd
  | @times ds hds h ih =>
    cases cs with
    | nil => exact .nil
    | cons e cs =>
      obtain ⟨rfl, ht⟩ := List.cons.inj hs
      refine (ih ht).times ?_
      cases cs with
      | nil => simp
      | cons f cs =>
        subst ht
        exact hds
  | @word w ds hw h ih =>
    obtain rfl | ⟨front, d, rfl⟩ := ds.eq_nil_or_concat
    · -- no plain word ends with a blank
      have hmem : c ∈ w := by
        rw [← List.append_nil w, ← hs]
        simp
      have hwords : ∀ w ∈ plainWords, w.any isBlank = false := by decide +kernel
      exact absurd hc (List.any_eq_false.mp (hwords w hw) c hmem)
    · rw [List.concat_eq_append, ← List.append_assoc] at hs
      obtain ⟨rfl, hcd⟩ := List.append_inj' hs rfl
      exact (ih (by simp [List.singleton_inj.mp hcd])).word hw

/-- A plain text stays plain without the blanks at its end. -/
theorem reverse_dropWhile {cs : List Char} (h : PlainText cs.reverse) :
    PlainText (cs.dropWhile isBlank).reverse := by
  induction cs with
  | nil => exact .nil
  | cons c cs ih =>
    rw [List.dropWhile_cons]
    split
    · next hc =>
      rw [List.reverse_cons] at h
      exact ih (h.of_concat hc)
    · exact h

/-- A plain text stays plain without the blanks at its ends. -/
theorem trim {cs : List Char} (h : PlainText cs) : PlainText (Text.trim cs) := by
  have hfront : PlainText (cs.dropWhile isBlank) := h.dropWhile (by decide +kernel)
  rw [Text.trim, trimWhere]
  exact reverse_dropWhile (by rwa [List.reverse_reverse])

end PlainText

/-! ### The program of a plain text -/

namespace Assembly

/-- All steps of a program in the making are plain, those that wait included. -/
structure IsPlain (a : Assembly) : Prop where
  output : ∀ i ∈ a.output, i.IsPlain
  waiting : ∀ w ∈ a.waiting, w.instruction.IsPlain

/-- Brackets leave the steps as they are. -/
theorem IsPlain.withDepth {a : Assembly} (h : a.IsPlain) (depth : Int) :
    IsPlain { a with depth } := ⟨h.output, h.waiting⟩

/-- A plain operator comes to wait among plain steps. -/
theorem IsPlain.push {a : Assembly} {i : Instruction} (h : a.IsPlain) (hi : i.IsPlain)
    (priority : Int) (demand : Nat) (expected : Expectation) :
    (a.push i priority demand expected).IsPlain := by
  constructor
  · intro j hj
    simp only [Assembly.push, List.mem_append, List.mem_reverse, List.mem_map] at hj
    obtain ⟨w, hw, rfl⟩ | hj := hj
    · exact h.waiting w ((List.takeWhile_prefix _).subset hw)
    · exact h.output j hj
  · intro w hw
    obtain rfl | hw := List.mem_cons.mp hw
    · exact hi
    · exact h.waiting w (List.mem_of_mem_drop hw)

/-- A plain step is taken among plain steps. -/
theorem IsPlain.emit {a : Assembly} {i : Instruction} (h : a.IsPlain) (hi : i.IsPlain)
    (expected : Expectation) : (a.emit i expected).IsPlain :=
  ⟨List.forall_mem_cons.mpr ⟨hi, h.output⟩, h.waiting⟩

/-- A plain lexeme leaves plain steps. -/
theorem IsPlain.feed {a b : Assembly} {l : Lexeme} (h : a.IsPlain) (hl : l.IsPlain)
    (hf : a.feed l = .ok b) : b.IsPlain := by
  cases hl with
  | operation op =>
    have between : (a.operator op.operator).IsPlain := h.push (.operation op) _ _ _
    simp only [Assembly.feed] at hf
    split at hf
    · cases op with
      | sum =>
        cases hf
        exact ⟨h.output, h.waiting⟩
      | difference =>
        cases hf
        exact h.push .negate _ _ _
      | product =>
        cases hf
        exact between
    · cases hf
      exact between
  | number n =>
    cases hf
    exact h.emit (.number n) _
  | opening =>
    simp only [Assembly.feed] at hf
    split at hf
    · cases hf
    · split at hf
      · cases hf
        exact (h.withDepth _).push .call _ _ _
      · cases hf
        exact ⟨h.output, h.waiting⟩
  | closing =>
    simp only [Assembly.feed] at hf
    split at hf
    · cases hf
      exact (h.withDepth _).emit .emptyList _
    · split at hf
      · cases hf
        exact ⟨h.output, h.waiting⟩
      · cases hf
  | blank =>
    cases hf
    exact h
  | unknown hn =>
    simp only [Assembly.feed] at hf
    split at hf
    · cases hf
      exact h.emit (.unknown hn) _
    · cases hf

/-- A plain text leaves plain steps. -/
theorem IsPlain.run {a b : Assembly} {cs : List Char} (h : a.IsPlain) (hcs : PlainText cs)
    (hr : a.run cs = .ok b) : b.IsPlain := by
  fun_induction Assembly.run a cs with
  | case1 a =>
    cases hr
    exact h
  | case2 => cases hr
  | case3 a c rest l behind hl _ next hf ih =>
    obtain ⟨hlexeme, hbehind⟩ := hcs.of_read hl
    exact ih (h.feed hlexeme hf) hbehind hr
  | case4 => cases hr

/-- A finished program takes the steps that were collected. -/
theorem IsPlain.finish {a : Assembly} {p : Program} (h : a.IsPlain) (hf : a.finish = .ok p) :
    ∀ i ∈ p, i.IsPlain := by
  unfold Assembly.finish at hf
  dsimp only at hf
  split at hf
  · cases hf
  · split at hf
    · cases hf
    · cases hf
      intro i hi
      obtain hi | hi := List.mem_append.mp hi
      · exact h.output i (List.mem_reverse.mp hi)
      · obtain ⟨w, hw, rfl⟩ := List.mem_map.mp hi
        exact h.waiting w hw

end Assembly

/-- The program of a plain text takes plain steps alone. -/
theorem Program.isPlain_of_compile {text : String} {p : Program} (h : PlainText text.toList)
    (hc : Program.compile text = .ok p) : ∀ i ∈ p, i.IsPlain := by
  unfold Program.compile at hc
  dsimp only at hc
  split at hc
  · cases hc
  · next a ha =>
    have hempty : Assembly.IsPlain {} := ⟨nofun, nofun⟩
    cases hf : a.finish with
    | error e =>
      rw [hf] at hc
      cases hc
    | ok q =>
      rw [hf] at hc
      cases hc
      exact (hempty.run h ha).finish hf

end CharacterSheet.Arithmetic
