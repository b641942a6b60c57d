import CharacterSheet.Arithmetic.Program
import CharacterSheet.Proofs.Text.Spaced
import Mathlib.Data.List.TakeWhile

/-!
# The parts of integer expressions

Expressions with integers are written with literals, operators and brackets. Where literals and
operators take turns, no two parts run together, so blanks between them make no difference.
Main statement: what an assembly makes of a text is what it makes of the parts one by one.
-/

namespace CharacterSheet.Arithmetic
open Text

/-- A decimal literal that is not too long to be read as an integer. -/
structure Literal where
  digits : List Char
  ne_nil : digits ≠ []
  decimal : ∀ c ∈ digits, c.isDigit = true
  short : digits.length ≤ maxDigits

/-- The integer that a literal denotes. -/
def Literal.value (n : Literal) : Nat := digitsValue n.digits

/-- An operator or a bracket. -/
inductive Sign where
  | plus
  | minus
  | times
  | power
  | opening
  | closing
  deriving Repr, DecidableEq

namespace Sign

/-- The character of a sign. -/
def char : Sign → Char
  | plus => '+'
  | minus => '-'
  | times => '*'
  | power => '^'
  | opening => '('
  | closing => ')'

/-- What a sign is read as. -/
def lexeme : Sign → Lexeme
  | plus => .operator .add
  | minus => .operator .subtract
  | times => .operator .multiply
  | power => .operator .power
  | opening => .opening
  | closing => .closing

end Sign

/-- A literal or a sign. -/
inductive Part where
  | literal (n : Literal)
  | sign (s : Sign)

namespace Part

/-- The characters of a part. -/
def source : Part → List Char
  | literal n => n.digits
  | sign s => [s.char]

/-- What a part is read as. -/
def lexeme : Part → Lexeme
  | literal n => .number (.int n.value)
  | sign s => s.lexeme

/-- Whether an operand has to follow a part, given whether it had to follow before; nothing when
the part may not stand there. -/
def next : Bool → Part → Option Bool
  | true, literal _ => some false
  | true, sign .minus | true, sign .opening => some true
  | false, sign .plus | false, sign .minus | false, sign .times | false, sign .power => some true
  | false, sign .closing => some false
  | _, _ => none

/-- Operands and operators take turns in a list of parts. -/
def TakeTurns (operand : Bool) (ps : List Part) (after : Bool) : Prop :=
  ps.foldlM next operand = some after

theorem TakeTurns.append {s t u : Bool} {ps qs : List Part} (hp : TakeTurns s ps t)
    (hq : TakeTurns t qs u) : TakeTurns s (ps ++ qs) u := by
  rw [TakeTurns, List.foldlM_append, hp]
  exact hq

/-- The first part has its turn, and then the others. -/
theorem TakeTurns.of_cons {s u : Bool} {p : Part} {ps : List Part} (h : TakeTurns s (p :: ps) u) :
    ∃ t, next s p = some t ∧ TakeTurns t ps u := by
  rw [TakeTurns, List.foldlM_cons] at h
  exact Option.bind_eq_some_iff.mp h

/-- An operator between two operands asks for the second one. -/
theorem TakeTurns.join {s : Bool} {ps qs : List Part} {op : Sign} (hp : TakeTurns s ps false)
    (ho : next false (.sign op) = some true) (hq : TakeTurns true qs false) :
    TakeTurns s (ps ++ .sign op :: qs) false := by
  refine hp.append ?_
  rw [TakeTurns, List.foldlM_cons, ho]
  exact hq

/-- An operand in brackets is an operand. -/
theorem TakeTurns.group {ps : List Part} (h : TakeTurns true ps false) :
    TakeTurns true (.sign .opening :: (ps ++ [.sign .closing])) false := by
  have ho : TakeTurns true [.sign .opening] true := rfl
  have hc : TakeTurns false [.sign .closing] false := rfl
  exact ho.append (h.append hc)

/-- Where an operand has to come there is one. -/
theorem TakeTurns.ne_nil {ps : List Part} (h : TakeTurns true ps false) : ps ≠ [] := by
  rintro rfl
  exact Bool.noConfusion (Option.some.inj h)

theorem source_ne_nil (p : Part) : p.source ≠ [] := by
  cases p with
  | literal n => exact n.ne_nil
  | sign s => exact List.cons_ne_nil _ _

end Part

/-! ### Blanks -/

/-- Ranges that lie apart have no code point in common. -/
theorem holds_eq_false_of_apart {a b : CodeRanges} {code : Nat}
    (hab : ∀ r ∈ a, ∀ s ∈ b, r.2 < s.1 ∨ s.2 < r.1) (h : a.holds code = true) :
    b.holds code = false := by
  obtain ⟨r, hr, hl, hu⟩ := CodeRanges.holds_iff.mp h
  rw [Bool.eq_false_iff]
  intro hb
  obtain ⟨s, hs, hm, hv⟩ := CodeRanges.holds_iff.mp hb
  have := hab r hr s hs
  omega

/-- The digits and letters of ASCII. -/
def asciiWord : CodeRanges := [(0x30, 0x39), (0x41, 0x5a), (0x61, 0x7a)]

theorem holds_asciiWord_of_isDigit {c : Char} (h : c.isDigit = true) :
    asciiWord.holds c.toNat = true := by
  simp only [Char.isDigit, Bool.and_eq_true, decide_eq_true_eq] at h
  have hl : 0x30 ≤ c.toNat := UInt32.le_iff_toNat_le.mp h.1
  have hu : c.toNat ≤ 0x39 := UInt32.le_iff_toNat_le.mp h.2
  exact CodeRanges.holds_iff.mpr ⟨(0x30, 0x39), by decide, hl, hu⟩

theorem holds_asciiWord_of_isAlpha {c : Char} (h : c.isAlpha = true) :
    asciiWord.holds c.toNat = true := by
  rcases Bool.or_eq_true_iff.mp h with hc | hc
  · obtain ⟨hl, hu⟩ : 'A'.val ≤ c.val ∧ c.val ≤ 'Z'.val := of_decide_eq_true hc
    have hl' : 0x41 ≤ c.toNat := UInt32.le_iff_toNat_le.mp hl
    have hu' : c.toNat ≤ 0x5a := UInt32.le_iff_toNat_le.mp hu
    exact CodeRanges.holds_iff.mpr ⟨(0x41, 0x5a), by decide, hl', hu'⟩
  · obtain ⟨hl, hu⟩ := Bool.and_eq_true_iff.mp hc
    have hl' : 0x61 ≤ c.toNat := UInt32.le_iff_toNat_le.mp (of_decide_eq_true hl)
    have hu' : c.toNat ≤ 0x7a := UInt32.le_iff_toNat_le.mp (of_decide_eq_true hu)
    exact CodeRanges.holds_iff.mpr ⟨(0x61, 0x7a), by decide, hl', hu'⟩

/-- A blank is no digit. -/
theorem isDigit_eq_false_of_isBlank {c : Char} (h : isBlank c = true) : c.isDigit = false := by
  rw [Bool.eq_false_iff]
  intro hd
  have := holds_eq_false_of_apart (b := asciiWord) (by decide) h
  rw [holds_asciiWord_of_isDigit hd] at this
  contradiction

/-- A blank is no letter. -/
theorem isTwoCaseLetter_eq_false_of_isBlank {c : Char} (h : isBlank c = true) :
    isTwoCaseLetter c = false := by
  unfold isTwoCaseLetter
  split
  · rw [Bool.eq_false_iff]
    intro ha
    have := holds_eq_false_of_apart (b := asciiWord) (by decide) h
    rw [holds_asciiWord_of_isAlpha ha] at this
    contradiction
  · exact holds_eq_false_of_apart (by decide +kernel) h

/-- A blank is none of the characters that are no blanks. -/
theorem ne_of_isBlank {c d : Char} (h : isBlank c = true) (hd : isBlank d = false) : c ≠ d := by
  rintro rfl
  rw [h] at hd
  contradiction

/-- No part holds a blank. -/
theorem Part.isBlank_eq_false (p : Part) : ∀ c ∈ p.source, isBlank c = false := by
  intro c hc
  rw [Bool.eq_false_iff]
  intro hb
  cases p with
  | literal n =>
    have := isDigit_eq_false_of_isBlank hb
    rw [n.decimal c hc] at this
    contradiction
  | sign s =>
    obtain rfl := List.mem_singleton.mp hc
    cases s <;> contradiction

/-! ### Reading the parts -/

namespace Lexeme

/-- What starts none of the operators is no operator. -/
theorem readSymbol?_eq_none {p : Char → Bool} {c : Char}
    (hp : ∀ entry ∈ symbols, entry.1.toList.head?.any p = false) (hc : p c = true)
    (cs : List Char) : readSymbol? (c :: cs) = none := by
  apply List.findSome?_eq_none_iff.mpr
  intro entry he
  rw [Option.map_eq_none_iff]
  cases ha : after? entry.1.toList (c :: cs) with
  | none => rfl
  | some rest =>
    have hs := after?_eq_some_iff.mp ha
    cases hw : entry.1.toList with
    | nil =>
      have hne : ∀ entry ∈ symbols, entry.1.toList ≠ [] := by decide
      exact absurd hw (hne entry he)
    | cons d tail =>
      have hd := hp entry he
      rw [hw, List.cons_append] at hs
      rw [hw, List.head?_cons, Option.any_some, ← (List.cons.inj hs).1, hc] at hd
      contradiction

/-- A numeral with an exponent needs a letter behind its digits. -/
theorem scientific?_eq_none {digits cs : List Char} (hd : ∀ c ∈ digits, c.isDigit = true)
    (hc : ∀ c ∈ cs.head?, c.isDigit = false ∧ c ≠ '.' ∧ c ≠ 'e' ∧ c ≠ 'E') :
    scientific? (digits ++ cs) = none := by
  unfold scientific?
  rw [List.takeWhile_append_of_pos hd, List.dropWhile_append_of_pos hd]
  cases cs with
  | nil => rfl
  | cons c cs =>
    obtain ⟨hn, hp, he, hE⟩ := hc c rfl
    have hpoint : optionalChar (· = '.') (c :: cs) = [] := by simp [optionalChar, hp]
    simp [hn, hpoint, he, hE]

/-- A literal is read when no digit, point or exponent stands behind it. -/
theorem readNumber_literal (n : Literal) {cs : List Char}
    (hc : ∀ c ∈ cs.head?, c.isDigit = false ∧ c ≠ '.' ∧ c ≠ 'e' ∧ c ≠ 'E') :
    readNumber (n.digits ++ cs) = .ok (some (.int n.value, cs)) := by
  have hd := n.decimal
  have hp : ∀ c ∈ n.digits, (c != '.') = true := by
    intro c hm
    have hdot : Char.isDigit '.' = false := by decide
    rw [bne_iff_ne]
    rintro rfl
    rw [hd _ hm] at hdot
    contradiction
  have hnum : ∀ c ∈ n.digits, isNumeralChar c = true := by
    intro c hm
    rw [isNumeralChar, hd c hm, Bool.true_or]
  have hstop : cs.takeWhile isNumeralChar = [] ∧ cs.dropWhile isNumeralChar = cs := by
    cases cs with
    | nil => exact ⟨rfl, rfl⟩
    | cons c cs =>
      obtain ⟨hn, hdot, -, -⟩ := hc c rfl
      have : isNumeralChar c = false := by simp [isNumeralChar, hn, hdot]
      simp [this]
  have htake : (n.digits ++ cs).takeWhile isNumeralChar = n.digits := by
    rw [List.takeWhile_append_of_pos hnum, hstop.1, List.append_nil]
  have hdrop : (n.digits ++ cs).dropWhile isNumeralChar = cs := by
    rw [List.dropWhile_append_of_pos hnum, hstop.2]
  have hempty : n.digits.isEmpty = false := by simpa using n.ne_nil
  have hhead : (n.digits ++ cs).head? ≠ some 'E' ∧ n.digits.head? ≠ some '.' := by
    cases hs : n.digits with
    | nil => exact absurd hs n.ne_nil
    | cons d tail =>
      have hm : d ∈ n.digits := by rw [hs]; exact List.mem_cons_self
      have hE : Char.isDigit 'E' = false := by decide
      constructor
      · intro he
        rw [Option.some.inj he] at hm
        rw [hd _ hm] at hE
        contradiction
      · intro he
        have := hp d hm
        rw [Option.some.inj he] at this
        contradiction
  have hplain : plainNumber n.digits = .ok (.int n.value) := by
    have hw : n.digits.takeWhile (· != '.') = n.digits := List.takeWhile_eq_self_iff.mpr hp
    have hr : n.digits.dropWhile (· != '.') = [] := List.dropWhile_eq_nil_iff.mpr hp
    simp only [plainNumber, if_neg hhead.2, hw, hr, if_pos n.short]
    rfl
  simp only [readNumber, if_neg hhead.1, scientific?_eq_none hd hc, htake, hdrop, hempty, hplain,
    Bool.false_eq_true, if_false]

/-- A literal is read whole. -/
theorem read_literal (n : Literal) {cs : List Char}
    (hc : ∀ c ∈ cs.head?, c.isDigit = false ∧ c ≠ '.' ∧ c ≠ 'e' ∧ c ≠ 'E') :
    read (n.digits ++ cs) = .ok (.number (.int n.value), cs) := by
  have hs : readSymbol? (n.digits ++ cs) = none := by
    cases hd : n.digits with
    | nil => exact absurd hd n.ne_nil
    | cons d tail =>
      have hm : d.isDigit = true := n.decimal d (by rw [hd]; exact List.mem_cons_self)
      exact readSymbol?_eq_none (by decide) hm _
  simp only [read, hs, readNumber_literal n hc]

/-- A sign is read alone; two asterisks in a row are another sign. -/
theorem read_sign (s : Sign) {cs : List Char} (hc : s = .times → cs.head? ≠ some '*') :
    read (s.char :: cs) = .ok (s.lexeme, cs) := by
  cases s with
  | plus => rfl
  | minus => rfl
  | power => rfl
  | opening => rfl
  | closing => rfl
  | times =>
    cases cs with
    | nil => rfl
    | cons c cs =>
      have hne : '*' ≠ c := by
        rintro rfl
        exact hc rfl rfl
      have hs : readSymbol? ('*' :: c :: cs) = some (.multiply, c :: cs) := by
        simp [readSymbol?, symbols, after?, hne]
      simp only [Sign.char, read, hs]
      rfl

/-- A blank is read as such. -/
theorem read_blank {c : Char} (h : isBlank c = true) (cs : List Char) :
    read (c :: cs) = .ok (.blank, cs) := by
  have ne {d : Char} (hd : isBlank d = false) : c ≠ d := ne_of_isBlank h hd
  have hdigit := isDigit_eq_false_of_isBlank h
  have hletter := isTwoCaseLetter_eq_false_of_isBlank h
  have hs : readSymbol? (c :: cs) = none := readSymbol?_eq_none (by decide) h cs
  have hE : (c :: cs).head? ≠ some 'E' := by simpa using ne (d := 'E') (by decide)
  have hnone : scientific? ([] ++ c :: cs) = none :=
    scientific?_eq_none (by simp) (by
      intro d hd
      obtain rfl := Option.some.inj hd
      exact ⟨hdigit, ne (by decide), ne (by decide), ne (by decide)⟩)
  rw [List.nil_append] at hnone
  have hrun : (c :: cs).takeWhile isNumeralChar = [] := by
    have : isNumeralChar c = false := by simp [isNumeralChar, hdigit, ne (d := '.') (by decide)]
    simp [this]
  have hn : readNumber (c :: cs) = .ok none := by
    simp only [readNumber, if_neg hE, hnone, hrun]
    rfl
  have hconst : readConstant? (c :: cs) = none := by
    simp [readConstant?, constants, after?, Ne.symm (ne (d := 'E') (by decide)),
      Ne.symm (ne (d := 'P') (by decide))]
  have hname : readName? (c :: cs) = none := by
    simp [readName?, hletter, ne (d := '"') (by decide)]
  have hword : wordOf (c :: cs) = [] := by simp [wordOf, hletter]
  have hmark : readMark (c :: cs) = .ok (.blank, cs) := by
    simp only [readMark, if_neg (ne (d := '(') (by decide)), if_neg (ne (d := ')') (by decide)),
      if_neg (ne (d := ',') (by decide)), hconst, hword, hname, h, if_true]
    rfl
  have hquote : (c = '\'' || c = '"') = false := by
    simp [ne (d := '\'') (by decide), ne (d := '"') (by decide)]
  simp only [read, hs, hn, hquote, hmark]
  rfl

end Lexeme

/-! ### Reading a text of parts -/

namespace Part

/-- What stands behind a part in a text where operands and operators take turns does not run
together with it. -/
theorem read_source {s t u : Bool} {p : Part} {ps : List Part} {cs : List Char}
    (hp : next s p = some t) (ht : TakeTurns t ps u) (hs : Spaced source ps cs) :
    Lexeme.read (p.source ++ cs) = .ok (p.lexeme, cs) := by
  -- the first character behind the part is a blank or starts a part that may follow
  have follows : ∀ c ∈ cs.head?, isBlank c = true ∨
      ∃ q v tail, next t q = some v ∧ q.source = c :: tail := by
    cases cs with
    | nil => simp
    | cons c cs =>
      intro d hd
      obtain rfl := Option.some.inj hd
      rcases hs.head_cases source_ne_nil with hb | ⟨q, rest, tail, rfl, hq⟩
      · exact .inl hb
      · obtain ⟨v, hv, -⟩ := ht.of_cons
        exact .inr ⟨q, v, tail, hv, hq⟩
  cases p with
  | literal n =>
    apply Lexeme.read_literal
    intro c hc
    obtain rfl : false = t := by
      cases s with
      | true => exact Option.some.inj hp
      | false => contradiction
    rcases follows c hc with hb | ⟨q, v, tail, hv, hq⟩
    · exact ⟨isDigit_eq_false_of_isBlank hb, ne_of_isBlank hb (by decide),
        ne_of_isBlank hb (by decide), ne_of_isBlank hb (by decide)⟩
    · cases q with
      | literal k => contradiction
      | sign k =>
        obtain rfl := (List.cons.inj hq).1
        cases k <;> decide
  | sign k =>
    apply Lexeme.read_sign
    rintro rfl hc
    obtain rfl : true = t := by
      cases s with
      | true => contradiction
      | false => exact Option.some.inj hp
    rcases follows '*' hc with hb | ⟨q, v, tail, hv, hq⟩
    · exact absurd hb (by decide)
    · cases q with
      | literal n =>
        have := n.decimal '*' (by rw [show n.digits = _ from hq]; exact List.mem_cons_self)
        exact absurd this (by decide)
      | sign k =>
        have hk := (List.cons.inj hq).1
        cases k <;> contradiction

end Part

namespace Assembly

/-- The lexemes are taken in one by one. -/
def feedAll (a : Assembly) (ls : List Lexeme) : Except FormFault Assembly := ls.foldlM feed a

theorem feedAll_append (a : Assembly) (ls ms : List Lexeme) :
    a.feedAll (ls ++ ms) = a.feedAll ls >>= fun b ↦ b.feedAll ms := List.foldlM_append

/-- One more lexeme is read and taken in. -/
theorem run_of_read {a b : Assembly} {c : Char} {cs rest : List Char} {l : Lexeme}
    (h : Lexeme.read (c :: cs) = .ok (l, rest)) (hf : a.feed l = .ok b) :
    a.run (c :: cs) = b.run rest := by
  rw [run]
  split
  · next he => rw [h] at he; contradiction
  · next k behind hk =>
    rw [h] at hk
    obtain ⟨rfl, rfl⟩ := Prod.mk.inj (Except.ok.inj hk)
    rw [hf]

/-- A text of parts is taken in as the parts are. -/
theorem run_of_spaced {ps : List Part} {cs : List Char} (hs : Spaced Part.source ps cs)
    {s t : Bool} (ht : Part.TakeTurns s ps t) {a b : Assembly}
    (hf : a.feedAll (ps.map Part.lexeme) = .ok b) : a.run cs = .ok b := by
  induction hs generalizing a s with
  | nil =>
    rw [run]
    exact congrArg _ (Except.ok.inj hf)
  | blank hc h ih =>
    rw [run_of_read (Lexeme.read_blank hc _) rfl]
    exact ih ht hf
  | @mark ps cs p h ih =>
    obtain ⟨u, hu, hps⟩ := ht.of_cons
    have hr := Part.read_source hu hps h
    rw [List.map_cons, feedAll, List.foldlM_cons] at hf
    cases hp : a.feed p.lexeme with
    | error e =>
      rw [hp] at hf
      contradiction
    | ok next =>
      rw [hp] at hf
      have hn := ih hps hf
      cases hq : p.source with
      | nil => exact absurd hq p.source_ne_nil
      | cons c tail =>
        rw [hq, List.cons_append] at hr
        rw [List.cons_append, run_of_read hr hp, hn]

end Assembly

/-- A text of parts is evaluated as the program that the parts leave. -/
theorem evaluate_of_spaced {ps : List Part} {text : String}
    (hs : Spaced Part.source ps text.toList) (ht : Part.TakeTurns true ps false) {b : Assembly}
    (hb : Assembly.feedAll {} (ps.map Part.lexeme) = .ok b) {p : Program}
    (hp : b.finish = .ok p) (vars : Variables) :
    evaluate text vars = (p.value vars.known).run vars.lists >>= fun result ↦
      result.1.toNumber := by
  have htrim : Spaced Part.source ps (Text.trimmed text).toList := by
    rw [Text.trimmed, String.toList_ofList]
    exact hs.trim Part.isBlank_eq_false
  have hempty : (Text.trimmed text).isEmpty = false := by
    rw [Bool.eq_false_iff]
    intro he
    apply htrim.ne_nil ht.ne_nil Part.source_ne_nil
    rw [String.isEmpty_iff.mp he]
    rfl
  have hcompile : Program.compile (Text.trimmed text) = .ok p := by
    simp only [Program.compile, Assembly.run_of_spaced htrim ht hb, hp]
    rfl
  simp only [evaluate, hempty, hcompile]
  rfl

end CharacterSheet.Arithmetic
