import CharacterSheet.Proofs.Preview.Rendering
import CharacterSheet.Proofs.Token.Rerendering

/-!
# Least values in previews

The value of a numeric stat is shown as its least value. In an arithmetic expression that integer
is put in as a text, read again as a literal, perhaps behind a sign, and written once more. Main
statement: both ways the integer is shown digit by digit, unless the id of the stat has more digits
than are read, so that there is no preview at all.
-/

namespace CharacterSheet

open Arithmetic Mention
open Text (Spaced)

/-! ### Ids that are too long -/

/-- An id has few enough digits to be read exactly when it can be written. -/
theorem Numeral.length_toDigits_le_iff {id : Nat} :
    (Nat.toDigits 10 id).length ≤ maxDigits ↔ isWritable id = true := by
  rw [Nat.length_toDigits_le_iff (by decide) (by decide)]
  exact (decide_eq_true_iff (p := (id : Int).natAbs < 10 ^ maxDigits)).symm

/-- A mention stands for nothing when its id is too long. -/
theorem Mention.reference_of_long {k : Mention} (hk : maxDigits < k.digits.length) :
    k.reference = .error (.tooManyDigits k.digits.length) := by
  rw [reference, Numeral.readDigits, if_neg (Nat.not_le.mpr hk)]
  rfl

section
variable {k : Mention} (hp : k.IsProper) (hk : maxDigits < k.digits.length)
include hp hk

/-- A mention with an id that is too long is no token. -/
theorem Token.read?_of_long (rest : List Char) :
    Token.read? (k.source ++ rest) = .error (.tooManyDigits k.digits.length) := by
  rw [Token.read?, read?_source hp]
  simp only [reference_of_long hk, Except.map]

/-- An expression is no token when its body starts with a mention whose id is too long. -/
theorem Token.read?_opening_of_long (kind : ExpressionKind) (rest : List Char) :
    Token.read? (Token.opening kind ++ (k.source ++ rest)) =
      .error (.tooManyDigits k.digits.length) := by
  have hbody : expressionBody? (k.source ++ rest) = .error (.tooManyDigits k.digits.length) := by
    have hread := read?_source hp rest
    obtain ⟨c, tail, hs⟩ := List.exists_cons_of_ne_nil
      (List.ne_nil_of_length_pos (k.length_source_pos))
    have hc : c ≠ '>' := by
      rintro rfl
      have hhead : k.source.head? = some '<' := rfl
      rw [hs] at hhead
      exact absurd (Option.some.inj hhead) (by decide)
    rw [hs, List.cons_append] at hread ⊢
    rw [expressionBody?, if_neg hc]
    split
    · next other behind ho =>
      obtain ⟨rfl, -⟩ := Prod.mk.inj (Option.some.inj (hread.symm.trans ho))
      rw [reference_of_long hk]
    · next hn => cases hread.symm.trans hn
  rw [Token.read?, read?_opening]
  simp only [Token.readExpression?, Token.readOpening?_opening, hbody, Except.map]

end

namespace Preview
variable {m : Type → Type} [Monad m] [LawfulMonad m] {p : Preview m}

/-- A text has no preview when its first token cannot be read. -/
theorem render_of_read?_eq_error {text : String} {e : NumeralError}
    (h : Token.read? text.toList = .error e) : p.render text = throw e := by
  have hscan : scan text = ⟨[], some e⟩ := by
    cases ht : text.toList with
    | nil => rw [ht] at h; cases h
    | cons c rest =>
      rw [ht] at h
      have hc : c = '<' := by
        by_contra hne
        rw [Token.read?_of_ne hne] at h
        cases h
      rw [scan, ht, Scan.fromRun, if_pos hc]
      split
      · next e' he => rw [Except.error.inj (h.symm.trans he)]
      · next he => cases h.symm.trans he
      · next he => cases h.symm.trans he
  have hc : containsToken text = .error e := by
    rw [containsToken, hscan]
    rfl
  rw [render, hc, liftExcept]
  exact ExceptT.ext (by simp)

/-- There is no preview of a reference whose id is too long, nor of an expression with it for its
body. -/
theorem render_of_long {r : Reference} {n : Nat} (hr : r.id = n)
    (hn : Numeral.isWritable n = false) (kind : ExpressionKind) :
    p.render r.render = throw (.tooManyDigits (Nat.toDigits 10 n).length) ∧
      p.render (Token.expression kind r.render).render =
        throw (.tooManyDigits (Nat.toDigits 10 n).length) := by
  subst hr
  have hk : maxDigits < r.mention.digits.length := by
    rw [Reference.mention, ← Nat.not_le, Numeral.length_toDigits_le_iff, hn]
    exact Bool.false_ne_true
  constructor
  · apply render_of_read?_eq_error
    rw [r.toList_render, ← List.append_nil r.mention.source]
    exact Token.read?_of_long r.isProper_mention hk []
  · apply render_of_read?_eq_error
    rw [← String.ofList_toList (s := r.render), Token.toList_render_expression, r.toList_render]
    exact Token.read?_opening_of_long r.isProper_mention hk kind _

/-! ### Ids that can be read -/

/-- The value of a stat as a reference to it. -/
def valueOf (id : Nat) : Reference := ⟨.stat, id, .value⟩

/-- The text of a reference to the value of a stat, and of an expression with it for its body. -/
theorem render_eq_of_valueOf (id : Nat) :
    (valueOf id).render = "<stat:" ++ toString id ++ ":value>" ∧
      (Token.expression .math (valueOf id).render).render =
        "<math:" ++ (valueOf id).render ++ ">" := by
  constructor
  · apply String.toList_inj.mp
    simp [Reference.render, valueOf, Subject.word, Property.word]
  · apply String.toList_inj.mp
    simp [Token.render, ExpressionKind.word]

/-- The value of a stat as a part of a formula. -/
def valueReference {id : Nat} (h : Numeral.isWritable id = true) : ValueReference where
  digits := Nat.toDigits 10 id
  ne_nil := Nat.toDigits_ne_nil
  decimal := fun _ hc ↦ Text.isDecimalDigit_of_mem_toDigits hc
  short := Numeral.length_toDigits_le_iff.mpr h

section
variable {id : Nat} (hid : Numeral.isWritable id = true) {n : Int}
  (hl : leastInteger? p.system.stats id = some n) (hn : Numeral.isWritable n = true)
include hid hl hn

/-- A reference to the value of a stat is shown as its least value. -/
theorem render_valueOf : p.render (valueOf id).render = pure (toString n) := by
  have hr : (valueOf id).mention.reference = .ok (valueOf id) := by
    rw [reference_eq (Numeral.length_toDigits_le_iff.mpr hid), meaning, Reference.mention,
      Text.digitsValue_toDigits]
  have hreads := Token.Reads.reference (valueOf id).isProper_mention hr
  have hshown : p.reference (valueOf id) = .ok (toString n) := by
    obtain ⟨s, hs, hd⟩ := Option.bind_eq_some_iff.mp hl
    split at hd
    · next k max rolls hdetail =>
      obtain rfl := Option.some.inj hd
      have hw : k.natAbs < 10 ^ maxDigits := of_decide_eq_true hn
      have hvalue : p.shownValue s = .ok (toString k) := by
        rw [shownValue, hdetail]
        exact Number.plainText_int k hw
      rw [← hvalue]
      simp [reference, property, statProperty, valueOf, hs, Property.word]
    · cases hd
  rw [← String.ofList_toList (s := (valueOf id).render), (valueOf id).toList_render,
    render_of_reads hreads, token, hshown]
  rfl

/-- The least value of a stat is shown as the value of an expression that refers to it. -/
theorem render_math_valueOf (hp : p.evaluate = evaluator) :
    p.render (Token.expression .math (valueOf id).render).render = pure (toString n) := by
  let r := valueReference hid
  let e : Formula .sum := .ofTerm (.ofFactor (.ofOperand (.value r)))
  let least (_ : Nat) : WritableInt := ⟨n, hn⟩
  have hvalue : r.id = id := Text.digitsValue_toDigits id
  have hleast : ∀ i ∈ e.ids, leastInteger? p.system.stats i = some (least i).1 :=
    leastInteger?_of_ids (r := r) rfl (by rw [hvalue]; exact hl)
  have hb : Spaced Mark.source e.marks (valueOf id).render.toList := by
    rw [(valueOf id).toList_render]
    exact .of_eq_flatMap (List.append_nil r.mention.source).symm
  exact render_of_evaluate hleast hb hp hn fun _ ht ↦ e.evaluate_eq trivial ht

end

/-! ### Main statement -/

/-- The least value of a stat is shown digit by digit, alone and as what an expression comes to,
provided that its id can be read. -/
theorem render_leastInteger (hp : p.evaluate = evaluator) {id : Nat} {n : Int}
    (hl : leastInteger? p.system.stats id = some n) (hn : Numeral.isWritable n = true) :
    let value := "<stat:" ++ toString id ++ ":value>"
    (Numeral.isWritable id = true →
      p.render value = pure (toString n) ∧
        p.render ("<math:" ++ value ++ ">") = pure (toString n)) ∧
    (Numeral.isWritable id = false →
      p.render value = throw (.tooManyDigits (Nat.toDigits 10 id).length) ∧
        p.render ("<math:" ++ value ++ ">") =
          throw (.tooManyDigits (Nat.toDigits 10 id).length)) := by
  obtain ⟨hvalue, hmath⟩ := render_eq_of_valueOf id
  rw [← hvalue]
  dsimp only
  rw [← hmath]
  exact ⟨fun hid ↦ ⟨render_valueOf hid hl hn, render_math_valueOf hid hl hn hp⟩,
    fun hid ↦ render_of_long (n := id) rfl hid .math⟩

/-- A preview of a system whose only stat has an id and a least value. -/
def ofLeast (id n : Int) : Preview Id :=
  { ofMinusThree with
    system := { stats := [{ id, detail := .numeric (some (.int n)) none {} }] } }

theorem leastInteger?_ofLeast (id n : Int) :
    leastInteger? (ofLeast id n).system.stats id = some n := by
  simp [ofLeast, leastInteger?, findStat]

/-- The negative integer with as many digits as are written and no other digits than nines. -/
def longestNines : Int := -(10 ^ maxDigits - 1)

theorem isWritable_longestNines : Numeral.isWritable longestNines = true := by
  have hpos : 0 < 10 ^ maxDigits := Nat.pow_pos (by decide)
  have hcast : ((10 ^ maxDigits : Nat) : Int) = 10 ^ maxDigits := Nat.cast_pow 10 maxDigits
  have hlt : longestNines.natAbs < 10 ^ maxDigits := by
    rw [longestNines, ← hcast]
    omega
  exact decide_eq_true hlt

/-- A negative integer with as many digits as are written. -/
theorem render_leastInteger_longest :
    leastInteger? (ofLeast 1 longestNines).system.stats 1 = some longestNines ∧
      Numeral.isWritable longestNines = true ∧
      (ofLeast 1 longestNines).render "<stat:1:value>" = pure (toString longestNines) ∧
      (ofLeast 1 longestNines).render "<math:<stat:1:value>>" = pure (toString longestNines) := by
  have hl := leastInteger?_ofLeast (1 : Nat) longestNines
  have hid : Numeral.isWritable (1 : Nat) = true :=
    Numeral.isWritable_of_lt (k := 1) (by decide) (by decide)
  have htext : "<stat:" ++ toString 1 ++ ":value>" = "<stat:1:value>" := by decide
  obtain ⟨h, -⟩ := render_leastInteger (p := ofLeast (1 : Nat) longestNines) rfl hl
    isWritable_longestNines
  rw [htext] at h
  exact ⟨hl, isWritable_longestNines, h hid⟩

/-- The least id with more digits than are read. -/
def tooLongId : Nat := 10 ^ maxDigits

theorem isWritable_tooLongId : Numeral.isWritable tooLongId = false :=
  decide_eq_false (Nat.lt_irrefl (10 ^ maxDigits))

/-- The least value of a stat whose id has more digits than are read is not shown. -/
theorem leastInteger_not_rendered :
    leastInteger? (ofLeast tooLongId 5).system.stats tooLongId = some 5 ∧
      Numeral.isWritable 5 = true ∧
      (ofLeast tooLongId 5).render ("<stat:" ++ toString tooLongId ++ ":value>") ≠ pure "5" ∧
      (ofLeast tooLongId 5).render ("<math:" ++ ("<stat:" ++ toString tooLongId ++ ":value>") ++
        ">") ≠ pure "5" := by
  have hfive : Numeral.isWritable 5 = true :=
    Numeral.isWritable_of_lt (k := 1) (by decide) (by decide)
  obtain ⟨hvalue, hmath⟩ := render_eq_of_valueOf tooLongId
  have h := render_of_long (p := ofLeast tooLongId 5) (r := valueOf tooLongId) (n := tooLongId) rfl
    isWritable_tooLongId .math
  rw [hmath, hvalue] at h
  have hne (e : NumeralError) : (throw e : ExceptT NumeralError Id String) ≠ pure "5" := nofun
  exact ⟨leastInteger?_ofLeast tooLongId 5, hfive, h.1 ▸ hne _, h.2 ▸ hne _⟩

end Preview
end CharacterSheet
