import CharacterSheet.Proofs.Preview.Payload
import CharacterSheet.Proofs.Token.Segments

/-!
# Previews of formulas

An expression that spells a formula is one token, and its preview is what is found for the parts
that are handed on. Main statement: where no negative integer is put in a place that its sign does
not belong to, a preview shows the value of the formula.
-/

namespace CharacterSheet

open Arithmetic
open Text (Spaced)

/-! ### One token -/

theorem Arithmetic.Mark.source_ne_nil (m : Mark) : m.source ≠ [] := by
  cases m with
  | part p => exact p.source_ne_nil
  | value r => exact List.ne_nil_of_length_pos r.mention.length_source_pos

/-- A text that is a token has it for its only segment. -/
theorem scan_of_reads {source : List Char} {t : Token} (h : Token.Reads source t) :
    scan (String.ofList source) = ⟨[.token t (String.ofList source)], none⟩ := by
  have hc := (Cut.token h .nil).fromRun_eq
  rw [scan, String.toList_ofList]
  rwa [List.append_nil] at hc

/-- An expression that spells a formula is a token. -/
theorem reads_math {ms : List Mark} (hm : ms ≠ []) {body : String}
    (hb : Spaced Mark.source ms body.toList) :
    Token.Reads ("<math:" ++ body ++ ">").toList (.expression .math body) := by
  have hne : body.toList ≠ [] := hb.ne_nil hm Mark.source_ne_nil
  have hr := Token.Reads.expression .math hne (expressionBody?_of_spaced hb [])
  rw [String.ofList_toList] at hr
  have ht : ("<math:" ++ body ++ ">").toList = Token.opening .math ++ (body.toList ++ ['>']) := by
    rw [String.toList_append, String.toList_append, List.append_assoc]
    rfl
  rwa [ht]

namespace Preview
variable {m : Type → Type} [Monad m] [LawfulMonad m] {p : Preview m}

/-- A token that stands alone is replaced by what takes its place. -/
theorem render_of_reads {source : List Char} {t : Token} (h : Token.Reads source t) :
    p.render (String.ofList source) = p.token t := by
  have hc : containsToken (String.ofList source) = .ok true := by
    rw [containsToken, scan_of_reads h]
    rfl
  rw [render, hc, liftExcept, pure_bind, if_pos rfl]
  simp only [scan_of_reads h, List.mapM_cons, List.mapM_nil, segment]
  simp

/-- The preview of an arithmetic expression is the text of the number that is found, or a note that
there is none. -/
theorem math_eq (hp : p.evaluate = evaluator) {body text : String}
    (ht : p.payload .math body = .ok text) :
    p.math body = pure (((find text).toOption.bind fun n ↦ n.plainText.toOption).getD
      (p.wording.mathError body)) := by
  have hrun : ExceptT.run (evaluator text : ExceptT EvaluationFailure m Finding) =
      pure ((find text).map .number) := rfl
  have hlift {α : Type} (x : α) :
      (ExceptT.lift (pure x) : ExceptT NumeralError m α) = pure x := by
    rw [ExceptT.lift, map_pure]
    rfl
  rw [math, ht, hp, liftExcept, pure_bind, hrun, hlift, pure_bind]
  cases find text with
  | error e => rfl
  | ok n =>
    cases hn : n.plainText <;> simp [Except.map, Except.toOption, Finding.text, hn]

/-- The preview of an expression that spells marks is what is found for its body. -/
theorem render_math {ms : List Mark} (hm : ms ≠ []) {body : String}
    (hb : Spaced Mark.source ms body.toList) :
    p.render ("<math:" ++ body ++ ">") = p.math body := by
  rw [← String.ofList_toList (s := "<math:" ++ body ++ ">"), render_of_reads (reads_math hm hb)]
  rfl

section
variable {least : Nat → WritableInt} {e : Formula .sum}
  (hl : ∀ id ∈ e.ids, leastInteger? p.system.stats id = some (least id).1) {body : String}
  (hb : Spaced Mark.source e.marks body.toList)
include hl hb

/-- The preview of a formula is the integer that its parts are evaluated to. -/
theorem render_of_evaluate (hp : p.evaluate = evaluator) {v : Int}
    (hw : Numeral.isWritable v = true)
    (he : ∀ text : String, Spaced Part.source (e.parts least) text.toList →
      Arithmetic.evaluate text = .ok (.int v)) :
    p.render ("<math:" ++ body ++ ">") = pure (toString v) := by
  obtain ⟨text, ht, hspaced⟩ := exists_payload hl hb
  have hfind : find text = .ok (.int v) := by
    rw [find, he text hspaced]
    rfl
  have hshown : ((find text).toOption.bind fun n ↦ n.plainText.toOption) = some (toString v) := by
    rw [hfind, Except.toOption, Option.bind_some, Number.plainText_int _ (of_decide_eq_true hw)]
    rfl
  rw [render_math e.marks_ne_nil hb, math_eq hp ht, hshown, Option.getD_some]

/-- The preview of a formula is a note when its parts have no value. -/
theorem render_of_evaluate_eq_error (hp : p.evaluate = evaluator)
    (he : ∀ text : String, Spaced Part.source (e.parts least) text.toList →
      ∃ why, Arithmetic.evaluate text = .error why) :
    p.render ("<math:" ++ body ++ ">") = pure (p.wording.mathError body) := by
  obtain ⟨text, ht, hspaced⟩ := exists_payload hl hb
  have hfind : (find text).toOption = none := by
    obtain ⟨why, hwhy⟩ := he text hspaced
    rw [find, hwhy]
    rfl
  rw [render_math e.marks_ne_nil hb, math_eq hp ht, hfind, Option.bind_none, Option.getD_none]

end

/-- The preview of an expression that spells a formula is the value that the formula has when
every reference stands for the least value of its stat, unless the sign of a negative one is in
the way. -/
theorem render_formula (hp : p.evaluate = evaluator) {least : Nat → WritableInt}
    {e : Formula .sum} (hl : ∀ id ∈ e.ids, leastInteger? p.system.stats id = some (least id).1)
    (hs : e.SignSafe fun id ↦ (least id).1)
    (hw : Numeral.isWritable (e.eval fun id ↦ (least id).1) = true) {body : String}
    (hb : Spaced Mark.source e.marks body.toList) :
    p.render ("<math:" ++ body ++ ">") = pure (toString (e.eval fun id ↦ (least id).1)) :=
  render_of_evaluate hl hb hp hw fun _ ht ↦ e.evaluate_eq hs ht

/-! ### A stat with a negative least value -/

/-- A preview of a system whose only stat has minus three for its least value. -/
def ofMinusThree : Preview Id where
  system := { stats := [{ id := 1, detail := .numeric (some (.int (-3))) none {} }] }
  locale := "default"
  language := .english
  evaluate := evaluator
  roll := diceRoller fun _ ↦ 0

/-- A reference to the value of that stat. -/
def first : ValueReference :=
  ⟨['1'], by decide, List.forall_mem_singleton.mpr (by decide), by decide⟩

/-- The literal for two. -/
def two : Literal := ⟨['2'], by decide, List.forall_mem_singleton.mpr (by decide), by decide⟩

/-- The integer that is put in the place of the reference. -/
def minusThree (_ : Nat) : WritableInt :=
  ⟨-3, Numeral.isWritable_of_lt (k := 1) (by decide) (by decide)⟩

theorem leastInteger?_ofMinusThree (id : Nat) (h : id = 1) :
    leastInteger? ofMinusThree.system.stats id = some (minusThree id).1 := by
  rw [h]
  rfl

/-- The integer in brackets, in an odd power and in front of a product. -/
theorem render_formula_of_minusThree :
    ofMinusThree.render "<math:(2+<stat:1:value>)^2-<stat:1:value>^3*2>" = pure "55" := by
  let shifted : Formula .sum := .sum (.ofTerm (.ofFactor (.ofOperand (.literal two))))
    (.ofFactor (.ofOperand (.value first)))
  let three : Literal := ⟨['3'], by decide, List.forall_mem_singleton.mpr (by decide), by decide⟩
  let e : Formula .sum := .difference (.ofTerm (.ofFactor (.power (.group shifted) two)))
    (.product (.ofFactor (.power (.value first) three)) (.ofOperand (.literal two)))
  have hvalue : e.eval (fun id ↦ (minusThree id).1) = 55 := by decide
  have hl : ∀ id ∈ e.ids,
      leastInteger? ofMinusThree.system.stats id = some (minusThree id).1 := by
    have hids : e.ids = [1, 1] := by decide
    intro id hi
    rw [hids] at hi
    exact leastInteger?_ofMinusThree id (by simpa using hi)
  have hs : e.SignSafe fun id ↦ (minusThree id).1 := by decide
  have hw : Numeral.isWritable (e.eval fun id ↦ (minusThree id).1) = true := by
    rw [hvalue]
    exact Numeral.isWritable_of_lt (k := 2) (by decide) (by decide)
  have hb : Spaced Mark.source e.marks "(2+<stat:1:value>)^2-<stat:1:value>^3*2".toList :=
    .of_eq_flatMap (by decide)
  have h := render_formula rfl hl hs hw hb
  rw [hvalue] at h
  exact h

/-! ### Signs in the way -/

section
variable {least : Nat → WritableInt} {r : ValueReference}
  (hl : leastInteger? p.system.stats r.id = some (least r.id).1) (hn : (least r.id).1 < 0)
  {n : Literal} {body : String}
include hl hn

/-- The sign of a negative integer is applied to the power that the integer is the base of. -/
theorem render_power_of_neg (hp : p.evaluate = evaluator)
    (hw : Numeral.isWritable (-((least r.id).1.natAbs : Int) ^ n.value) = true)
    (hb : Spaced Mark.source [.value r, .sign .power, .literal n] body.toList) :
    p.render ("<math:" ++ body ++ ">") =
      pure (toString (-((least r.id).1.natAbs : Int) ^ n.value)) := by
  let e : Formula .sum := .ofTerm (.ofFactor (.power (.value r) n))
  have he : (e.parts least).map Part.lexeme = (signed (least r.id)).map Part.lexeme ++
      [.operator .power, .number (.int n.value)] := List.map_append
  have hids := leastInteger?_of_ids (show e.ids = [r.id] from rfl) hl
  have hx := isOperand_signed_power (least r.id) hn n
  rw [← he] at hx
  exact render_of_evaluate hids hb hp hw fun text ht ↦ hx.evaluate_eq ht (e.takeTurns least) {}

/-- The sign of a negative integer behind an asterisk makes the product be taken before there is a
second factor. -/
theorem render_product_of_neg (hp : p.evaluate = evaluator)
    (hb : Spaced Mark.source [.literal n, .sign .times, .value r] body.toList) :
    p.render ("<math:" ++ body ++ ">") = pure (p.wording.mathError body) := by
  let e : Formula .sum := .ofTerm (.product (.ofFactor (.ofOperand (.literal n)))
    (.ofOperand (.value r)))
  have he : e.parts least = [.literal n, .sign .times, .sign .minus,
      .literal (.ofMagnitude (least r.id))] := by
    change [.literal n, .sign .times] ++ (signed (least r.id) ++ []) = _
    rw [signed, if_pos hn]
    rfl
  have hids := leastInteger?_of_ids (show e.ids = [r.id] from rfl) hl
  apply render_of_evaluate_eq_error hids hb hp
  intro text ht
  rw [he] at ht
  rw [evaluate_of_spaced ht rfl rfl rfl]
  exact ⟨.missingOperand, rfl⟩

end

/-- The square of the integer has the sign of the integer, and twice the integer is not found. -/
theorem render_signs_in_the_way :
    let square : Formula .sum := .ofTerm (.ofFactor (.power (.value first) two))
    let double : Formula .sum :=
      .ofTerm (.product (.ofFactor (.ofOperand (.literal two))) (.ofOperand (.value first)))
    leastInteger? ofMinusThree.system.stats 1 = some (-3) ∧
    (Spaced Mark.source square.marks "<stat:1:value>^2".toList ∧
      square.eval (fun _ ↦ -3) = 9 ∧
      ofMinusThree.render "<math:<stat:1:value>^2>" = pure "-9") ∧
    (Spaced Mark.source double.marks "2*<stat:1:value>".toList ∧
      double.eval (fun _ ↦ -3) = -6 ∧
      ofMinusThree.render "<math:2*<stat:1:value>>" = pure "[Error: 2*<stat:1:value>]") := by
  intro square double
  have hl : leastInteger? ofMinusThree.system.stats first.id = some (minusThree first.id).1 := rfl
  have hn : (minusThree first.id).1 < 0 := by decide
  have hs : Spaced Mark.source square.marks "<stat:1:value>^2".toList :=
    .of_eq_flatMap (by decide)
  have hd : Spaced Mark.source double.marks "2*<stat:1:value>".toList :=
    .of_eq_flatMap (by decide)
  have hvalue : -((minusThree first.id).1.natAbs : Int) ^ two.value = -9 := by decide
  have hw : Numeral.isWritable (-((minusThree first.id).1.natAbs : Int) ^ two.value) = true :=
    Numeral.isWritable_of_lt (k := 1) (by decide) (by decide)
  have hpower := render_power_of_neg hl hn rfl hw hs
  rw [hvalue] at hpower
  have hnote : ofMinusThree.wording.mathError "2*<stat:1:value>" =
      "[Error: 2*<stat:1:value>]" := by decide
  have hproduct := render_product_of_neg hl hn rfl hd
  rw [hnote] at hproduct
  have hsquare : square.eval (fun _ ↦ -3) = 9 := by decide
  have hdouble : double.eval (fun _ ↦ -3) = -6 := by decide
  exact ⟨hl, ⟨hs, hsquare, hpower⟩, hd, hdouble, hproduct⟩

end Preview
end CharacterSheet
