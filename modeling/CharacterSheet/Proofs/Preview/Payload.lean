import CharacterSheet.Preview
import CharacterSheet.Proofs.Arithmetic.Formula
import CharacterSheet.Proofs.Token.Contexts
import CharacterSheet.Proofs.Token.Lookups

/-!
# Formulas in expressions

The body of an expression that spells a formula is read whole, because no bracket closes it but
those of its references. As it is handed on, the least values of stats stand in the places of the
references to them. Main statement: what is handed on spells the parts of the formula.
-/

namespace CharacterSheet

open Arithmetic Mention
open Text (Spaced)

/-- The least value of a numeric stat, if it is an integer. -/
def leastInteger? (stats : List Stat) (id : Int) : Option Int :=
  (findStat stats id).bind fun s ↦
    match s.detail with
    | .numeric (some (.int n)) _ _ => some n
    | _ => none

/-- A formula with one reference asks for one least value. -/
theorem leastInteger?_of_ids {stats : List Stat} {least : Nat → WritableInt} {l : Level}
    {e : Formula l} {r : ValueReference} (he : e.ids = [r.id])
    (hl : leastInteger? stats r.id = some (least r.id).1) :
    ∀ id ∈ e.ids, leastInteger? stats id = some (least id).1 := by
  rw [he]
  exact List.forall_mem_singleton.mpr hl

/-- The sample of a stat with an integer for its least value is that integer. -/
theorem sampleValue_eq {stats : List Stat} {id : Int} {n : WritableInt}
    (h : leastInteger? stats id = some n.1) : sampleValue stats .math id = .ok (toString n.1) := by
  obtain ⟨s, hs, hd⟩ := Option.bind_eq_some_iff.mp h
  split at hd
  · next k max rolls hdetail =>
    have hw : n.1.natAbs < 10 ^ maxDigits := of_decide_eq_true n.2
    rw [sampleValue, hs, ← Number.plainText_int n.1 hw, ← Option.some.inj hd]
    simp only [Stat.sample, hdetail]
    rfl
  · contradiction

/-! ### Brackets -/

/-- A literal or a sign holds no bracket of a token. -/
theorem Arithmetic.Part.ne_bracket (p : Part) : '<' ∉ p.source ∧ '>' ∉ p.source := by
  cases p with
  | literal n =>
    have ho : Char.isDigit '<' = false := by decide
    have hc : Char.isDigit '>' = false := by decide
    constructor
    · intro h
      have := n.decimal _ h
      rw [ho] at this
      contradiction
    · intro h
      have := n.decimal _ h
      rw [hc] at this
      contradiction
  | sign s => cases s <;> decide

/-- A text of parts holds no bracket that opens a token. -/
theorem notMem_of_spaced {ps : List Part} {cs : List Char} (h : Spaced Part.source ps cs) :
    '<' ∉ cs := by
  intro hm
  rcases h.mem_cases hm with hb | ⟨p, -, hp⟩
  · exact absurd hb (by decide)
  · exact p.ne_bracket.1 hp

/-- A reference is written as a mention. -/
theorem ValueReference.isProper (r : ValueReference) : r.mention.IsProper := ⟨r.ne_nil, r.decimal⟩

/-! ### The body of an expression -/

/-- What holds no bracket is part of a body. -/
theorem expressionBody?_append_of_notMem {front cs body rest : List Char} (ho : '<' ∉ front)
    (hc : '>' ∉ front) (h : expressionBody? cs = .ok (some (body, rest))) :
    expressionBody? (front ++ cs) = .ok (some (front ++ body, rest)) := by
  induction front with
  | nil => exact h
  | cons c front ih =>
    have hne : c ≠ '<' := (List.ne_of_not_mem_cons ho).symm
    have hne' : c ≠ '>' := (List.ne_of_not_mem_cons hc).symm
    rw [List.cons_append, expressionBody?_cons hne' (read?_of_ne hne _),
      ih (List.not_mem_of_not_mem_cons ho) (List.not_mem_of_not_mem_cons hc)]
    rfl

/-- A text of marks is a body up to the bracket behind it. -/
theorem expressionBody?_of_spaced {ms : List Mark} {cs : List Char}
    (h : Spaced Mark.source ms cs) (rest : List Char) :
    expressionBody? (cs ++ '>' :: rest) = .ok (some (cs, rest)) := by
  induction h with
  | nil =>
    rw [List.nil_append, expressionBody?]
    rfl
  | @blank ms c cs hb h ih =>
    have ho : '<' ∉ [c] := by simpa using (ne_of_isBlank hb (d := '<') (by decide)).symm
    have hc : '>' ∉ [c] := by simpa using (ne_of_isBlank hb (d := '>') (by decide)).symm
    exact expressionBody?_append_of_notMem ho hc ih
  | @mark ms cs m h ih =>
    rw [List.append_assoc]
    cases m with
    | part p => exact expressionBody?_append_of_notMem p.ne_bracket.1 p.ne_bracket.2 ih
    | value r =>
      have hr : r.mention.reference = .ok r.mention.meaning := reference_eq r.short
      rw [Mark.source, expressionBody?_of_read? (read?_source r.isProper _) hr, ih]
      rfl

/-! ### Putting the values in -/

theorem pieces_of_read? {chosen : Mention → Bool} {cs rest : List Char} {m : Mention}
    (h : read? cs = some (m, rest)) (hc : chosen m = true) :
    pieces chosen cs = .mention m :: pieces chosen rest := by
  cases cs with
  | nil => simp [read?, readOpening?, Text.after?, opening] at h
  | cons c cs =>
    rw [pieces]
    split
    · next found behind hf =>
      rw [h] at hf
      obtain ⟨rfl, rfl⟩ := Prod.mk.inj (Option.some.inj hf)
      exact if_pos hc
    · next hn => simp [h] at hn

/-- Where no bracket opens a reference every character is a piece. -/
theorem pieces_append_of_notMem (chosen : Mention → Bool) {front : List Char} (h : '<' ∉ front)
    (cs : List Char) : pieces chosen (front ++ cs) = front.map .char ++ pieces chosen cs := by
  induction front with
  | nil => rfl
  | cons c front ih =>
    have hne : c ≠ '<' := (List.ne_of_not_mem_cons h).symm
    rw [List.cons_append, pieces]
    split
    · next found behind hf =>
      rw [read?_of_ne hne] at hf
      contradiction
    · rw [ih (List.not_mem_of_not_mem_cons h), List.map_cons, List.cons_append]

section
variable {m : Type → Type} [Monad m] [LawfulMonad m] [MonadExceptOf NumeralError m]

/-- Characters stay what they are. -/
theorem mapM_replaced_char (replace : Reference → m String) (cs : List Char) :
    (cs.map .char).mapM (Piece.replaced replace) = pure (cs.map fun c ↦ [c]) := by
  rw [List.mapM_map]
  exact List.mapM_pure

/-- A text in which no bracket opens a reference stays what it is. -/
theorem substitute_of_notMem (chosen : Mention → Bool) (replace : Reference → m String)
    {text : String} (h : '<' ∉ text.toList) : substitute chosen replace text = pure text := by
  have hp := pieces_append_of_notMem chosen h []
  rw [List.append_nil, pieces, List.append_nil] at hp
  rw [substitute, hp, mapM_replaced_char, pure_bind]
  congr 1
  rw [← List.flatMap_def, List.flatMap_singleton', String.ofList_toList]

end

/-- Integers are put in the places of references, and the rest stays what it is. -/
theorem exists_pasted {least : Nat → WritableInt} (value : Nat → Except NumeralError String)
    {ms : List Mark} {cs : List Char} (h : Spaced Mark.source ms cs)
    (hv : ∀ r, .value r ∈ ms → value r.id = .ok (toString (least r.id).1)) :
    ∃ parts, (pieces isStatValue cs).mapM (Piece.replaced fun r ↦ value r.id) = .ok parts ∧
      Spaced Part.source (ms.flatMap (Mark.parts least)) parts.flatten := by
  induction h with
  | nil => exact ⟨[], by rw [pieces]; rfl, .nil⟩
  | @blank ms c cs hb h ih =>
    obtain ⟨parts, hp, hs⟩ := ih hv
    have hc : '<' ∉ [c] := by simpa using (ne_of_isBlank hb (d := '<') (by decide)).symm
    refine ⟨[c] :: parts, ?_, .blank hb hs⟩
    rw [← List.singleton_append, pieces_append_of_notMem _ hc, List.mapM_append,
      mapM_replaced_char, hp]
    rfl
  | @mark ms cs m h ih =>
    obtain ⟨parts, hp, hs⟩ := ih fun r hr ↦ hv r (List.mem_cons_of_mem m hr)
    cases m with
    | part p =>
      refine ⟨p.source.map (fun c ↦ [c]) ++ parts, ?_, ?_⟩
      · rw [Mark.source, pieces_append_of_notMem _ p.ne_bracket.1, List.mapM_append,
          mapM_replaced_char, hp]
        rfl
      · rw [List.flatten_append, ← List.flatMap_def, List.flatMap_singleton', List.flatMap_cons]
        exact .mark p hs
    | value r =>
      have hi : Piece.replaced (fun r ↦ value r.id) (.mention r.mention) =
          .ok (toString (least r.id).1).toList := by
        have hm : value r.mention.meaning.id = _ := hv r List.mem_cons_self
        rw [Piece.replaced_mention r.short, hm]
        rfl
      refine ⟨(toString (least r.id).1).toList :: parts, ?_, ?_⟩
      · rw [Mark.source, pieces_of_read? (read?_source r.isProper cs) rfl, List.mapM_cons,
          hi, hp]
        rfl
      · rw [List.flatten_cons, List.flatMap_cons, ← flatMap_source_signed]
        exact (Spaced.flatMap (signed (least r.id))).append hs

/-- What is handed on spells the parts of the formula, with the least values of stats in the
places of the references to them. -/
theorem exists_payload {m : Type → Type} {p : Preview m} {least : Nat → WritableInt}
    {e : Formula .sum} (hl : ∀ id ∈ e.ids, leastInteger? p.system.stats id = some (least id).1)
    {body : String} (hb : Spaced Mark.source e.marks body.toList) :
    ∃ text, p.payload .math body = .ok text ∧
      Spaced Part.source (e.parts least) text.toList := by
  have hv : ∀ r, .value r ∈ e.marks →
      sampleValue p.system.stats .math r.id = .ok (toString (least r.id).1) := by
    intro r hr
    exact sampleValue_eq (hl r.id (List.mem_filterMap.mpr ⟨.value r, hr, rfl⟩))
  obtain ⟨parts, hp, hs⟩ := exists_pasted (sampleValue p.system.stats .math ·) hb hv
  have ht : Spaced Part.source (e.parts least) (String.ofList parts.flatten).toList := by
    rw [String.toList_ofList]
    exact hs
  refine ⟨String.ofList parts.flatten, ?_, ht⟩
  have hn := substitute_of_notMem (fun _ ↦ true) p.reference (notMem_of_spaced ht)
  rw [Preview.payload, substituteStatValues, substitute, hp]
  exact hn

end CharacterSheet
