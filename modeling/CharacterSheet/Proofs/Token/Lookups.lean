import CharacterSheet.Formula.Dependency
import CharacterSheet.Proofs.Token.References
import CharacterSheet.Token.Substitution

/-!
# The values that a substitution asks for

A substitution goes over the raw text once, while the ids of a text are collected token by
token. Both come upon the same mentions: behind its opening bracket a mention holds no other
bracket, so none is missed where a mention is not taken as a whole. Main statement: a
substitution asks for the values of the ids that were collected, in the same order.
-/

namespace CharacterSheet

open Mention

/-- The mention that a piece is, if it is one. -/
def Piece.mention? : Piece → Option Mention
  | .char _ => none
  | .mention m => some m

/-- The characters of pieces when texts take the places of their mentions, one by one. -/
def filled : List Piece → List String → List Char
  | [], _ => []
  | .char c :: ps, texts => c :: filled ps texts
  | .mention _ :: ps, texts => (texts.headD "").toList ++ filled ps texts.tail

/-- The ids whose values a text mentions, from left to right and as often as it does. -/
def mentionedIds (text : String) : List Nat :=
  (readAll text.toList).filterMap Mention.valueId?

/-- A lookup that notes down what it is asked for. -/
def noting (value : Nat → String) (id : Nat) : StateT (List Nat) (Except NumeralError) String := do
  modify (· ++ [id])
  return value id

/-! ### The mentions among pieces -/

/-- The mentions that are taken as pieces are the chosen ones of the text. -/
theorem filterMap_pieces (chosen : Mention → Bool) (cs : List Char) :
    (pieces chosen cs).filterMap Piece.mention? = (readAll cs).filter chosen := by
  fun_induction pieces chosen cs with
  | case1 => rw [readAll_nil]; rfl
  | case2 c rest m behind hm hlt hc ih =>
    rw [readAll_of_read? hm, List.filter_cons_of_pos hc, ← ih]
    exact List.filterMap_cons_some rfl
  | case3 c rest m behind hm hlt hc ih =>
    -- a mention that is not chosen is passed character by character
    obtain ⟨hp, he⟩ := read?_eq_some_iff.mp hm
    have hr : rest = m.source.tail ++ behind := by
      rw [← List.tail_append_of_ne_nil (List.ne_nil_of_length_pos m.length_source_pos), ← he]
      rfl
    rw [readAll_of_read? hm, List.filter_cons_of_neg hc, List.filterMap_cons_none rfl, ih, hr,
      readAll_append_of_notMem (notMem_tail_source hp)]
  | case4 c rest hm ih =>
    rw [readAll_cons hm, List.filterMap_cons_none rfl, ih]

/-- The ids of the mentions that ask for values are the ids that are mentioned. -/
theorem map_filter_isStatValue (ms : List Mention) :
    (ms.filter isStatValue).map (fun m ↦ Text.digitsValue m.digits) =
      ms.filterMap Mention.valueId? := by
  induction ms with
  | nil => rfl
  | cons m ms ih =>
    by_cases hm : m.isStatValue = true
    · have hv : m.valueId? = some (Text.digitsValue m.digits) := if_pos hm
      rw [List.filter_cons_of_pos hm, List.map_cons, List.filterMap_cons_some hv, ih]
    · have hv : m.valueId? = none := if_neg hm
      rw [List.filter_cons_of_neg hm, List.filterMap_cons_none hv, ih]

/-! ### Asking -/

section
variable {m : Type → Type} [Monad m] [LawfulMonad m]

/-- What is done for the items of a list depends only on what is done for each. -/
theorem mapM_congr {α β : Type} {f g : α → m β} {as : List α} (h : ∀ a ∈ as, f a = g a) :
    as.mapM f = as.mapM g := by
  induction as with
  | nil => rfl
  | cons a as ih =>
    obtain ⟨ha, hs⟩ := List.forall_mem_cons.mp h
    rw [List.mapM_cons, List.mapM_cons, ha, ih hs]

variable [MonadExceptOf NumeralError m]

/-- A mention is replaced by what is found for its meaning. -/
theorem Piece.replaced_mention {r : Mention} (hr : r.digits.length ≤ maxDigits)
    (replace : Reference → m String) :
    Piece.replaced replace (.mention r) = String.toList <$> replace r.meaning := by
  rw [Piece.replaced, reference_eq hr, liftExcept, pure_bind, bind_pure_comp]

/-- The pieces of a text are replaced by asking for the mentions among them in their order. -/
theorem mapM_replaced {ps : List Piece}
    (hr : ∀ r ∈ ps.filterMap Piece.mention?, r.digits.length ≤ maxDigits)
    (replace : Reference → m String) :
    List.flatten <$> ps.mapM (Piece.replaced replace) =
      filled ps <$> (ps.filterMap Piece.mention?).mapM fun r ↦ replace r.meaning := by
  induction ps with
  | nil => simp [filled]
  | cons p ps ih =>
    cases p with
    | char c =>
      rw [List.filterMap_cons_none rfl] at hr ⊢
      have hc : filled (.char c :: ps) = (c :: ·) ∘ filled ps := rfl
      rw [List.mapM_cons, Piece.replaced, pure_bind, hc, comp_map, ← ih hr]
      simp
    | mention r =>
      have hp : Piece.mention? (.mention r) = some r := rfl
      rw [List.filterMap_cons_some hp] at hr ⊢
      obtain ⟨hd, hs⟩ := List.forall_mem_cons.mp hr
      rw [List.mapM_cons, List.mapM_cons, Piece.replaced_mention hd, map_bind, map_bind,
        bind_map_left]
      congr 1
      funext text
      calc
        _ = (text.toList ++ ·) <$> List.flatten <$> ps.mapM (Piece.replaced replace) := by simp
        _ = (text.toList ++ ·) <$> filled ps <$>
              (ps.filterMap Piece.mention?).mapM (fun r ↦ replace r.meaning) := by rw [ih hs]
        _ = _ := by simp [filled]

/-- A substitution asks for the values of the ids that are mentioned, from left to right, and
puts together what it is told. -/
theorem substituteStatValues_eq {text : String} (h : ReadableIds text) (value : Nat → m String) :
    substituteStatValues value text =
      (fun texts ↦ String.ofList (filled (pieces isStatValue text.toList) texts)) <$>
        (mentionedIds text).mapM value := by
  have ha := allReadable_of_readableIds h
  have hm := filterMap_pieces isStatValue text.toList
  have hd : ∀ r ∈ (pieces isStatValue text.toList).filterMap Piece.mention?,
      r.digits.length ≤ maxDigits := by
    intro r hr
    rw [hm] at hr
    exact ha r (List.mem_of_mem_filter hr)
  have hr := mapM_replaced hd fun r ↦ value r.id
  have hi : mentionedIds text =
      ((readAll text.toList).filter isStatValue).map fun r ↦ Text.digitsValue r.digits :=
    (map_filter_isStatValue _).symm
  rw [hm] at hr
  rw [hi, List.mapM_map, substituteStatValues, substitute, bind_pure_comp]
  change (String.ofList ∘ List.flatten) <$> _ = (String.ofList ∘ filled _) <$> _
  rw [comp_map, comp_map, hr]
  rfl

end

/-- What is noted down are the ids in order. -/
theorem mapM_noting (value : Nat → String) (ids seen : List Nat) :
    (ids.mapM (noting value)).run seen = .ok (ids.map value, seen ++ ids) := by
  induction ids generalizing seen with
  | nil => rw [List.append_nil]; rfl
  | cons id ids ih =>
    rw [List.mapM_cons, StateT.run_bind]
    change ((ids.mapM (noting value) >>= fun texts ↦ pure (value id :: texts)).run
      (seen ++ [id])) = _
    rw [StateT.run_bind, ih, List.append_assoc]
    rfl

/-! ### Main statement -/

/-- The ids that are collected from a text are those whose values a substitution asks for, each
at its first place; what a lookup tells for any other id makes no difference. -/
theorem statValueIds_are_asked {text : String} (h : ReadableIds text) :
    ∃ ids calls, statValueIds text = .ok ids ∧ dependencies text = .ok (ids.map Int.ofNat) ∧
      calls.eraseDups = ids ∧
      (∀ value : Nat → String, ∃ out,
        (substituteStatValues (noting value) text).run [] = .ok (out, calls) ∧
          substituteStatValues (fun id ↦ Except.ok (value id)) text =
            (.ok out : Except NumeralError String)) ∧
      ∀ {m : Type → Type} [Monad m] [LawfulMonad m] [MonadExceptOf NumeralError m]
        (f g : Nat → m String), (∀ id ∈ ids, f id = g id) →
          substituteStatValues f text = substituteStatValues g text := by
  have hi : statValueIds text = .ok (mentionedIds text).eraseDups := statValueIds_eq h
  refine ⟨_, mentionedIds text, hi, ?_, rfl, ?_, ?_⟩
  · rw [dependencies, hi]
    rfl
  · intro value
    refine ⟨String.ofList (filled (pieces isStatValue text.toList)
      ((mentionedIds text).map value)), ?_, ?_⟩
    · rw [substituteStatValues_eq h, StateT.run_map, mapM_noting, List.nil_append]
      rfl
    · have hm : (mentionedIds text).mapM (fun id ↦ Except.ok (value id)) =
          (.ok ((mentionedIds text).map value) : Except NumeralError (List String)) :=
        List.mapM_pure
      rw [substituteStatValues_eq h, hm]
      rfl
  · intro m _ _ _ f g hfg
    rw [substituteStatValues_eq h f, substituteStatValues_eq h g, mapM_congr]
    intro id hid
    exact hfg id (List.mem_eraseDups.mpr hid)

/-- The first reference stands in a body, the second one in an opening that is never closed, and
the third one repeats the first. -/
theorem statValueIds_are_asked_twice :
    ReadableIds "<math:<stat:2:value>+1> <dice:<stat:10:value> <stat:2:value>" ∧
      ∃ ids calls,
        statValueIds "<math:<stat:2:value>+1> <dice:<stat:10:value> <stat:2:value>" = .ok ids ∧
          calls.eraseDups = ids ∧
          ∃ out, (substituteStatValues (noting fun id ↦ toString id)
            "<math:<stat:2:value>+1> <dice:<stat:10:value> <stat:2:value>").run [] =
              .ok (out, calls) := by
  have h : ReadableIds "<math:<stat:2:value>+1> <dice:<stat:10:value> <stat:2:value>" :=
    readableIds_of_length_le (by decide)
  obtain ⟨ids, calls, hi, -, hc, ha, -⟩ := statValueIds_are_asked h
  obtain ⟨out, ho, -⟩ := ha fun id ↦ toString id
  exact ⟨h, ids, calls, hi, hc, out, ho⟩

end CharacterSheet
