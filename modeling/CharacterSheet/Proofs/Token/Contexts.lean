import CharacterSheet.Proofs.Token.References

/-!
# Tokens and what stands around them

Whether an opening starts a token depends on everything up to the bracket that closes it, and on
nothing behind that bracket. Main statement: a token is read from its own characters just as it
is read where any other characters follow them.
-/

namespace CharacterSheet

open Mention

/-! ### Mentions -/

/-- The only closing bracket of a mention is its last character. -/
theorem Mention.source_eq_concat {m : Mention} (hm : m.IsProper) :
    ∃ front, m.source = front ++ ['>'] ∧ '>' ∉ front := by
  have hd : Text.isDecimalDigit '>' = false := by decide
  have hi : '>' ∉ m.digits := by
    intro h
    have := hm.2 _ h
    rw [hd] at this
    contradiction
  have ho : '>' ∉ opening m.subject := by cases m.subject <;> decide
  have hp : '>' ∉ ':' :: m.property.word.toList := by cases m.property <;> decide
  refine ⟨opening m.subject ++ (m.digits ++ ':' :: m.property.word.toList), ?_, ?_⟩
  · simp only [source, closing, List.append_assoc, List.cons_append]
  · simp only [List.mem_append, not_or]
    exact ⟨ho, hi, hp⟩

/-- What is closed by a bracket but is no mention does not become one by what follows it. -/
theorem read?_append_eq_none {cs : List Char} (h : read? cs = none) (hc : '>' ∈ cs)
    (more : List Char) : read? (cs ++ more) = none := by
  cases hf : read? (cs ++ more) with
  | none => rfl
  | some found =>
    obtain ⟨m, rest⟩ := found
    obtain ⟨hm, he⟩ := read?_eq_some_iff.mp hf
    rcases List.append_eq_append_iff.mp he with ⟨gap, hg, -⟩ | ⟨gap, hg, -⟩
    · obtain ⟨front, hs, hn⟩ := source_eq_concat hm
      rcases List.eq_nil_or_concat gap with rfl | ⟨tail, c, rfl⟩
      · rw [List.append_nil] at hg
        rw [← hg, ← List.append_nil m.source, read?_source hm] at h
        contradiction
      · -- the bracket in `cs` would stand before the last character of the mention
        rw [hs, List.concat_eq_append, ← List.append_assoc] at hg
        have : front = cs ++ tail := (List.append_inj' hg rfl).1
        rw [this] at hn
        exact absurd (List.mem_append_left _ hc) hn
    · rw [hg, read?_source hm] at h
      contradiction

/-- The words that open an expression start no mention. -/
theorem read?_opening (kind : ExpressionKind) (rest : List Char) :
    read? (Token.opening kind ++ rest) = none := by
  cases kind <;> rfl

/-! ### Bodies of expressions -/

/-- The body of an expression does not depend on what follows its closing bracket. -/
theorem expressionBody?_append {cs body rest : List Char}
    (h : expressionBody? cs = .ok (some (body, rest))) (more : List Char) :
    expressionBody? (cs ++ more) = .ok (some (body, rest ++ more)) := by
  fun_induction expressionBody? cs generalizing body rest with
  | case1 => simp at h
  | case2 r =>
    obtain ⟨rfl, rfl⟩ : [] = body ∧ r = rest := by simpa using h
    rw [List.cons_append, expressionBody?]
    rfl
  | case3 => simp at h
  | case4 c r hc m behind hm hlt ref href ih =>
    obtain ⟨⟨inner, tail⟩, hi, he⟩ := map_found_eq_some_iff.mp h
    obtain ⟨rfl, rfl⟩ := Prod.mk.inj he
    rw [expressionBody?_of_read? (read?_append hm more) href, ih hi]
    rfl
  | case5 c r hc hm ih =>
    obtain ⟨⟨inner, tail⟩, hi, he⟩ := map_found_eq_some_iff.mp h
    obtain ⟨rfl, rfl⟩ := Prod.mk.inj he
    have hb : '>' ∈ c :: r := by
      rw [eq_of_expressionBody? hi]
      simp
    have hn := read?_append_eq_none hm hb more
    rw [List.cons_append] at hn ⊢
    rw [expressionBody?_cons hc hn, ih hi]
    rfl

/-- The body of an expression is the body that is found when the text ends with the bracket. -/
theorem expressionBody?_closed {cs body rest : List Char}
    (h : expressionBody? cs = .ok (some (body, rest))) :
    expressionBody? (body ++ ['>']) = .ok (some (body, [])) := by
  fun_induction expressionBody? cs generalizing body rest with
  | case1 => simp at h
  | case2 r =>
    obtain ⟨rfl, rfl⟩ : [] = body ∧ r = rest := by simpa using h
    rw [List.nil_append, expressionBody?]
    rfl
  | case3 => simp at h
  | case4 c r hc m behind hm hlt ref href ih =>
    obtain ⟨⟨inner, tail⟩, hi, he⟩ := map_found_eq_some_iff.mp h
    obtain ⟨rfl, rfl⟩ := Prod.mk.inj he
    rw [List.append_assoc, expressionBody?_of_read? (read?_source (isProper_of_read? hm) _) href,
      ih hi]
    rfl
  | case5 c r hc hm ih =>
    obtain ⟨⟨inner, tail⟩, hi, he⟩ := map_found_eq_some_iff.mp h
    obtain ⟨rfl, rfl⟩ := Prod.mk.inj he
    have hn : read? (c :: (inner ++ ['>'])) = none := by
      apply read?_eq_none_of_append tail
      rw [eq_of_expressionBody? hi] at hm
      simpa using hm
    rw [List.cons_append, expressionBody?_cons hc hn, ih hi]
    rfl

/-! ### Tokens -/

namespace Token

theorem readOpening?_opening (kind : ExpressionKind) (rest : List Char) :
    readOpening? (opening kind ++ rest) = some (kind, rest) := by
  cases kind <;> rfl

/-- The characters of a token, and the token that is read from them. -/
inductive Reads : List Char → Token → Prop where
  | reference {m : Mention} {r : Reference} (hm : m.IsProper) (hr : m.reference = .ok r) :
    Reads m.source (.reference r)
  | expression (kind : ExpressionKind) {body : List Char} (hne : body ≠ [])
      (hb : expressionBody? (body ++ ['>']) = .ok (some (body, []))) :
    Reads (opening kind ++ (body ++ ['>'])) (.expression kind (String.ofList body))

/-- A token is read when its characters stand at the front of a text. -/
theorem Reads.read?_append {source : List Char} {t : Token} (h : Reads source t)
    (rest : List Char) : read? (source ++ rest) = .ok (some (t, rest)) := by
  cases h with
  | @reference m r hm hr =>
    rw [read?, read?_source hm]
    simp only [hr, Except.map]
  | @expression kind body hne hb =>
    have hb' := expressionBody?_append hb rest
    have he : body.isEmpty = false := by simpa using hne
    rw [List.append_assoc, read?, read?_opening]
    simp only [readExpression?, readOpening?_opening, hb', Except.map, he]
    rfl

/-- What a token was read from are its characters and the rest. -/
theorem exists_reads {cs rest : List Char} {t : Token} (h : read? cs = .ok (some (t, rest))) :
    ∃ source, cs = source ++ rest ∧ Reads source t := by
  unfold read? at h
  split at h
  · next m r hm =>
    obtain ⟨hp, rfl⟩ := read?_eq_some_iff.mp hm
    cases hr : m.reference with
    | error e => simp [hr, Except.map] at h
    | ok ref =>
      simp only [hr, Except.map, Except.ok.injEq, Option.some.injEq, Prod.mk.injEq] at h
      obtain ⟨rfl, rfl⟩ := h
      exact ⟨m.source, rfl, .reference hp hr⟩
  · unfold readExpression? at h
    split at h
    · simp at h
    · next kind inner ho =>
      obtain rfl := eq_of_readOpening? ho
      cases hb : expressionBody? inner with
      | error e => simp [hb, Except.map] at h
      | ok found =>
        rcases found with _ | ⟨body, tail⟩
        · simp [hb, Except.map] at h
        · simp only [hb, Except.map] at h
          split at h
          · simp at h
          · next hne =>
            simp only [Except.ok.injEq, Option.some.injEq, Prod.mk.injEq] at h
            obtain ⟨rfl, rfl⟩ := h
            refine ⟨opening kind ++ (body ++ ['>']), ?_, ?_⟩
            · rw [eq_of_expressionBody? hb]
              simp
            · exact .expression kind (by simpa using hne) (expressionBody?_closed hb)

/-- A token is read exactly when its characters stand at the front. -/
theorem read?_eq_some_iff {cs rest : List Char} {t : Token} :
    read? cs = .ok (some (t, rest)) ↔ ∃ source, cs = source ++ rest ∧ Reads source t := by
  constructor
  · exact exists_reads
  · rintro ⟨source, rfl, h⟩
    exact h.read?_append rest

/-- A token has characters. -/
theorem Reads.ne_nil {source : List Char} {t : Token} (h : Reads source t) : source ≠ [] := by
  cases h with
  | reference => exact List.ne_nil_of_length_pos (length_source_pos _)
  | expression => simp [opening]

/-- No token starts with a character other than the bracket that opens one. -/
theorem read?_of_ne {c : Char} (hc : c ≠ '<') (rest : List Char) :
    read? (c :: rest) = .ok none := by
  have ho : readOpening? (c :: rest) = none := by
    cases ho : readOpening? (c :: rest) with
    | none => rfl
    | some found =>
      have he := eq_of_readOpening? ho
      rw [opening, List.cons_append, List.cons.injEq] at he
      exact absurd he.1 hc
  rw [read?, Mention.read?_of_ne hc]
  simp only [readExpression?, ho]

end Token
end CharacterSheet
