import CharacterSheet.Proofs.Token.References

/-!
# What a scan covers

A scan fails at the first id that is too long, wherever it stands, and passes over nothing but
literal characters. Main statements: a text is scanned to its end exactly when its ids can be
read; every mention in it is then a token of its own or stands in the body of an expression.
-/

namespace CharacterSheet

open Mention

/-! ### Ids that were read -/

/-- A mention that was read as a reference has an id that is not too long. -/
theorem Mention.length_le_of_reference {m : Mention} {r : Reference} (h : m.reference = .ok r) :
    m.digits.length ≤ maxDigits := by
  by_contra hn
  simp [reference, Numeral.readDigits, hn, Except.map] at h

/-- In the body of an expression that was read all ids can be read. -/
theorem allReadable_of_expressionBody? {cs body rest : List Char}
    (h : expressionBody? cs = .ok (some (body, rest))) : AllReadable body := by
  fun_induction expressionBody? cs generalizing body rest with
  | case1 => simp at h
  | case2 r =>
    obtain ⟨rfl, rfl⟩ : [] = body ∧ r = rest := by simpa using h
    simp [AllReadable, readAll_nil]
  | case3 => simp at h
  | case4 c r hc m behind hm hlt ref href ih =>
    obtain ⟨⟨inner, tail⟩, hi, he⟩ := map_found_eq_some_iff.mp h
    obtain ⟨rfl, rfl⟩ := Prod.mk.inj he
    rw [AllReadable, readAll_of_read? (read?_source (isProper_of_read? hm) inner)]
    exact List.forall_mem_cons.mpr ⟨length_le_of_reference href, ih hi⟩
  | case5 c r hc hm ih =>
    obtain ⟨⟨inner, tail⟩, hi, he⟩ := map_found_eq_some_iff.mp h
    obtain ⟨rfl, rfl⟩ := Prod.mk.inj he
    have hn : read? (c :: inner) = none := by
      apply read?_eq_none_of_append ('>' :: tail)
      rwa [List.cons_append, ← eq_of_expressionBody? hi]
    rw [AllReadable, readAll_cons hn]
    exact ih hi

/-- Where a token was read, the ids can be read when those behind it can. -/
theorem Token.allReadable_of_read? {cs rest : List Char} {t : Token}
    (h : Token.read? cs = .ok (some (t, rest))) (ha : AllReadable rest) : AllReadable cs := by
  unfold Token.read? at h
  cases hm : Mention.read? cs with
  | some found =>
    obtain ⟨m, behind⟩ := found
    simp only [hm] at h
    cases hr : m.reference with
    | error e => simp [hr, Except.map] at h
    | ok r =>
      simp only [hr, Except.map, Except.ok.injEq, Option.some.injEq, Prod.mk.injEq] at h
      rw [AllReadable, readAll_of_read? hm, h.2]
      exact List.forall_mem_cons.mpr ⟨length_le_of_reference hr, ha⟩
  | none =>
    simp only [hm, Token.readExpression?] at h
    cases ho : Token.readOpening? cs with
    | none => simp [ho] at h
    | some opened =>
      obtain ⟨kind, inner⟩ := opened
      simp only [ho] at h
      rcases hb : expressionBody? inner with e | _ | ⟨body, behind⟩
      · simp [hb, Except.map] at h
      · simp [hb, Except.map] at h
      · by_cases he : body.isEmpty
        · simp [hb, Except.map, he] at h
        · simp only [hb, Except.map, he, Bool.false_eq_true, if_false, Except.ok.injEq,
            Option.some.injEq, Prod.mk.injEq] at h
          rw [AllReadable, readAll_of_readOpening? ho hm, readAll_of_expressionBody? hb, h.2]
          exact List.forall_mem_append.mpr ⟨allReadable_of_expressionBody? hb, ha⟩

/-- Where no token is read, no mention starts. -/
theorem Token.mention_read?_eq_none {cs : List Char} (h : Token.read? cs = .ok none) :
    Mention.read? cs = none := by
  cases hm : Mention.read? cs with
  | none => rfl
  | some found =>
    simp only [Token.read?, hm] at h
    cases hr : found.1.reference <;> simp [hr, Except.map] at h

/-- A scan that came to the end has read all ids. -/
theorem Scan.allReadable_of_failure {run cs : List Char} (h : (fromRun run cs).failure = none) :
    AllReadable cs := by
  fun_induction fromRun run cs with
  | case1 run => simp [AllReadable, readAll_nil]
  | case2 run rest e he => simp at h
  | case3 run rest hn ih =>
    rw [AllReadable, readAll_cons (Token.mention_read?_eq_none hn)]
    exact ih h
  | case4 run rest t behind ht hlt taken ih =>
    rw [failure_afterLiteral, failure_cons] at h
    exact Token.allReadable_of_read? ht (ih h)
  | case5 run c rest hc ih =>
    rw [AllReadable, readAll_cons (read?_of_ne hc rest)]
    exact ih h

section
variable {text : String} {ts : List Token}

/-- Tokens that were found are those of a scan that came to the end. -/
theorem scan_of_tokens (h : tokens text = .ok ts) :
    (scan text).failure = none ∧ (scan text).found = ts := by
  unfold tokens segments Scan.complete at h
  cases hf : (scan text).failure with
  | some e => simp [hf, Except.map] at h
  | none => simpa [hf, Except.map, Scan.found] using h

/-! ### Main statements -/

/-- The tokens of a text can be found exactly when its ids can be read. -/
theorem exists_tokens_iff : (∃ ts, tokens text = .ok ts) ↔ ReadableIds text := by
  constructor
  · rintro ⟨ts, h⟩ m hm
    exact Scan.allReadable_of_failure (scan_of_tokens h).1 m (mem_readAll_iff.mpr hm)
  · intro h
    exact ⟨_, tokens_eq (Scan.fromRun_readFrom [] (allReadable_of_readableIds h)).1⟩

/-- Every mention in a text is a token of its own or stands in the body of an expression. -/
theorem exists_token_of_mention (h : tokens text = .ok ts) {m : Mention}
    (hm : m.OccursIn text.toList) :
    .reference m.meaning ∈ ts ∨
      ∃ kind body, .expression kind body ∈ ts ∧ m.OccursIn body.toList := by
  have ha := allReadable_of_readableIds (exists_tokens_iff.mp ⟨ts, h⟩)
  obtain ⟨-, parts, hp, he⟩ := Scan.fromRun_readFrom [] ha
  change List.Forall₂ Token.ReadFrom (scan text).found parts at hp
  rw [(scan_of_tokens h).2] at hp
  have hmem : m ∈ parts.flatten := by rw [he]; exact mem_readAll_iff.mpr hm
  clear h ha he hm
  induction hp with
  | nil => simp at hmem
  | @cons t ms ts parts ht hp ih =>
    rcases List.mem_append.mp hmem with hmem | hmem
    · cases ht with
      | reference hd =>
        rw [List.mem_singleton.mp hmem]
        exact .inl List.mem_cons_self
      | @expression kind body hu =>
        refine .inr ⟨kind, String.ofList body, List.mem_cons_self, ?_⟩
        rw [String.toList_ofList]
        exact mem_readAll_iff.mp hmem
    · rcases ih hmem with hr | ⟨kind, body, hb, ho⟩
      · exact .inl (List.mem_cons_of_mem _ hr)
      · exact .inr ⟨kind, body, List.mem_cons_of_mem _ hb, ho⟩

/-- Values that a text asks for were found only where its ids can be read. -/
theorem readableIds_of_statValueIds {ids : List Nat} (h : statValueIds text = .ok ids) :
    ReadableIds text := by
  refine exists_tokens_iff.mp ?_
  cases ht : tokens text with
  | ok ts => exact ⟨ts, rfl⟩
  | error e => simp [statValueIds, statReferences, ht, bind, Except.bind, Except.map] at h

/-- The ids that were found are those whose values the text asks for. -/
theorem mem_statValueIds_iff {ids : List Nat} (h : statValueIds text = .ok ids) (n : Nat) :
    n ∈ ids ↔ AsksFor text n := by
  obtain ⟨_, hi, -, hm⟩ := exists_statValueIds (readableIds_of_statValueIds h)
  cases h.symm.trans hi
  exact hm n

end
end CharacterSheet
