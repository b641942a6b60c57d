import CharacterSheet.Proofs.Token.Coverage
import CharacterSheet.Proofs.Token.Segments
import Mathlib.Order.Bounds.Basic

/-!
# Where expressions end

A bracket in the body of an expression either closes a mention that stands there or closes the
expression. Mentions do not overlap, so it makes no difference that the body is read from its
start, mention by mention. Main statement: an expression is read exactly where its opening stands
and goes up to the first bracket that closes no mention; the tokens of its body are the mentions
that stand in it.
-/

namespace CharacterSheet

open Mention

/-- The characters of a mention stand at a place of a text. -/
def Mention.StandsAt (m : Mention) (cs : List Char) (i : Nat) : Prop :=
  m.IsProper ∧ m.source <+: cs.drop i

/-- A closing bracket from `b` on that closes no mention that starts from `b` on. -/
structure IsFree (cs : List Char) (b j : Nat) : Prop where
  behind : b ≤ j
  bracket : cs[j]? = some '>'
  free : ∀ (m : Mention) (i : Nat), b ≤ i → m.StandsAt cs i → j + 1 ≠ i + m.source.length

/-- Tokens with their spans that are the mentions of a text, from left to right. -/
structure AreMentions (cs : List Char) (start : Nat) (found : List (Token × Span)) : Prop where
  ordered : found.Pairwise fun p q ↦ p.2.stop ≤ q.2.start
  mem_iff : ∀ t s, (t, s) ∈ found ↔ ∃ (m : Mention) (i : Nat), m.StandsAt cs i ∧
    t = .reference m.meaning ∧ s = ⟨start + i, start + i + m.source.length⟩

/-! ### Places of mentions -/

section
variable {c : Char} {cs rest : List Char} {m k : Mention} {i : Nat}

theorem Mention.not_standsAt_nil : ¬ m.StandsAt [] i := by
  rintro ⟨-, h⟩
  rw [List.drop_nil, List.prefix_nil] at h
  exact List.ne_nil_of_length_pos m.length_source_pos h

/-- Where no mention starts the mentions are those behind the first character. -/
theorem Mention.standsAt_cons_iff (h : read? (c :: rest) = none) :
    k.StandsAt (c :: rest) i ↔ ∃ j, i = 1 + j ∧ k.StandsAt rest j := by
  constructor
  · rintro ⟨hk, back, hb⟩
    cases i with
    | zero =>
      rw [List.drop_zero] at hb
      rw [← hb, read?_source hk] at h
      contradiction
    | succ i => exact ⟨i, Nat.add_comm i 1, hk, back, hb⟩
  · rintro ⟨j, rfl, hk, hp⟩
    rw [StandsAt, Nat.add_comm]
    exact ⟨hk, hp⟩

/-- A mention at the front stands at the front, and the others stand behind it. -/
theorem Mention.standsAt_iff_of_read? (h : read? cs = some (m, rest)) :
    k.StandsAt cs i ↔ (i = 0 ∧ k = m) ∨ ∃ j, i = m.source.length + j ∧ k.StandsAt rest j := by
  obtain ⟨hm, rfl⟩ := read?_eq_some_iff.mp h
  constructor
  · rintro ⟨hk, back, hb⟩
    rcases Nat.eq_zero_or_pos i with rfl | hi
    · rw [List.drop_zero] at hb
      rw [← hb, read?_source hk] at h
      exact .inl ⟨rfl, (Prod.mk.inj (Option.some.inj h)).1⟩
    · have hpos := k.length_source_pos
      have hlength := congrArg List.length hb
      simp only [List.length_append, List.length_drop] at hlength
      have htake : ((m.source ++ rest).take i).length = i :=
        List.length_take_of_le (by rw [List.length_append]; omega)
      have hne : (m.source ++ rest).take i ≠ [] :=
        List.ne_nil_of_length_pos (by rw [htake]; exact hi)
      have hsplit : (m.source ++ rest).take i ++ (k.source ++ back) = m.source ++ rest := by
        rw [hb, List.take_append_drop]
      obtain ⟨gap, hg, hr⟩ := exists_gap_of_source_append hm hne hsplit
      rw [hg, List.length_append] at htake
      refine .inr ⟨gap.length, htake.symm, hk, back, ?_⟩
      rw [hr, List.drop_left']
      rfl
  · rintro (⟨rfl, rfl⟩ | ⟨j, rfl, hk, hp⟩)
    · exact ⟨hm, List.prefix_append _ _⟩
    · refine ⟨hk, ?_⟩
      rwa [← List.drop_drop, List.drop_left' rfl]

/-- The mentions from a place on are those of the rest of the text. -/
theorem Mention.standsAt_drop_iff {b : Nat} :
    m.StandsAt (cs.drop b) i ↔ m.StandsAt cs (b + i) := by
  rw [StandsAt, StandsAt, List.drop_drop]

end

/-! ### Free brackets -/

section
variable {c : Char} {cs rest : List Char} {m : Mention} {j : Nat}

theorem isFree_iff_drop {b : Nat} :
    IsFree cs b j ↔ ∃ i, j = b + i ∧ IsFree (cs.drop b) 0 i := by
  constructor
  · intro h
    obtain ⟨i, rfl⟩ := Nat.exists_eq_add_of_le h.behind
    refine ⟨i, rfl, Nat.zero_le i, by rw [List.getElem?_drop]; exact h.bracket, ?_⟩
    intro m k _ hm
    have := h.free m (b + k) (Nat.le_add_right b k) (standsAt_drop_iff.mp hm)
    omega
  · rintro ⟨i, rfl, h⟩
    refine ⟨Nat.le_add_right b i, by rw [← List.getElem?_drop]; exact h.bracket, ?_⟩
    intro m k hk hm
    obtain ⟨n, rfl⟩ := Nat.exists_eq_add_of_le hk
    have := h.free m n (Nat.zero_le n) (standsAt_drop_iff.mpr hm)
    omega

/-- Where no mention starts the free brackets are those behind the first character. -/
theorem isFree_cons_iff (hc : c ≠ '>') (h : read? (c :: rest) = none) :
    IsFree (c :: rest) 0 j ↔ ∃ i, j = 1 + i ∧ IsFree rest 0 i := by
  constructor
  · rintro ⟨-, hb, hf⟩
    cases j with
    | zero =>
      rw [List.getElem?_cons_zero] at hb
      exact absurd (Option.some.inj hb) hc
    | succ j =>
      refine ⟨j, Nat.add_comm j 1, Nat.zero_le j, hb, fun m i _ hm ↦ ?_⟩
      have := hf m (1 + i) (Nat.zero_le _) ((standsAt_cons_iff h).mpr ⟨i, rfl, hm⟩)
      omega
  · rintro ⟨i, rfl, -, hb, hf⟩
    refine ⟨Nat.zero_le _, by rw [Nat.add_comm]; exact hb, fun m k _ hm ↦ ?_⟩
    obtain ⟨n, rfl, hn⟩ := (standsAt_cons_iff h).mp hm
    have := hf m n (Nat.zero_le n) hn
    omega

/-- Behind a mention at the front the free brackets are those of the rest: the only bracket of
the mention closes it. -/
theorem isFree_iff_of_read? (h : read? cs = some (m, rest)) :
    IsFree cs 0 j ↔ ∃ i, j = m.source.length + i ∧ IsFree rest 0 i := by
  obtain ⟨hm, rfl⟩ := read?_eq_some_iff.mp h
  constructor
  · rintro ⟨-, hb, hf⟩
    rcases Nat.lt_or_ge j m.source.length with hj | hj
    · rw [List.getElem?_append_left hj] at hb
      obtain ⟨front, hs, hn⟩ := source_eq_concat hm
      have hlast := hf m 0 (Nat.le_refl 0) ⟨hm, List.prefix_append _ _⟩
      rw [hs, List.length_append, List.length_singleton] at hj hlast
      have hfront : j < front.length := by omega
      rw [hs, List.getElem?_append_left hfront] at hb
      exact absurd (List.mem_of_getElem? hb) hn
    · obtain ⟨i, rfl⟩ := Nat.exists_eq_add_of_le hj
      rw [List.getElem?_append_right hj, Nat.add_sub_cancel_left] at hb
      refine ⟨i, rfl, Nat.zero_le i, hb, fun k n _ hk ↦ ?_⟩
      have := hf k (m.source.length + n) (Nat.zero_le _)
        ((standsAt_iff_of_read? h).mpr (.inr ⟨n, rfl, hk⟩))
      omega
  · rintro ⟨i, rfl, -, hb, hf⟩
    refine ⟨Nat.zero_le _, ?_, fun k n _ hk ↦ ?_⟩
    · rw [List.getElem?_append_right (Nat.le_add_right _ i), Nat.add_sub_cancel_left]
      exact hb
    · rcases (standsAt_iff_of_read? h).mp hk with ⟨rfl, rfl⟩ | ⟨l, rfl, hl⟩
      · omega
      · have := hf k l (Nat.zero_le l) hl
        omega

/-- The least place with a property is moved along with all of them. -/
theorem isLeast_add_iff {p q : Nat → Prop} {n e : Nat} (h : ∀ j, p j ↔ ∃ i, j = n + i ∧ q i) :
    IsLeast {j | p j} (n + e) ↔ IsLeast {i | q i} e := by
  constructor
  · rintro ⟨hp, hle⟩
    obtain ⟨i, hi, hq⟩ := (h _).mp hp
    rw [← Nat.add_left_cancel hi] at hq
    refine ⟨hq, fun k hk ↦ ?_⟩
    have := hle ((h (n + k)).mpr ⟨k, rfl, hk⟩)
    omega
  · rintro ⟨hq, hle⟩
    refine ⟨(h _).mpr ⟨e, rfl, hq⟩, fun k hk ↦ ?_⟩
    obtain ⟨i, rfl, hi⟩ := (h k).mp hk
    exact Nat.add_le_add_left (hle hi) n

/-! ### Bodies -/

/-- The body of an expression ends at the first free bracket. -/
theorem isLeast_of_expressionBody? {body : List Char}
    (h : expressionBody? cs = .ok (some (body, rest))) :
    IsLeast {j | IsFree cs 0 j} body.length := by
  fun_induction expressionBody? cs generalizing body rest with
  | case1 => simp at h
  | case2 r =>
    obtain ⟨rfl, rfl⟩ : [] = body ∧ r = rest := by simpa using h
    refine ⟨⟨Nat.le_refl 0, rfl, ?_⟩, fun _ _ ↦ Nat.zero_le _⟩
    rintro m i - ⟨hm, hp⟩ he
    have hlong : 1 < m.source.length := by
      simp only [source, opening, closing, List.length_append, List.length_cons]
      omega
    change 1 = _ at he
    omega
  | case3 => simp at h
  | case4 c r hc m behind hm hlt ref href ih =>
    obtain ⟨⟨inner, tail⟩, hi, he⟩ := map_found_eq_some_iff.mp h
    obtain ⟨rfl, rfl⟩ := Prod.mk.inj he
    rw [List.length_append, isLeast_add_iff fun j ↦ isFree_iff_of_read? hm]
    exact ih hi
  | case5 c r hc hm ih =>
    obtain ⟨⟨inner, tail⟩, hi, he⟩ := map_found_eq_some_iff.mp h
    obtain ⟨rfl, rfl⟩ := Prod.mk.inj he
    rw [List.length_cons, Nat.add_comm, isLeast_add_iff fun j ↦ isFree_cons_iff hc hm]
    exact ih hi

/-- An unclosed text has no free bracket. -/
theorem not_isFree_of_unclosed (h : Unclosed cs) : ¬ IsFree cs 0 j := by
  unfold Unclosed at h
  fun_induction expressionBody? cs generalizing j with
  | case1 => exact fun hf ↦ by simpa using hf.bracket
  | case2 r => simp at h
  | case3 => simp at h
  | case4 c r hc m behind hm hlt ref href ih =>
    rw [isFree_iff_of_read? hm]
    rintro ⟨i, -, hi⟩
    exact ih (map_found_eq_none_iff.mp h) hi
  | case5 c r hc hm ih =>
    rw [isFree_cons_iff hc hm]
    rintro ⟨i, -, hi⟩
    exact ih (map_found_eq_none_iff.mp h) hi

/-- Where ids can be read, a body is what stands before the first free bracket. -/
theorem expressionBody?_eq_some_iff (ha : AllReadable cs) {body : List Char} :
    expressionBody? cs = .ok (some (body, rest)) ↔
      IsLeast {j | IsFree cs 0 j} body.length ∧ cs = body ++ '>' :: rest := by
  constructor
  · intro h
    exact ⟨isLeast_of_expressionBody? h, eq_of_expressionBody? h⟩
  · rintro ⟨hl, he⟩
    obtain ⟨found, hf⟩ := exists_expressionBody?_eq_ok ha
    rcases found with _ | ⟨other, behind⟩
    · exact absurd hl.1 (not_isFree_of_unclosed hf)
    · have hlength := (isLeast_of_expressionBody? hf).unique hl
      have hsame := he.symm.trans (eq_of_expressionBody? hf)
      obtain ⟨rfl, hrest⟩ := List.append_inj hsame hlength.symm
      rw [hf, (List.cons.inj hrest).2]

/-- From a place on, a body goes up to the first free bracket. -/
theorem expressionBody?_drop_iff {b : Nat} (ha : AllReadable (cs.drop b)) {body : List Char} :
    expressionBody? (cs.drop b) = .ok (some (body, rest)) ↔
      ∃ e, IsLeast {j | IsFree cs b j} e ∧ body = (cs.drop b).take (e - b) ∧
        rest = cs.drop (e + 1) := by
  have hmove (i : Nat) : IsLeast {j | IsFree cs b j} (b + i) ↔
      IsLeast {j | IsFree (cs.drop b) 0 j} i := isLeast_add_iff fun j ↦ isFree_iff_drop
  rw [expressionBody?_eq_some_iff ha]
  constructor
  · rintro ⟨hl, he⟩
    refine ⟨b + body.length, (hmove _).mpr hl, ?_, ?_⟩
    · rw [he, Nat.add_sub_cancel_left, List.take_left' rfl]
    · rw [Nat.add_assoc, ← List.drop_drop, he, ← List.drop_drop, List.drop_left' rfl]
      rfl
  · rintro ⟨e, hl, rfl, rfl⟩
    obtain ⟨i, rfl⟩ := Nat.exists_eq_add_of_le hl.1.behind
    have hi := (hmove i).mp hl
    obtain ⟨hlt, hb⟩ := List.getElem?_eq_some_iff.mp hi.1.bracket
    rw [Nat.add_sub_cancel_left, List.length_take_of_le hlt.le]
    refine ⟨hi, ?_⟩
    rw [Nat.add_assoc, ← List.drop_drop, ← hb, ← List.drop_eq_getElem_cons, List.take_append_drop]

/-- Where ids can be read, an expression is its opening and a body that is not empty. -/
theorem Token.read?_expression_iff {kind : ExpressionKind} {body : String} :
    Token.read? cs = .ok (some (.expression kind body, rest)) ↔
      ∃ inner, cs = Token.opening kind ++ inner ∧ body.toList ≠ [] ∧
        expressionBody? inner = .ok (some (body.toList, rest)) := by
  rw [Token.read?_eq_some_iff]
  constructor
  · rintro ⟨source, rfl, h⟩
    cases h with
    | @expression _ chars hne hb =>
      rw [String.toList_ofList]
      exact ⟨chars ++ ['>'] ++ rest, List.append_assoc _ _ _, hne, expressionBody?_append hb rest⟩
  · rintro ⟨inner, rfl, hne, hb⟩
    have hr := Token.Reads.expression kind hne (expressionBody?_closed hb)
    rw [String.ofList_toList] at hr
    refine ⟨_, ?_, hr⟩
    rw [eq_of_expressionBody? hb]
    simp

/-! ### The tokens of a body -/

/-- Where no mention starts the mentions are those behind the first character. -/
theorem AreMentions.of_cons {start : Nat} {found : List (Token × Span)}
    (h : AreMentions rest (start + 1) found) (hm : read? (c :: rest) = none) :
    AreMentions (c :: rest) start found := by
  refine ⟨h.ordered, fun t s ↦ (h.mem_iff t s).trans ?_⟩
  constructor
  · rintro ⟨k, i, hk, ht, hs⟩
    exact ⟨k, 1 + i, (standsAt_cons_iff hm).mpr ⟨i, rfl, hk⟩, ht, by rw [hs, Nat.add_assoc]⟩
  · rintro ⟨k, n, hk, ht, hs⟩
    obtain ⟨i, rfl, hi⟩ := (standsAt_cons_iff hm).mp hk
    exact ⟨k, i, hi, ht, by rw [hs, Nat.add_assoc start 1 i]⟩

/-- A mention at the front comes first, and then those behind it. -/
theorem AreMentions.of_read? {start : Nat} {found : List (Token × Span)}
    (h : AreMentions rest (start + m.source.length) found) (hm : read? cs = some (m, rest)) :
    AreMentions cs start
      ((.reference m.meaning, ⟨start, start + m.source.length⟩) :: found) := by
  refine ⟨List.pairwise_cons.mpr ⟨?_, h.ordered⟩, fun t s ↦ ?_⟩
  · rintro ⟨t, s⟩ hs
    obtain ⟨k, i, -, -, rfl⟩ := (h.mem_iff t s).mp hs
    exact Nat.le_add_right _ i
  · rw [List.mem_cons, h.mem_iff, Prod.mk.injEq]
    constructor
    · rintro (⟨rfl, rfl⟩ | ⟨k, i, hk, ht, hs⟩)
      · exact ⟨m, 0, (standsAt_iff_of_read? hm).mpr (.inl ⟨rfl, rfl⟩), rfl, rfl⟩
      · refine ⟨k, m.source.length + i, ?_, ht, by rw [hs, Nat.add_assoc]⟩
        exact (standsAt_iff_of_read? hm).mpr (.inr ⟨i, rfl, hk⟩)
    · rintro ⟨k, n, hk, ht, hs⟩
      rcases (standsAt_iff_of_read? hm).mp hk with ⟨rfl, rfl⟩ | ⟨i, rfl, hi⟩
      · exact .inl ⟨ht, hs⟩
      · exact .inr ⟨k, i, hi, ht, by simp only [hs, Nat.add_assoc]⟩

/-- The tokens of an unclosed text are its mentions. -/
theorem exists_spannedFrom_of_unclosed {start : Nat} (ha : AllReadable cs) (hu : Unclosed cs) :
    ∃ found, spannedFrom start cs = .ok found ∧ AreMentions cs start found := by
  fun_induction spannedFrom start cs with
  | case1 start => exact ⟨[], rfl, .nil, by simp [not_standsAt_nil]⟩
  | case2 start rest e he =>
    -- only an id that is too long stops a scan
    rcases Token.read?_cases ha with ⟨hn, -⟩ | ⟨t, behind, ms, ht, -⟩
    · simp [hn] at he
    · simp [ht] at he
  | case3 start rest hn ih =>
    have hm := Token.mention_read?_eq_none hn
    obtain ⟨found, hf, hare⟩ := ih (ha.of_cons hm) ((unclosed_cons_iff (by decide) hm).mp hu)
    exact ⟨found, hf, hare.of_cons hm⟩
  | @case4 start rest t behind ht hlt stop ih =>
    obtain ⟨m, hm, rfl⟩ := Token.exists_mention_of_unclosed ha hu ht
    obtain ⟨hd, hb⟩ := ha.of_read? hm
    have hstop : stop = start + m.source.length := by
      have := congrArg List.length (eq_of_read? hm)
      rw [List.length_append] at this
      change start + (('<' :: rest).length - behind.length) = _
      omega
    obtain ⟨found, hf, hare⟩ := ih hb ((unclosed_iff_of_read? hm (reference_eq hd)).mp hu)
    rw [hstop] at hf hare
    exact ⟨_, by rw [hstop, hf]; rfl, hare.of_read? hm⟩
  | case5 start c rest hc ih =>
    have hm := read?_of_ne hc rest
    obtain ⟨found, hf, hare⟩ := ih (ha.of_cons hm) ((unclosed_cons_iff hu.ne_of_cons hm).mp hu)
    exact ⟨found, hf, hare.of_cons hm⟩

end

/-! ### Main statement -/

/-- An expression is read at a place of a text exactly when its opening stands there and the first
free bracket behind it does not follow at once; it goes up to that bracket, and the tokens of what
stands before it are the mentions that stand there. -/
theorem expression_at_iff {text : String} (h : ReadableIds text) (p : Nat)
    (kind : ExpressionKind) (body : String) (rest : List Char) :
    (Token.read? (text.toList.drop p) = .ok (some (.expression kind body, rest)) ↔
      ∃ e, Token.opening kind <+: text.toList.drop p ∧
        IsLeast {j | IsFree text.toList (p + (Token.opening kind).length) j} e ∧
        p + (Token.opening kind).length < e ∧
        body = Span.slice ⟨p + (Token.opening kind).length, e⟩ text ∧
        rest = text.toList.drop (e + 1)) ∧
      (Token.read? (text.toList.drop p) = .ok (some (.expression kind body, rest)) →
        ∃ found, spannedTokens body = .ok found ∧ AreMentions body.toList 0 found) := by
  have ha : AllReadable (text.toList.drop (p + (Token.opening kind).length)) :=
    AllReadable.of_infix (allReadable_of_readableIds h) (List.drop_suffix _ _).isInfix
  have behind {inner : List Char} (hi : text.toList.drop p = Token.opening kind ++ inner) :
      inner = text.toList.drop (p + (Token.opening kind).length) := by
    rw [← List.drop_drop, hi, List.drop_left' rfl]
  rw [Token.read?_expression_iff]
  constructor
  · constructor
    · rintro ⟨inner, hi, hne, hb⟩
      obtain rfl := behind hi
      obtain ⟨e, hl, he, hrest⟩ := (expressionBody?_drop_iff ha).mp hb
      refine ⟨e, ⟨_, hi.symm⟩, hl, lt_of_le_of_ne hl.1.behind ?_, ?_, hrest⟩
      · rintro rfl
        exact hne (by rw [he, Nat.sub_self, List.take_zero])
      · rw [Span.slice, ← he, String.ofList_toList]
    · rintro ⟨e, ⟨inner, hi⟩, hl, hlt, rfl, rfl⟩
      obtain rfl := behind hi.symm
      refine ⟨_, hi.symm, ?_, ?_⟩ <;> rw [Span.slice, String.toList_ofList]
      · obtain ⟨hin, -⟩ := List.getElem?_eq_some_iff.mp hl.1.bracket
        apply List.ne_nil_of_length_pos
        simp only [List.length_take, List.length_drop]
        omega
      · exact (expressionBody?_drop_iff ha).mpr ⟨e, hl, rfl, rfl⟩
  · rintro ⟨inner, -, -, hb⟩
    exact exists_spannedFrom_of_unclosed (allReadable_of_expressionBody? hb)
      (unclosed_of_expressionBody? hb)

/-- The bracket behind the nested reference is free, and so is the last one; the opening of the
nested expression hides neither. -/
theorem expression_at_iff_nested :
    ReadableIds "1 <math:<dice:<stat:1:value>> 2>" ∧
      (∃ e, Token.opening .math <+: "1 <math:<dice:<stat:1:value>> 2>".toList.drop 2 ∧
        IsLeast {j | IsFree "1 <math:<dice:<stat:1:value>> 2>".toList 8 j} e ∧ 8 < e ∧
        "<dice:<stat:1:value>" = Span.slice ⟨8, e⟩ "1 <math:<dice:<stat:1:value>> 2>" ∧
        " 2>".toList = "1 <math:<dice:<stat:1:value>> 2>".toList.drop (e + 1)) ∧
      ∃ found, spannedTokens "<dice:<stat:1:value>" = .ok found ∧
        AreMentions "<dice:<stat:1:value>".toList 0 found := by
  have h : ReadableIds "1 <math:<dice:<stat:1:value>> 2>" := readableIds_of_length_le (by decide)
  have hr : Token.read? ("1 <math:<dice:<stat:1:value>> 2>".toList.drop 2) =
      .ok (some (.expression .math "<dice:<stat:1:value>", " 2>".toList)) := by decide +kernel
  obtain ⟨hiff, htokens⟩ := expression_at_iff h 2 .math "<dice:<stat:1:value>" " 2>".toList
  exact ⟨h, hiff.mp hr, htokens hr⟩

end CharacterSheet
