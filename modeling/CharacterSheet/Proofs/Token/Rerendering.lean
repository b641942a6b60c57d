import CharacterSheet.Proofs.Token.Coverage
import CharacterSheet.Proofs.Token.Segments

/-!
# Texts written again

A token that was read can be written again. An expression is written as it was; a reference is
written with the ASCII digits of its id, without leading noughts. What another spelling of an id
changes stands between the bracket that opens a reference and the one that closes it, so that an
opening before it is closed, or stays open, just as before. Main statement: a text in which every
token is written again has the same literal runs and the same tokens, and is written again as
itself.
-/

namespace CharacterSheet

open Mention

/-- A segment as it stands where its token is written again. -/
def Segment.rendered : Segment → Segment
  | .literal run => .literal run
  | .token t _ => .token t t.render

/-- A text in which every token is written again. -/
def rerender (text : String) : Except NumeralError String :=
  (segments text).map fun segs ↦ String.join (segs.map fun s ↦ s.rendered.source)

/-- What a text in which the tokens of another one are written again has to be. -/
structure Rerenders (text again : String) (segs : List Segment) : Prop where
  /-- The new text is cut into the same literal runs and tokens. -/
  segments_again : segments again = .ok (segs.map Segment.rendered)
  /-- The tokens of the old text stand where its segments do. -/
  scanned : spannedTokens text = .ok ((withSpans 0 segs).filterMap spanned?)
  /-- In the new text every token is moved by what changed before it. -/
  scanned_again :
    spannedTokens again = .ok ((withSpans 0 (segs.map Segment.rendered)).filterMap spanned?)
  /-- An expression is written as it stands in the old text. -/
  expression_slice : ∀ kind body span,
    (.expression kind body, span) ∈ (withSpans 0 segs).filterMap spanned? →
      (Token.expression kind body).render = span.slice text
  /-- Written once more, the new text stays what it is. -/
  rerender_again : rerender again = .ok again

/-! ### Tokens written again -/

/-- The mention that a reference is written as. -/
def Reference.mention (r : Reference) : Mention := ⟨r.subject, Nat.toDigits 10 r.id, r.property⟩

theorem Reference.toList_render (r : Reference) : r.render.toList = r.mention.source := by
  have hid : (toString r.id).toList = Nat.toDigits 10 r.id := Nat.toList_repr
  simp only [render, String.toList_append, hid, mention, source, opening, closing]
  simp

theorem Reference.isProper_mention (r : Reference) : r.mention.IsProper :=
  ⟨Nat.toDigits_ne_nil, fun _ hc ↦ Text.isDecimalDigit_of_mem_toDigits hc⟩

/-- A reference that was read is read from what it is written as. -/
theorem Mention.reference_mention {m : Mention} {r : Reference} (h : m.reference = .ok r) :
    r.mention.reference = .ok r := by
  have hl := length_le_of_reference h
  obtain rfl : m.meaning = r := Except.ok.inj ((reference_eq hl).symm.trans h)
  have hw : Text.digitsValue m.digits < 10 ^ maxDigits :=
    Nat.lt_of_lt_of_le (Numeral.digitsValue_lt m.digits) (Nat.pow_le_pow_right (by decide) hl)
  have hd : m.meaning.mention.digits.length ≤ maxDigits :=
    (Nat.length_toDigits_le_iff (by decide) (by decide)).mpr hw
  rw [reference_eq hd, meaning, Reference.mention, Text.digitsValue_toDigits]

/-- An expression is written with its body between its opening and a closing bracket. -/
theorem Token.toList_render_expression (kind : ExpressionKind) (body : List Char) :
    (Token.expression kind (String.ofList body)).render.toList =
      opening kind ++ (body ++ ['>']) := by
  simp only [render, String.toList_append, String.toList_ofList, opening]
  simp

/-- The written form of a token is read as the token. -/
theorem Token.Reads.render {source : List Char} {t : Token} (h : Reads source t) :
    Reads t.render.toList t := by
  cases h with
  | @reference m r hm hr =>
    rw [Token.render, r.toList_render]
    exact .reference r.isProper_mention (reference_mention hr)
  | expression kind hne hb =>
    rw [Token.toList_render_expression]
    exact .expression kind hne hb

/-- An expression is written as it was read. -/
theorem Token.Reads.render_expression {source : List Char} {kind : ExpressionKind} {body : String}
    (h : Reads source (.expression kind body)) :
    (Token.expression kind body).render = String.ofList source := by
  cases h with
  | expression kind hne hb =>
    rw [← Token.toList_render_expression, String.ofList_toList]

/-! ### Other spellings of ids -/

/-- Two texts differ in nothing but the spelling of references. -/
inductive Respelled : List Char → List Char → Prop where
  | nil : Respelled [] []
  | cons (c : Char) {cs ds : List Char} (h : Respelled cs ds) : Respelled (c :: cs) (c :: ds)
  | mention {m m' : Mention} (hm : m.IsProper) (hm' : m'.IsProper)
      (hr : m.reference = m'.reference) {cs ds : List Char} (h : Respelled cs ds) :
      Respelled (m.source ++ cs) (m'.source ++ ds)

namespace Respelled

theorem symm {cs ds : List Char} (h : Respelled cs ds) : Respelled ds cs := by
  induction h with
  | nil => exact .nil
  | cons c h ih => exact .cons c ih
  | mention hm hm' hr h ih => exact .mention hm' hm hr.symm ih

/-- Behind the same characters texts stay other spellings of one another. -/
theorem append_left (front : List Char) {cs ds : List Char} (h : Respelled cs ds) :
    Respelled (front ++ cs) (front ++ ds) := by
  induction front with
  | nil => exact h
  | cons c front ih => exact .cons c ih

/-- Characters in front that open no bracket are spelled as they are. -/
theorem exists_of_notMem {front cs ds : List Char} (hf : '<' ∉ front)
    (h : Respelled (front ++ cs) ds) : ∃ ds', ds = front ++ ds' ∧ Respelled cs ds' := by
  induction front generalizing ds with
  | nil => exact ⟨ds, rfl, h⟩
  | cons c front ih =>
    rw [List.cons_append] at h
    generalize hcs : c :: (front ++ cs) = all at h
    cases h with
    | nil => simp at hcs
    | cons d h =>
      obtain ⟨rfl, rfl⟩ := List.cons.inj hcs
      obtain ⟨ds', rfl, h'⟩ := ih (List.not_mem_of_not_mem_cons hf) h
      exact ⟨ds', rfl, h'⟩
    | mention hm hm' hr h =>
      rw [source, opening, List.cons_append, List.cons_append] at hcs
      exact absurd (List.cons.inj hcs).1 (List.ne_of_not_mem_cons hf).symm

/-- Where a mention stands at the front of a text, its reference stands at the front of the other
one. -/
theorem exists_of_read? {cs ds rest : List Char} {m : Mention} (h : Respelled cs ds)
    (hm : read? cs = some (m, rest)) :
    ∃ m' rest', read? ds = some (m', rest') ∧ m.reference = m'.reference ∧
      Respelled rest rest' := by
  cases h with
  | nil => simp [read?, readOpening?, Text.after?, opening] at hm
  | cons c h =>
    obtain ⟨hp, he⟩ := read?_eq_some_iff.mp hm
    -- the first characters agree, and the later ones of the mention open no bracket
    obtain ⟨tail, ht⟩ : ∃ tail, m.source = '<' :: tail := ⟨_, rfl⟩
    have hn : '<' ∉ tail := by simpa [ht] using notMem_tail_source hp
    rw [ht, List.cons_append, List.cons.injEq] at he
    obtain ⟨rfl, rfl⟩ := he
    obtain ⟨rest', rfl, hr⟩ := exists_of_notMem hn h
    refine ⟨m, rest', ?_, rfl, hr⟩
    rw [← List.cons_append, ← ht]
    exact read?_source hp rest'
  | @mention n n' hp hp' hr cs ds h =>
    rw [read?_source hp] at hm
    obtain ⟨rfl, rfl⟩ := Prod.mk.inj (Option.some.inj hm)
    exact ⟨n', ds, read?_source hp' ds, hr, h⟩

/-- Where no mention stands at the front of a text, none stands at the front of the other one. -/
theorem read?_eq_none {cs ds : List Char} (h : Respelled cs ds) (hn : read? cs = none) :
    read? ds = none := by
  cases hd : read? ds with
  | none => rfl
  | some found =>
    obtain ⟨m', rest', hf, -, -⟩ := h.symm.exists_of_read? hd
    rw [hn] at hf
    contradiction

/-- A character at which no mention starts is spelled as it is. -/
theorem exists_of_cons {c : Char} {cs ds : List Char} (h : Respelled (c :: cs) ds)
    (hn : read? (c :: cs) = none) : ∃ ds', ds = c :: ds' ∧ Respelled cs ds' := by
  generalize hcs : c :: cs = all at h hn
  cases h with
  | nil => simp at hcs
  | cons d h =>
    obtain ⟨rfl, rfl⟩ := List.cons.inj hcs
    exact ⟨_, rfl, h⟩
  | mention hm hm' hr h =>
    rw [read?_source hm] at hn
    contradiction

/-- An opening that is not closed in a text is not closed in the other one. -/
theorem unclosed {cs ds : List Char} (h : Respelled cs ds) (hu : Unclosed cs) : Unclosed ds := by
  unfold Unclosed at hu
  fun_induction expressionBody? cs generalizing ds with
  | case1 =>
    generalize hcs : ([] : List Char) = all at h
    cases h with
    | nil => rw [Unclosed, expressionBody?]
    | cons => contradiction
    | mention => simp [source, opening] at hcs
  | case2 r => simp at hu
  | case3 => simp at hu
  | case4 c r hc m behind hm hlt ref href ih =>
    obtain ⟨m', rest', hm', hr, hrest⟩ := h.exists_of_read? hm
    rw [href] at hr
    exact (unclosed_iff_of_read? hm' hr.symm).mpr (ih hrest (map_found_eq_none_iff.mp hu))
  | case5 c r hc hm ih =>
    have hn := h.read?_eq_none hm
    obtain ⟨ds', rfl, hrest⟩ := h.exists_of_cons hm
    exact (unclosed_cons_iff hc hn).mpr (ih hrest (map_found_eq_none_iff.mp hu))

/-- The words that open an expression are spelled as they are. -/
theorem exists_of_opening {kind : ExpressionKind} {inner ds : List Char}
    (h : Respelled (Token.opening kind ++ inner) ds) :
    ∃ inner', ds = Token.opening kind ++ inner' ∧ Respelled inner inner' := by
  have hn := read?_opening kind inner
  obtain ⟨word, hw, ho, -⟩ := Token.opening_eq kind
  rw [hw, List.cons_append] at h hn
  obtain ⟨ds', rfl, h'⟩ := h.exists_of_cons hn
  obtain ⟨inner', rfl, hi⟩ := exists_of_notMem ho h'
  exact ⟨inner', by rw [hw, List.cons_append], hi⟩

end Respelled

/-- An opening starts no token when nothing closes it or nothing stands before its closing
bracket. -/
theorem Token.read?_opening_eq_none_iff {kind : ExpressionKind} {inner : List Char} :
    read? (opening kind ++ inner) = .ok none ↔ Unclosed inner ∨ ∃ rest, inner = '>' :: rest := by
  rw [read?, read?_opening]
  simp only [readExpression?, readOpening?_opening]
  constructor
  · intro h
    rcases hb : expressionBody? inner with e | _ | ⟨body, rest⟩
    · simp [hb, Except.map] at h
    · exact .inl hb
    · have he : body = [] := by
        by_contra hne
        simp [hb, Except.map, hne] at h
      exact .inr ⟨rest, by rw [eq_of_expressionBody? hb, he, List.nil_append]⟩
  · rintro (hu | ⟨rest, rfl⟩)
    · rw [hu]
      rfl
    · rw [expressionBody?]
      rfl

/-- Where no token starts in a text, none starts in another spelling of it. -/
theorem Respelled.token_read?_eq_none {cs ds : List Char} (h : Respelled cs ds)
    (hn : Token.read? cs = .ok none) : Token.read? ds = .ok none := by
  have hm := h.read?_eq_none (Token.mention_read?_eq_none hn)
  cases ho : Token.readOpening? ds with
  | none =>
    rw [Token.read?, hm]
    simp only [Token.readExpression?, ho]
  | some found =>
    obtain ⟨kind, inner'⟩ := found
    obtain rfl := Token.eq_of_readOpening? ho
    obtain ⟨inner, rfl, hi⟩ := h.symm.exists_of_opening
    apply Token.read?_opening_eq_none_iff.mpr
    rcases Token.read?_opening_eq_none_iff.mp hn with hu | ⟨rest, rfl⟩
    · exact .inl (hi.symm.unclosed hu)
    · obtain ⟨rest', rfl, -⟩ := hi.symm.exists_of_cons (read?_of_ne (by decide) rest)
      exact .inr ⟨rest', rfl⟩

/-- A run holds no token when the ids behind it are spelled in another way. -/
theorem Barren.respelled {run rest rest' : List Char} (hb : Barren run rest)
    (h : Respelled rest rest') : Barren run rest' :=
  fun back hne hs ↦ (h.append_left back).token_read?_eq_none (hb back hne hs)

/-! ### Cut texts -/

theorem StartsWithToken.rendered {segs : List Segment} (h : StartsWithToken segs) :
    StartsWithToken (segs.map Segment.rendered) := by
  cases segs with
  | nil => exact h
  | cons s segs =>
    cases s with
    | literal run => exact absurd (h _ rfl) (by simp [Segment.token?])
    | token t source => simp [StartsWithToken, Segment.rendered, Segment.token?]

namespace Cut
variable {cs : List Char} {segs : List Segment}

/-- Where every token is written again, a text is spelled in another way. -/
theorem respelled (h : Cut cs segs) :
    Respelled cs ((segs.map Segment.rendered).flatMap (·.source.toList)) := by
  induction h with
  | nil => exact .nil
  | @literal run rest segs hne hb hs hr ih =>
    rw [List.map_cons, List.flatMap_cons, Segment.rendered, Segment.source, String.toList_ofList]
    exact ih.append_left run
  | @token source rest t segs ht hr ih =>
    rw [List.map_cons, List.flatMap_cons, Segment.rendered, Segment.source]
    cases ht with
    | @reference m r hm hr =>
      rw [Token.render, r.toList_render]
      exact .mention hm r.isProper_mention (hr.trans (reference_mention hr).symm) ih
    | expression kind hne hb =>
      rw [Token.toList_render_expression]
      exact ih.append_left _

/-- A text in which every token is written again is cut into the same runs and tokens. -/
theorem rendered (h : Cut cs segs) :
    Cut ((segs.map Segment.rendered).flatMap (·.source.toList)) (segs.map Segment.rendered) := by
  induction h with
  | nil => exact .nil
  | @literal run rest segs hne hb hs hr ih =>
    rw [List.map_cons, List.flatMap_cons, Segment.rendered, Segment.source, String.toList_ofList]
    exact .literal hne (hb.respelled hr.respelled) hs.rendered ih
  | @token source rest t segs ht hr ih =>
    have hc := Cut.token ht.render ih
    rw [String.ofList_toList] at hc
    exact hc

end Cut

theorem Segment.rendered_rendered (s : Segment) : s.rendered.rendered = s.rendered := by
  cases s <;> rfl

section
variable {text : String} {segs : List Segment}

/-- The segments of a text are those that it is cut into. -/
theorem segments_of_cut (h : Cut text.toList segs) : segments text = .ok segs := by
  rw [segments, scan, h.fromRun_eq]
  rfl

/-- A text that is cut is written again segment by segment. -/
theorem rerender_of_cut (h : Cut text.toList segs) :
    rerender text = .ok (String.join (segs.map fun s ↦ s.rendered.source)) := by
  rw [rerender, segments_of_cut h]
  rfl

/-- An expression of a cut text is written as it stands in its span. -/
theorem Cut.expression_slice (h : Cut text.toList segs) {kind : ExpressionKind} {body : String}
    {span : Span} (hm : (.expression kind body, span) ∈ (withSpans 0 segs).filterMap spanned?) :
    (Token.expression kind body).render = span.slice text := by
  obtain ⟨p, hp, hs⟩ := List.mem_filterMap.mp hm
  obtain ⟨before, after, he, -⟩ := exists_of_mem_withSpans hp
  have hslice := h.slice_eq hp
  have hmem : p.1 ∈ segs := by rw [he]; simp
  obtain ⟨s, where'⟩ := p
  cases s with
  | literal run => simp [spanned?, Segment.token?] at hs
  | token t source =>
    obtain ⟨rfl, rfl⟩ : t = .expression kind body ∧ where' = span := by
      simpa [spanned?, Segment.token?] using hs
    rw [hslice, (h.reads_of_mem hmem).render_expression, String.ofList_toList, Segment.source]

end

/-! ### Main statement -/

/-- Where every token of a text is written again, the literal runs and the tokens stay what they
are, expressions are written as they stood, and the new text is written again as itself. -/
theorem rerender_lossless {text : String} (h : ReadableIds text) :
    ∃ segs again, segments text = .ok segs ∧ rerender text = .ok again ∧
      Rerenders text again segs := by
  have hc := (cut_scan h).2
  generalize (scan text).segments = segs at hc
  let again := String.join (segs.map fun s ↦ s.rendered.source)
  have hagain : Cut again.toList (segs.map Segment.rendered) := by
    have ht : again.toList = (segs.map Segment.rendered).flatMap (·.source.toList) := by
      rw [String.toList_join, List.flatMap_map, List.flatMap_map]
    rw [ht]
    exact hc.rendered
  refine ⟨segs, again, segments_of_cut hc, rerender_of_cut hc, ?_⟩
  exact {
    segments_again := segments_of_cut hagain
    scanned := hc.spannedFrom_eq 0
    scanned_again := hagain.spannedFrom_eq 0
    expression_slice := fun kind body span hm ↦ hc.expression_slice hm
    rerender_again := by
      rw [rerender_of_cut hagain, List.map_map]
      congr 3
      funext s
      exact congrArg Segment.source s.rendered_rendered }

/-- The first expression is written as it stands; the opening behind it stays empty and the last one
stays open, though the references behind them are written with other digits. -/
theorem rerender_lossless_digits :
    ReadableIds "<dice:<stat:٣:value>d6> <math:> <math: <stat:007:name> <section:٣:emoji>" ∧
      (∃ segs again,
        segments "<dice:<stat:٣:value>d6> <math:> <math: <stat:007:name> <section:٣:emoji>" =
          .ok segs ∧
        rerender "<dice:<stat:٣:value>d6> <math:> <math: <stat:007:name> <section:٣:emoji>" =
          .ok again ∧
        Rerenders "<dice:<stat:٣:value>d6> <math:> <math: <stat:007:name> <section:٣:emoji>" again
          segs) ∧
      rerender "<dice:<stat:٣:value>d6> <math:> <math: <stat:007:name> <section:٣:emoji>" =
        .ok "<dice:<stat:٣:value>d6> <math:> <math: <stat:7:name> <section:3:emoji>" := by
  have h : ReadableIds
      "<dice:<stat:٣:value>d6> <math:> <math: <stat:007:name> <section:٣:emoji>" :=
    readableIds_of_length_le (by decide)
  exact ⟨h, rerender_lossless h, by decide +kernel⟩

end CharacterSheet
