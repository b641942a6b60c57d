import CharacterSheet.Proofs.Token.Contexts
import Mathlib.Data.List.Chain

/-!
# The segments of a text

A scan leaves literal runs between its tokens. A run is literal because no token starts at any
of its characters, with the whole rest of the text behind it; taken out of the text, it starts
none either. Main statement: the segments of a text divide it, and each of them is read alone
as it is read in the text.
-/

namespace CharacterSheet

open Mention

/-- No token starts in `run` when `rest` stands behind it. -/
def Barren (run rest : List Char) : Prop :=
  ∀ back, back ≠ [] → back <:+ run → Token.read? (back ++ rest) = .ok none

/-- The token of a segment, with the span that goes with it. -/
def spanned? (p : Segment × Span) : Option (Token × Span) := p.1.token?.map (·, p.2)

/-- What the segments of a text have to be. -/
structure Divides (text : String) (segs : List Segment) : Prop where
  /-- The segments make up the text. -/
  join : String.join (segs.map Segment.source) = text
  /-- A segment stands in its span. -/
  slice : ∀ p ∈ withSpans 0 segs, p.2.slice text = p.1.source
  /-- No segment is empty. -/
  nonempty : ∀ s ∈ segs, s.source ≠ ""
  /-- One of two adjacent segments is a token. -/
  separated : segs.IsChain fun a b ↦ a.token?.isSome ∨ b.token?.isSome
  /-- The tokens among the segments are those that a scan comes upon, at the same places. -/
  scanned : spannedTokens text = .ok ((withSpans 0 segs).filterMap spanned?)
  /-- A span ends behind its start. -/
  proper : ∀ p ∈ withSpans 0 segs, p.2.start < p.2.stop
  /-- A span ends before the next one starts. -/
  ordered : (withSpans 0 segs).Pairwise fun p q ↦ p.2.stop ≤ q.2.start
  /-- A token is all that its characters are read as. -/
  token_alone : ∀ t source, .token t source ∈ segs →
    spannedTokens source = .ok [(t, ⟨0, source.length⟩)]
  /-- A literal run holds no token. -/
  literal_alone : ∀ run, .literal run ∈ segs → spannedTokens run = .ok []
  /-- Nowhere in a literal run of the text a token starts. -/
  no_token : ∀ run span, (.literal run, span) ∈ withSpans 0 segs →
    ∀ i, span.start ≤ i → i < span.stop → Token.read? (text.toList.drop i) = .ok none

/-! ### Runs without tokens -/

theorem barren_nil (rest : List Char) : Barren [] rest := by
  intro back hne hs
  exact absurd (List.suffix_nil.mp hs) hne

/-- A run goes on with a character at which no token starts. -/
theorem Barren.concat {run rest : List Char} {c : Char} (hb : Barren run (c :: rest))
    (hc : Token.read? (c :: rest) = .ok none) : Barren (run ++ [c]) rest := by
  intro back hne hs
  rcases List.suffix_concat_iff.mp hs with rfl | ⟨front, rfl, hf⟩
  · contradiction
  · rw [List.append_assoc, List.singleton_append]
    by_cases hn : front = []
    · rw [hn, List.nil_append]
      exact hc
    · exact hb front hn hf

/-- Behind its first character a run without tokens still has none. -/
theorem Barren.of_cons {c : Char} {run rest : List Char} (hb : Barren (c :: run) rest) :
    Barren run rest := fun back hne hs ↦ hb back hne (hs.trans (List.suffix_cons c run))

/-- The ids in a part of a text are readable when those of the text are. -/
theorem Mention.AllReadable.of_infix {part cs : List Char} (ha : AllReadable cs)
    (hi : part <:+: cs) : AllReadable part := by
  intro m hm
  obtain ⟨hp, ho⟩ := mem_readAll_iff.mp hm
  exact ha m (mem_readAll_iff.mpr ⟨hp, ho.trans hi⟩)

/-- What starts no token starts none when the text is cut off behind it. -/
theorem Token.read?_eq_none_of_append {cs more : List Char} (ha : AllReadable cs)
    (h : Token.read? (cs ++ more) = .ok none) : Token.read? cs = .ok none := by
  rcases Token.read?_cases ha with ⟨hn, -⟩ | ⟨t, rest, ms, ht, -⟩
  · exact hn
  · obtain ⟨source, rfl, hr⟩ := Token.exists_reads ht
    rw [List.append_assoc, hr.read?_append] at h
    simp at h

/-- A run without tokens has none when it stands alone. -/
theorem Barren.alone {run rest : List Char} (hb : Barren run rest) (ha : AllReadable run) :
    Barren run [] := by
  intro back hne hs
  rw [List.append_nil]
  exact Token.read?_eq_none_of_append (ha.of_infix hs.isInfix) (hb back hne hs)

/-! ### Scanning by position -/

/-- A scan passes over a character at which no token starts. -/
theorem spannedFrom_cons {c : Char} {rest : List Char} (h : Token.read? (c :: rest) = .ok none)
    (start : Nat) : spannedFrom start (c :: rest) = spannedFrom (start + 1) rest := by
  rw [spannedFrom]
  split
  · split
    · next he => simp [h] at he
    · rfl
    · next ht => simp [h] at ht
  · rfl

/-- A scan passes over a run without tokens. -/
theorem spannedFrom_of_barren {run rest : List Char} (hb : Barren run rest) (start : Nat) :
    spannedFrom start (run ++ rest) = spannedFrom (start + run.length) rest := by
  induction run generalizing start with
  | nil => rfl
  | cons c run ih =>
    have hc : Token.read? (c :: (run ++ rest)) = .ok none :=
      hb (c :: run) (List.cons_ne_nil c run) (List.suffix_refl _)
    rw [List.cons_append, spannedFrom_cons hc, ih hb.of_cons, List.length_cons]
    congr 1
    omega

/-- The first character of a token opens a bracket. -/
theorem Token.Reads.exists_eq_cons {source : List Char} {t : Token} (h : Reads source t) :
    ∃ tail, source = '<' :: tail := by
  cases h with
  | reference => exact ⟨_, rfl⟩
  | expression => exact ⟨_, rfl⟩

/-- A scan takes a token and goes on behind it. -/
theorem spannedFrom_of_reads {source : List Char} {t : Token} (h : Token.Reads source t)
    (rest : List Char) (start : Nat) :
    spannedFrom start (source ++ rest) =
      (spannedFrom (start + source.length) rest).map
        ((t, ⟨start, start + source.length⟩) :: ·) := by
  have hr := h.read?_append rest
  obtain ⟨tail, rfl⟩ := h.exists_eq_cons
  have hl : ('<' :: (tail ++ rest)).length - rest.length = ('<' :: tail).length := by
    simp only [List.length_cons, List.length_append]
    omega
  rw [List.cons_append] at hr ⊢
  rw [spannedFrom, if_pos rfl]
  split
  · next he => simp [he] at hr
  · next hn => simp [hn] at hr
  · next u behind hu =>
    rw [hr] at hu
    obtain ⟨rfl, rfl⟩ : t = u ∧ rest = behind := by simpa using hu
    simp only [hl]

/-! ### Cutting a text -/

/-- Segments that start with a token or are at their end. -/
def StartsWithToken (segs : List Segment) : Prop := ∀ s ∈ segs.head?, s.token?.isSome

/-- A text is cut into tokens and runs between them in which no token starts. -/
inductive Cut : List Char → List Segment → Prop where
  | nil : Cut [] []
  | literal {run rest : List Char} {segs : List Segment} (hne : run ≠ [])
      (hb : Barren run rest) (hs : StartsWithToken segs) (hr : Cut rest segs) :
      Cut (run ++ rest) (.literal (String.ofList run) :: segs)
  | token {source rest : List Char} {t : Token} {segs : List Segment}
      (ht : Token.Reads source t) (hr : Cut rest segs) :
      Cut (source ++ rest) (.token t (String.ofList source) :: segs)

/-- A scan that ended behind a run goes on with the run in front. -/
theorem Cut.afterLiteral {run rest : List Char} {found : Scan} (hb : Barren run.reverse rest)
    (hs : StartsWithToken found.segments) (hr : Cut rest found.segments) :
    Cut (run.reverse ++ rest) (found.afterLiteral run).segments := by
  unfold Scan.afterLiteral
  split
  · next he =>
    rw [List.isEmpty_iff.mp he]
    exact hr
  · next he =>
    have hne : run.reverse ≠ [] := by simpa using he
    exact .literal hne hb hs hr

/-- A scan cuts its text. -/
theorem cut_fromRun {run cs : List Char} (ha : AllReadable cs) (hb : Barren run.reverse cs) :
    Cut (run.reverse ++ cs) (Scan.fromRun run cs).segments := by
  fun_induction Scan.fromRun run cs with
  | case1 run => exact .afterLiteral hb (by simp [StartsWithToken]) .nil
  | case2 run rest e he =>
    -- only an id that is too long stops a scan
    rcases Token.read?_cases ha with ⟨hn, -⟩ | ⟨t, behind, ms, ht, -⟩
    · simp [hn] at he
    · simp [ht] at he
  | case3 run rest hn ih =>
    have := ih (ha.of_infix (List.suffix_cons _ rest).isInfix) (by
      rw [List.reverse_cons]
      exact hb.concat hn)
    simpa using this
  | case4 run rest t behind ht hlt taken ih =>
    obtain ⟨source, hs, hr⟩ := Token.exists_reads ht
    have hk : taken = source := by
      change List.take _ _ = _
      rw [hs, List.length_append, Nat.add_sub_cancel, List.take_left']
      rfl
    have hi : behind <:+: '<' :: rest := hs ▸ (List.suffix_append source behind).isInfix
    have hc := ih (ha.of_infix hi) (barren_nil behind)
    rw [List.reverse_nil, List.nil_append] at hc
    refine .afterLiteral hb (by simp [StartsWithToken, Scan.cons, Segment.token?]) ?_
    rw [hk, hs]
    exact .token hr hc
  | case5 run c rest hc ih =>
    have := ih (ha.of_infix (List.suffix_cons c rest).isInfix) (by
      rw [List.reverse_cons]
      exact hb.concat (Token.read?_of_ne hc rest))
    simpa using this

/-- A cut text is cut behind any of its segments. -/
theorem Cut.of_append {cs : List Char} {before after : List Segment}
    (h : Cut cs (before ++ after)) :
    ∃ rest, cs = before.flatMap (·.source.toList) ++ rest ∧ Cut rest after := by
  induction before generalizing cs with
  | nil => exact ⟨cs, rfl, h⟩
  | cons s before ih =>
    rw [List.cons_append] at h
    rw [List.flatMap_cons]
    cases h with
    | @literal run rest _ hne hb hs hr =>
      obtain ⟨back, rfl, hc⟩ := ih hr
      refine ⟨back, ?_, hc⟩
      rw [Segment.source, String.toList_ofList, List.append_assoc]
    | @token source rest t _ ht hr =>
      obtain ⟨back, rfl, hc⟩ := ih hr
      refine ⟨back, ?_, hc⟩
      rw [Segment.source, String.toList_ofList, List.append_assoc]

/-- The first segment stands at the front. -/
theorem Cut.exists_eq_append {cs : List Char} {s : Segment} {segs : List Segment}
    (h : Cut cs (s :: segs)) : ∃ rest, cs = s.source.toList ++ rest := by
  cases h with
  | @literal run rest => exact ⟨rest, by rw [Segment.source, String.toList_ofList]⟩
  | @token source rest => exact ⟨rest, by rw [Segment.source, String.toList_ofList]⟩

/-- The segments of a cut text make it up. -/
theorem Cut.flatMap_source {cs : List Char} {segs : List Segment} (h : Cut cs segs) :
    segs.flatMap (·.source.toList) = cs := by
  induction h with
  | nil => rfl
  | literal hne hb hs hr ih => rw [List.flatMap_cons, ih, Segment.source, String.toList_ofList]
  | token ht hr ih => rw [List.flatMap_cons, ih, Segment.source, String.toList_ofList]

/-- No segment of a cut text is empty. -/
theorem Cut.source_ne {cs : List Char} {segs : List Segment} (h : Cut cs segs) :
    ∀ s ∈ segs, s.source ≠ "" := by
  induction h with
  | nil => simp
  | literal hne hb hs hr ih => exact List.forall_mem_cons.mpr ⟨by simpa [Segment.source], ih⟩
  | token ht hr ih =>
    exact List.forall_mem_cons.mpr ⟨by simpa [Segment.source] using ht.ne_nil, ih⟩

/-- No two literal runs of a cut text are adjacent. -/
theorem Cut.isChain {cs : List Char} {segs : List Segment} (h : Cut cs segs) :
    segs.IsChain fun a b ↦ a.token?.isSome ∨ b.token?.isSome := by
  induction h with
  | nil => exact .nil
  | literal hne hb hs hr ih => exact ih.cons fun s hm ↦ .inr (hs s hm)
  | token ht hr ih => exact ih.cons fun s hm ↦ .inl rfl

/-- A scan comes upon the tokens of a cut text in their spans. -/
theorem Cut.spannedFrom_eq {cs : List Char} {segs : List Segment} (h : Cut cs segs)
    (start : Nat) : spannedFrom start cs = .ok ((withSpans start segs).filterMap spanned?) := by
  induction h generalizing start with
  | nil => rw [spannedFrom]; rfl
  | @literal run rest segs hne hb hs hr ih =>
    rw [spannedFrom_of_barren hb, ih, withSpans, List.filterMap_cons_none rfl, Segment.source,
      String.length_ofList]
  | @token source rest t segs ht hr ih =>
    have hl : (Segment.token t (String.ofList source)).source.length = source.length :=
      String.length_ofList
    rw [spannedFrom_of_reads ht, ih, withSpans, hl]
    rfl

/-! ### Scanning a cut text -/

/-- An empty run is left out of a scan. -/
theorem Scan.afterLiteral_nil (found : Scan) : afterLiteral [] found = found := rfl

/-- A run of characters is a segment in front of a scan. -/
theorem Scan.afterLiteral_reverse {run : List Char} (hne : run ≠ []) (found : Scan) :
    afterLiteral run.reverse found = found.cons (.literal (String.ofList run)) := by
  have he : run.reverse.isEmpty = false := by simpa using hne
  rw [afterLiteral, he, List.reverse_reverse]
  rfl

/-- A scan adds a run without tokens to the run that it is in. -/
theorem Scan.fromRun_of_barren {more rest : List Char} (hb : Barren more rest) (run : List Char) :
    fromRun run (more ++ rest) = fromRun (more.reverse ++ run) rest := by
  induction more generalizing run with
  | nil => rfl
  | cons c more ih =>
    have hc : Token.read? (c :: (more ++ rest)) = .ok none :=
      hb (c :: more) (List.cons_ne_nil c more) (List.suffix_refl _)
    have hstep : fromRun run (c :: (more ++ rest)) = fromRun (c :: run) (more ++ rest) := by
      rw [fromRun]
      split
      · split
        · next he => simp [hc] at he
        · rfl
        · next ht => simp [hc] at ht
      · rfl
    rw [List.cons_append, hstep, ih hb.of_cons, List.reverse_cons, List.append_assoc,
      List.singleton_append]

/-- A scan ends its run where a token stands, and goes on behind the token. -/
theorem Scan.fromRun_of_reads {source : List Char} {t : Token} (h : Token.Reads source t)
    (run rest : List Char) :
    fromRun run (source ++ rest) =
      afterLiteral run ((fromRun [] rest).cons (.token t (String.ofList source))) := by
  have hr := h.read?_append rest
  obtain ⟨tail, rfl⟩ := h.exists_eq_cons
  rw [List.cons_append] at hr ⊢
  rw [fromRun, if_pos rfl]
  split
  · next he => simp [he] at hr
  · next hn => simp [hn] at hr
  · next u behind hu =>
    rw [hr] at hu
    obtain ⟨rfl, rfl⟩ : t = u ∧ rest = behind := by simpa using hu
    have hl : ('<' :: (tail ++ rest)).length - rest.length = ('<' :: tail).length := by
      simp only [List.length_cons, List.length_append]
      omega
    have ht : ('<' :: (tail ++ rest)).take ('<' :: tail).length = '<' :: tail :=
      List.take_left' rfl
    simp only [hl, ht]

/-- The scan of a cut text finds the segments that it is cut into. -/
theorem Cut.fromRun_eq {cs : List Char} {segs : List Segment} (h : Cut cs segs) :
    Scan.fromRun [] cs = ⟨segs, none⟩ := by
  induction h with
  | nil => rw [Scan.fromRun]; rfl
  | @literal run rest segs hne hb hs hr ih =>
    rw [Scan.fromRun_of_barren hb, List.append_nil]
    -- the run ends with the text or at a token
    cases hr with
    | nil => rw [Scan.fromRun, Scan.afterLiteral_reverse hne]; rfl
    | literal => simp [StartsWithToken, Segment.token?] at hs
    | token ht hr =>
      rw [Scan.fromRun_of_reads ht, Scan.afterLiteral_nil] at ih
      rw [Scan.fromRun_of_reads ht, Scan.afterLiteral_reverse hne, ih]
      rfl
  | token ht hr ih => rw [Scan.fromRun_of_reads ht, ih, Scan.afterLiteral_nil]; rfl

/-- The scan of a text with readable ids comes to the end of the text and cuts it. -/
theorem cut_scan {text : String} (h : ReadableIds text) :
    (scan text).failure = none ∧ Cut text.toList (scan text).segments := by
  have ha := allReadable_of_readableIds h
  have hc := @cut_fromRun [] text.toList ha (barren_nil text.toList)
  rw [List.reverse_nil, List.nil_append] at hc
  exact ⟨(Scan.fromRun_readFrom [] ha).1, hc⟩

/-- The segments of a cut text put together are the text. -/
theorem Cut.join_source {text : String} {segs : List Segment} (h : Cut text.toList segs) :
    String.join (segs.map Segment.source) = text := by
  apply String.toList_inj.mp
  rw [String.toList_join, List.flatMap_map]
  exact h.flatMap_source

/-- The characters of a token of a cut text are those that it is read from. -/
theorem Cut.reads_of_mem {cs : List Char} {segs : List Segment} {t : Token} {source : String}
    (h : Cut cs segs) (hm : .token t source ∈ segs) : Token.Reads source.toList t := by
  obtain ⟨before, after, rfl⟩ := List.append_of_mem hm
  obtain ⟨rest, -, hc⟩ := h.of_append
  cases hc with
  | token ht hr => rwa [String.toList_ofList]

/-! ### Spans -/

/-- A span starts behind the segments before it and is as long as its own. -/
theorem exists_of_mem_withSpans {p : Segment × Span} {start : Nat} {segs : List Segment}
    (h : p ∈ withSpans start segs) :
    ∃ before after, segs = before ++ p.1 :: after ∧
      p.2.start = start + (before.flatMap (·.source.toList)).length ∧
      p.2.stop = p.2.start + p.1.source.length := by
  induction segs generalizing start with
  | nil => simp [withSpans] at h
  | cons s segs ih =>
    rw [withSpans] at h
    rcases List.mem_cons.mp h with rfl | hm
    · exact ⟨[], segs, rfl, rfl, rfl⟩
    · obtain ⟨before, after, he, hs, ht⟩ := ih hm
      refine ⟨s :: before, after, congrArg (s :: ·) he, ?_, ht⟩
      rw [hs, List.flatMap_cons, List.length_append, String.length_toList]
      omega

/-- No span starts before the first one. -/
theorem le_start_of_mem_withSpans {p : Segment × Span} {start : Nat} {segs : List Segment}
    (h : p ∈ withSpans start segs) : start ≤ p.2.start := by
  obtain ⟨before, after, -, hs, -⟩ := exists_of_mem_withSpans h
  omega

/-- Spans follow one another. -/
theorem pairwise_withSpans (start : Nat) (segs : List Segment) :
    (withSpans start segs).Pairwise fun p q ↦ p.2.stop ≤ q.2.start := by
  induction segs generalizing start with
  | nil => exact .nil
  | cons s segs ih =>
    rw [withSpans, List.pairwise_cons]
    exact ⟨fun q hq ↦ le_start_of_mem_withSpans hq, ih _⟩

/-- Where a segment of a cut text stands, the text goes on with it and the cut goes on. -/
theorem Cut.exists_drop_eq {cs : List Char} {segs : List Segment} {p : Segment × Span}
    (h : Cut cs segs) (hp : p ∈ withSpans 0 segs) :
    p.2.stop = p.2.start + p.1.source.length ∧
      ∃ after, Cut (cs.drop p.2.start) (p.1 :: after) := by
  obtain ⟨before, after, rfl, hs, ht⟩ := exists_of_mem_withSpans hp
  obtain ⟨rest, rfl, hc⟩ := h.of_append
  rw [Nat.zero_add] at hs
  refine ⟨ht, after, ?_⟩
  rwa [hs, List.drop_left']
  rfl

/-- The characters of a cut text in the span of a segment are those of the segment. -/
theorem Cut.slice_eq {text : String} {segs : List Segment} {p : Segment × Span}
    (h : Cut text.toList segs) (hp : p ∈ withSpans 0 segs) : p.2.slice text = p.1.source := by
  obtain ⟨ht, after, hc⟩ := h.exists_drop_eq hp
  obtain ⟨rest, hr⟩ := hc.exists_eq_append
  rw [Span.slice, hr, ht, Nat.add_sub_cancel_left, ← String.length_toList, List.take_left',
    String.ofList_toList]
  rfl

/-- The characters of a token are read as the token alone. -/
theorem Cut.spannedTokens_token {cs : List Char} {segs : List Segment} {t : Token}
    {source : String} (h : Cut cs segs) (hm : .token t source ∈ segs) :
    spannedTokens source = .ok [(t, ⟨0, source.length⟩)] := by
  obtain ⟨before, after, rfl⟩ := List.append_of_mem hm
  obtain ⟨rest, -, hc⟩ := h.of_append
  cases hc with
  | @token chars _ _ _ ht hr =>
    have := spannedFrom_of_reads ht [] 0
    rw [List.append_nil, spannedFrom] at this
    rw [spannedTokens, String.toList_ofList, this, String.length_ofList, Nat.zero_add]
    rfl

/-- The characters of a literal run are read as no token. -/
theorem Cut.spannedTokens_literal {cs : List Char} {segs : List Segment} {run : String}
    (h : Cut cs segs) (ha : AllReadable cs) (hm : .literal run ∈ segs) :
    spannedTokens run = .ok [] := by
  obtain ⟨before, after, rfl⟩ := List.append_of_mem hm
  obtain ⟨_, rfl, hc⟩ := h.of_append
  cases hc with
  | @literal chars rest _ hne hb hs hr =>
    have hi : chars <:+: before.flatMap (·.source.toList) ++ (chars ++ rest) := by
      rw [← List.append_assoc]
      exact List.infix_append _ chars rest
    have := spannedFrom_of_barren (hb.alone (ha.of_infix hi)) 0
    rw [List.append_nil] at this
    rw [spannedTokens, String.toList_ofList, this, spannedFrom]

/-- Nowhere in the span of a literal run a token starts. -/
theorem Cut.read?_drop {cs : List Char} {segs : List Segment} {run : String} {span : Span}
    (h : Cut cs segs) (hp : (.literal run, span) ∈ withSpans 0 segs) {i : Nat}
    (hi : span.start ≤ i) (hj : i < span.stop) : Token.read? (cs.drop i) = .ok none := by
  obtain ⟨ht, after, hc⟩ := h.exists_drop_eq hp
  simp only [Segment.source] at ht hc
  generalize hr : cs.drop span.start = behind at hc
  cases hc with
  | @literal chars rest _ hne hb hs hr' =>
    rw [String.length_ofList] at ht
    have hlt : i - span.start < chars.length := by omega
    have hd : cs.drop i = chars.drop (i - span.start) ++ rest := by
      rw [← List.drop_append_of_le_length (Nat.le_of_lt hlt), ← hr, List.drop_drop]
      congr 1
      omega
    rw [hd]
    apply hb
    · exact List.ne_nil_of_length_pos (by rw [List.length_drop]; omega)
    · exact List.drop_suffix _ chars

/-! ### Main statement -/

/-- The segments of a text divide it, and each of them is read alone as it is in the text. -/
theorem segments_divide {text : String} (h : ReadableIds text) :
    ∃ segs, segments text = .ok segs ∧ Divides text segs := by
  have ha := allReadable_of_readableIds h
  obtain ⟨hf, -⟩ := Scan.fromRun_readFrom [] ha
  have hb : Barren ([] : List Char).reverse text.toList := barren_nil text.toList
  have hc := cut_fromRun ha hb
  rw [List.reverse_nil, List.nil_append] at hc
  refine ⟨(scan text).segments, ?_, ?_⟩
  · simp only [segments, Scan.complete, scan, hf]
  · change Cut text.toList (scan text).segments at hc
    exact {
      join := by
        apply String.toList_inj.mp
        rw [String.toList_join, List.flatMap_map]
        exact hc.flatMap_source
      slice := fun p hp ↦ hc.slice_eq hp
      nonempty := hc.source_ne
      separated := hc.isChain
      scanned := hc.spannedFrom_eq 0
      proper := by
        intro p hp
        obtain ⟨before, after, hs, -, ht⟩ := exists_of_mem_withSpans hp
        have hne : p.1.source ≠ "" := hc.source_ne _ (by rw [hs]; simp)
        have : 0 < p.1.source.length := by
          rw [← String.length_toList]
          exact List.length_pos_of_ne_nil (by simpa using hne)
        omega
      ordered := pairwise_withSpans 0 _
      token_alone := fun t source hm ↦ hc.spannedTokens_token hm
      literal_alone := fun run hm ↦ hc.spannedTokens_literal ha hm
      no_token := fun run span hp i hi hj ↦ hc.read?_drop hp hi hj }

/-- The bracket behind the nested reference closes the first opening; the last opening stays
open, and the reference behind it is taken alone. -/
theorem segments_divide_open :
    ReadableIds "1 < <math:<dice:<stat:1:value>> <dice:2 * <section:3:name>" ∧
      ∃ segs, segments "1 < <math:<dice:<stat:1:value>> <dice:2 * <section:3:name>" = .ok segs ∧
        Divides "1 < <math:<dice:<stat:1:value>> <dice:2 * <section:3:name>" segs := by
  have h : ReadableIds "1 < <math:<dice:<stat:1:value>> <dice:2 * <section:3:name>" :=
    readableIds_of_length_le (by decide)
  exact ⟨h, segments_divide h⟩

end CharacterSheet
