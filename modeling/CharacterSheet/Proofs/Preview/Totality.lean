import CharacterSheet.Proofs.Preview.Simultaneity

/-!
# When previews are shown

A preview leaves arithmetic and dice to others, whose failures show in their own places, and puts in
words for everything that is not there. So it fails for nothing but integers with too many digits:
those in the ids of the text, those in a value or a name that is shown, and those that a stat is
sampled with. Main statement: a text is scanned exactly when its ids can be read, and a preview of
it comes to a text, whatever the evaluator and the roller do, exactly when the integers in it can be
written as well.
-/

namespace CharacterSheet

open Mention

/-! ### Computations that return -/

section
variable {m : Type → Type} [Monad m] {ε α β : Type}

/-- A computation that comes to a result, whatever its effects are. -/
def Returns (x : ExceptT ε m α) : Prop := ∃ result : m α, x.run = Except.ok <$> result

/-- A computation that ends with a failure, whatever its effects are. -/
def Fails (x : ExceptT ε m α) : Prop := ∃ why : m ε, x.run = Except.error <$> why

variable {x : ExceptT ε m α} {f : α → ExceptT ε m β}

theorem returns_lift (x : m α) : Returns (ExceptT.lift x : ExceptT ε m α) :=
  ⟨x, ExceptT.run_lift x⟩

variable [LawfulMonad m]

theorem returns_pure (a : α) : Returns (pure a : ExceptT ε m α) :=
  ⟨pure a, by rw [ExceptT.run_pure, map_pure]⟩

theorem fails_throw (e : ε) : Fails (throw e : ExceptT ε m α) :=
  ⟨pure e, by rw [ExceptT.run_throw, map_pure]⟩

theorem returns_liftExcept {x : Except ε α} (h : ∃ a, x = .ok a) :
    Returns (liftExcept x : ExceptT ε m α) := by
  obtain ⟨a, rfl⟩ := h
  exact returns_pure a

theorem fails_liftExcept {x : Except ε α} (h : ¬ ∃ a, x = .ok a) :
    Fails (liftExcept x : ExceptT ε m α) := by
  cases x with
  | ok a => exact absurd ⟨a, rfl⟩ h
  | error e => exact fails_throw e

/-- What goes on behind a result comes to a result when it does so for every one. -/
theorem Returns.bind (h : Returns x) (hf : ∀ a, Returns (f a)) : Returns (x >>= f) := by
  obtain ⟨result, hr⟩ := h
  choose next hn using hf
  exact ⟨result >>= next, by simp [ExceptT.run_bind, hr, hn]⟩

theorem Returns.bind_fails (h : Returns x) (hf : ∀ a, Fails (f a)) : Fails (x >>= f) := by
  obtain ⟨result, hr⟩ := h
  choose next hn using hf
  exact ⟨result >>= next, by simp [ExceptT.run_bind, hr, hn]⟩

/-- Nothing goes on behind a failure. -/
theorem Fails.bind (h : Fails x) (f : α → ExceptT ε m β) : Fails (x >>= f) := by
  obtain ⟨why, hw⟩ := h
  exact ⟨why, by simp [ExceptT.run_bind, hw]⟩

theorem returns_mapM {as : List α} (h : ∀ a ∈ as, Returns (f a)) : Returns (as.mapM f) := by
  induction as with
  | nil => exact returns_pure []
  | cons a as ih =>
    obtain ⟨ha, hs⟩ := List.forall_mem_cons.mp h
    rw [List.mapM_cons]
    exact ha.bind fun b ↦ (ih hs).bind fun bs ↦ returns_pure (b :: bs)

/-- A walk over a list fails when a step fails and those before it come to an end. -/
theorem fails_mapM {as : List α} (h : ∀ a ∈ as, Returns (f a) ∨ Fails (f a))
    (hf : ∃ a ∈ as, Fails (f a)) : Fails (as.mapM f) := by
  induction as with
  | nil => simp at hf
  | cons a as ih =>
    obtain ⟨ha, hs⟩ := List.forall_mem_cons.mp h
    rw [List.mapM_cons]
    rcases ha with ha | ha
    · obtain ⟨b, hb, hf⟩ := hf
      rcases List.mem_cons.mp hb with rfl | hb
      · exact hf.bind _
      · exact ha.bind_fails fun c ↦ (ih hs ⟨b, hb, hf⟩).bind _
    · exact ha.bind _

end

/-! ### Tokens -/

/-- The samples that an expression of a kind is worked out with. -/
def ExpressionKind.use : ExpressionKind → SampleUse
  | .math => .math
  | .dice => .dice

namespace Preview
variable {m : Type → Type} {p : Preview m}

/-- The integers in what takes the place of a reference in an expression. -/
def insertedIntegers (p : Preview m) (use : SampleUse) (r : Reference) : List Int :=
  if r.isStatValue then (sampleInteger? p.system.stats use r.id).toList else p.shownIntegers r

/-- The integers that have to be written to show a token. -/
inductive Writes (p : Preview m) : Token → Int → Prop where
  | shown {r : Reference} {n : Int} (h : n ∈ p.shownIntegers r) : p.Writes (.reference r) n
  | inserted {kind : ExpressionKind} {body : String} {r : Reference} {n : Int}
    (hr : RefersTo body r) (h : n ∈ p.insertedIntegers kind.use r) :
    p.Writes (.expression kind body) n

theorem exists_insertion_iff {use : SampleUse} {r : Reference} :
    (∃ text, p.insertion use r = .ok text) ↔
      ∀ n ∈ p.insertedIntegers use r, Numeral.isWritable n = true := by
  unfold insertion insertedIntegers
  split
  · simpa using exists_sampleValue_iff
  · exact exists_reference_iff

/-- The body of an expression is handed on exactly when the integers that are put into it can be
written. -/
theorem exists_payload_iff {use : SampleUse} {body : String} (hu : Unclosed body.toList)
    (hr : ReadableIds body) :
    (∃ text, p.payload use body = .ok text) ↔
      ∀ r, RefersTo body r → ∀ n ∈ p.insertedIntegers use r, Numeral.isWritable n = true := by
  rw [payload_eq_substituteReferences hu hr, exists_substituteReferences_iff, and_iff_right hr]
  simp only [exists_insertion_iff]

end Preview

namespace Preview
variable {m : Type → Type} [Monad m] [LawfulMonad m] {p : Preview m}

/-- An expression that is handed on comes to a text, whatever is found for it. -/
theorem returns_math {body : String} (h : ∃ text, p.payload .math body = .ok text) :
    Returns (p.math body) := by
  refine (returns_liftExcept h).bind fun text ↦ (returns_lift _).bind fun found ↦ ?_
  cases found with
  | error e => exact returns_pure _
  | ok finding =>
    dsimp only
    cases finding.text <;> exact returns_pure _

/-- A roll that is handed on comes to a text, whatever its outcome is. -/
theorem returns_dice {body : String} (h : ∃ text, p.payload .dice body = .ok text) :
    Returns (p.dice body) := by
  refine (returns_liftExcept h).bind fun text ↦ (returns_lift _).bind fun found ↦ ?_
  cases found <;> exact returns_pure _

/-- What takes the place of a token is found exactly when its integers can be written. -/
theorem returns_or_fails_token {source : List Char} {t : Token} (h : Token.Reads source t) :
    ((∀ n, p.Writes t n → Numeral.isWritable n = true) → Returns (p.token t)) ∧
      ((¬ ∀ n, p.Writes t n → Numeral.isWritable n = true) → Fails (p.token t)) := by
  cases t with
  | reference r =>
    have hw : (∀ n, p.Writes (.reference r) n → Numeral.isWritable n = true) ↔
        ∃ text, p.reference r = .ok text := by
      rw [exists_reference_iff]
      constructor
      · exact fun h n hn ↦ h n (.shown hn)
      · rintro h n ⟨hn⟩
        exact h n hn
    rw [hw]
    exact ⟨returns_liftExcept, fails_liftExcept⟩
  | expression kind body =>
    obtain ⟨hu, hr⟩ := h.body
    have hw : (∀ n, p.Writes (.expression kind body) n → Numeral.isWritable n = true) ↔
        ∃ text, p.payload kind.use body = .ok text := by
      rw [exists_payload_iff hu hr]
      constructor
      · exact fun h r ho n hn ↦ h n (.inserted ho hn)
      · rintro h n (_ | ⟨ho, hn⟩)
        exact h _ ho n hn
    rw [hw]
    cases kind with
    | math => exact ⟨returns_math, fun h ↦ (fails_liftExcept h).bind _⟩
    | dice => exact ⟨returns_dice, fun h ↦ (fails_liftExcept h).bind _⟩

/-- What takes the place of a segment of a scan is found, or it is not. -/
theorem returns_or_fails_segment {run cs : List Char} {s : Segment}
    (h : s ∈ (Scan.fromRun run cs).segments) :
    ((∀ t ∈ s.token?, ∀ n, p.Writes t n → Numeral.isWritable n = true) →
        Returns (p.segment s)) ∧
      ((¬ ∀ t ∈ s.token?, ∀ n, p.Writes t n → Numeral.isWritable n = true) →
        Fails (p.segment s)) := by
  cases s with
  | literal text =>
    have hnone : ∀ t ∈ (Segment.literal text).token?, ∀ n, p.Writes t n →
        Numeral.isWritable n = true := by simp [Segment.token?]
    exact ⟨fun _ ↦ returns_pure text, fun h ↦ absurd hnone h⟩
  | token t source =>
    have hm : t ∈ (Scan.fromRun run cs).found := List.mem_filterMap.mpr ⟨_, h, rfl⟩
    obtain ⟨_, hr⟩ := Scan.exists_reads hm
    have hone : (∀ u ∈ (Segment.token t source).token?, ∀ n, p.Writes u n →
        Numeral.isWritable n = true) ↔ ∀ n, p.Writes t n → Numeral.isWritable n = true := by
      simp [Segment.token?]
    rw [hone]
    exact returns_or_fails_token hr

/-- What takes the places of the segments of a scan is found exactly when the integers of all its
tokens can be written. -/
theorem returns_or_fails_segments {run cs : List Char} :
    ((∀ t ∈ (Scan.fromRun run cs).found, ∀ n, p.Writes t n → Numeral.isWritable n = true) →
        Returns ((Scan.fromRun run cs).segments.mapM p.segment)) ∧
      ((¬ ∀ t ∈ (Scan.fromRun run cs).found, ∀ n, p.Writes t n → Numeral.isWritable n = true) →
        Fails ((Scan.fromRun run cs).segments.mapM p.segment)) := by
  have hone (s) (hs : s ∈ (Scan.fromRun run cs).segments) :=
    returns_or_fails_segment (p := p) hs
  have hall : (∀ t ∈ (Scan.fromRun run cs).found, ∀ n, p.Writes t n →
        Numeral.isWritable n = true) ↔
      ∀ s ∈ (Scan.fromRun run cs).segments, ∀ t ∈ s.token?, ∀ n, p.Writes t n →
        Numeral.isWritable n = true := by
    simp only [Scan.found, List.mem_filterMap, Option.mem_def]
    constructor
    · exact fun h s hs t ht ↦ h t ⟨s, hs, ht⟩
    · rintro h t ⟨s, hs, ht⟩
      exact h s hs t ht
  rw [hall]
  constructor
  · exact fun h ↦ returns_mapM fun s hs ↦ (hone s hs).1 (h s hs)
  · intro h
    push Not at h
    obtain ⟨s, hs, t, ht, n, hn, hw⟩ := h
    refine fails_mapM (fun r hr ↦ ?_) ⟨s, hs, (hone s hs).2 fun h ↦ hw (h t ht n hn)⟩
    exact (em _).imp (hone r hr).1 (hone r hr).2

/-- A text whose ids can be read, and the integers of whose tokens can be written. -/
structure CanRender (p : Preview m) (text : String) : Prop where
  readable : ReadableIds text
  writable : ∀ ts, tokens text = .ok ts → ∀ t ∈ ts, ∀ n, p.Writes t n → Numeral.isWritable n = true

/-- A preview that comes to the end is a text exactly when the integers in it can be written. -/
theorem returns_or_fails_render {text : String} :
    (p.CanRender text → Returns (p.render text)) ∧
      (¬ p.CanRender text → Fails (p.render text)) := by
  obtain ⟨hreturns, hfails⟩ := @returns_or_fails_segments m _ _ p [] text.toList
  change (_ → Returns ((scan text).segments.mapM p.segment)) at hreturns
  change (_ → Fails ((scan text).segments.mapM p.segment)) at hfails
  have htokens (hr : ReadableIds text) : tokens text = .ok (scan text).found :=
    tokens_eq (cut_scan hr).1
  constructor
  · rintro ⟨hr, hw⟩
    rw [render_eq_join hr, map_eq_pure_bind]
    exact (hreturns (hw _ (htokens hr))).bind fun parts ↦ returns_pure _
  · intro h
    by_cases hr : ReadableIds text
    · rw [render_eq_join hr, map_eq_pure_bind]
      refine (hfails fun hw ↦ h ⟨hr, fun ts ht ↦ ?_⟩).bind _
      cases (htokens hr).symm.trans ht
      exact hw
    · -- the scan failed, and the preview fails at a token before that or at the end of the scan
      have hf : ∃ e, (scan text).failure = some e := by
        refine Option.ne_none_iff_exists'.mp fun hn ↦ hr fun k hk ↦ ?_
        exact Scan.allReadable_of_failure hn k (mem_readAll_iff.mpr hk)
      obtain ⟨e, he⟩ := hf
      rw [render]
      cases ha : (scan text).segments.any (·.token?.isSome) with
      | true =>
        have hcontains : containsToken text = .ok true := by rw [containsToken, ha]; rfl
        rw [hcontains, liftExcept, pure_bind, if_pos rfl]
        simp only [he]
        by_cases hw : ∀ t ∈ (scan text).found, ∀ n, p.Writes t n → Numeral.isWritable n = true
        · exact (hreturns hw).bind_fails fun parts ↦ fails_throw e
        · exact (hfails hw).bind _
      | false =>
        have hcontains : containsToken text = .error e := by
          rw [containsToken, ha, Scan.complete, he]
          rfl
        rw [hcontains]
        exact (fails_throw e).bind _

end Preview

/-! ### Main statement -/

/-- A scan by position that came to the end has read all ids. -/
theorem allReadable_of_spannedFrom {start : Nat} {cs : List Char} {found : List (Token × Span)}
    (h : spannedFrom start cs = .ok found) : AllReadable cs := by
  fun_induction spannedFrom start cs generalizing found with
  | case1 => simp [AllReadable, readAll_nil]
  | case2 start rest e he => simp at h
  | case3 start rest hn ih =>
    rw [AllReadable, readAll_cons (Token.mention_read?_eq_none hn)]
    exact ih h
  | @case4 start rest t behind ht hlt stop ih =>
    cases hs : spannedFrom stop behind with
    | error e => simp [hs, Except.map] at h
    | ok found => exact Token.allReadable_of_read? ht (ih hs)
  | case5 start c rest hc ih =>
    rw [AllReadable, readAll_cons (read?_of_ne hc rest)]
    exact ih h

/-- A text is scanned exactly when its ids can be read, and a preview of it comes to a text,
whatever the evaluator and the roller do, exactly when the integers that are put in can be written
as well. -/
theorem scan_and_render_iff {m : Type → Type} [Monad m] [LawfulMonad m] (p : Preview m)
    (text : String) :
    ((∃ found, spannedTokens text = .ok found) ↔ ReadableIds text) ∧
      ((∃ segs, segments text = .ok segs) ↔ ReadableIds text) ∧
      (p.CanRender text → Returns (p.render text)) ∧
      (¬ p.CanRender text → Fails (p.render text)) := by
  have hsegments : (∃ segs, segments text = .ok segs) ↔ ReadableIds text := by
    rw [← exists_tokens_iff, tokens]
    cases segments text <;> simp [Except.map]
  refine ⟨⟨?_, ?_⟩, hsegments, Preview.returns_or_fails_render⟩
  · rintro ⟨found, h⟩ k hk
    exact allReadable_of_spannedFrom h k (mem_readAll_iff.mpr hk)
  · intro hr
    exact ⟨_, (cut_scan hr).2.spannedFrom_eq 0⟩

/-- All integers in the previews of that system can be written: the only one is minus three. -/
theorem Preview.writes_ofMinusThree {t : Token} {n : Int} (h : ofMinusThree.Writes t n) :
    Numeral.isWritable n = true := by
  have hfind (id : Int) (s) (hs : findStat ofMinusThree.system.stats id = some s) :
      s = { id := 1, detail := .numeric (some (.int (-3))) none {} } :=
    List.mem_singleton.mp (List.mem_of_find?_eq_some hs)
  have hshown (r : Reference) (hn : n ∈ ofMinusThree.shownIntegers r) : n = -3 := by
    obtain ⟨subject, id, property⟩ := r
    cases subject with
    | stat =>
      unfold shownIntegers at hn
      cases hs : findStat ofMinusThree.system.stats id with
      | none => cases property <;> simp [hs] at hn
      | some s =>
        rw [hfind _ s hs] at hs
        cases property with
        | value => simpa [hs, valueIntegers, Number.int?] using hn
        | name => simp [hs, Localization.shownIntegers, Json.Fields.get?] at hn
        | emoji => simp at hn
    | sheetSection => cases property <;> simp [shownIntegers, findSection, ofMinusThree] at hn
  have hsampled (use : SampleUse) (id : Int) (hu : use ≠ .conditionRight)
      (hn : n ∈ sampleInteger? ofMinusThree.system.stats use id) : n = -3 := by
    obtain ⟨s, hs, hn⟩ := Option.bind_eq_some_iff.mp hn
    rw [hfind _ s hs] at hn
    cases use with
    | conditionRight => contradiction
    | _ => exact (Option.some.inj hn).symm
  have hthree : n = -3 := by
    cases h with
    | shown h => exact hshown _ h
    | @inserted kind body r n hr h =>
      unfold insertedIntegers at h
      split at h
      · exact hsampled kind.use r.id (by cases kind <;> decide) (Option.mem_toList.mp h)
      · exact hshown r h
  rw [hthree]
  exact Numeral.isWritable_of_lt (k := 1) (by decide) (by decide)

/-- A value, an expression without a value and a roll. -/
theorem scan_and_render_iff_failing :
    ReadableIds "<stat:1:value> <math:2/> <dice:1d<stat:1:value>>" ∧
      (∃ segs, segments "<stat:1:value> <math:2/> <dice:1d<stat:1:value>>" = .ok segs) ∧
      Returns (Preview.ofMinusThree.render "<stat:1:value> <math:2/> <dice:1d<stat:1:value>>") := by
  have hr : ReadableIds "<stat:1:value> <math:2/> <dice:1d<stat:1:value>>" :=
    readableIds_of_length_le (by decide)
  obtain ⟨-, hsegments, hrender, -⟩ := scan_and_render_iff Preview.ofMinusThree
    "<stat:1:value> <math:2/> <dice:1d<stat:1:value>>"
  exact ⟨hr, hsegments.mpr hr, hrender ⟨hr, fun _ _ _ _ _ ↦ Preview.writes_ofMinusThree⟩⟩

/-- A mention of the name of a stat whose id has more digits than are read. -/
def Mention.ofZeros : Mention := ⟨.stat, List.replicate maxDigits '0' ++ ['1'], .name⟩

/-- The id of that mention cannot be read. -/
theorem not_readableIds_ofZeros : ¬ ReadableIds (String.ofList Mention.ofZeros.source) := by
  intro h
  have hzero : Text.isDecimalDigit '0' = true := by decide
  have hone : Text.isDecimalDigit '1' = true := by decide
  have hproper : Mention.ofZeros.IsProper := by
    refine ⟨List.append_ne_nil_of_right_ne_nil _ (List.cons_ne_nil _ _), fun c hc ↦ ?_⟩
    rcases List.mem_append.mp hc with hc | hc
    · rw [List.eq_of_mem_replicate hc]
      exact hzero
    · rw [List.mem_singleton.mp hc]
      exact hone
  have hlong := h Mention.ofZeros ⟨hproper, by simp only [String.toList_ofList, List.infix_refl]⟩
  have hlength : Mention.ofZeros.digits.length = maxDigits + 1 := by simp [Mention.ofZeros]
  omega

/-- A preview for a locale in which the name of the only stat is an integer. -/
def Preview.ofIntegerName (n : Int) : Preview Id where
  system := { stats := [{
    id := 1
    name := { default := "A", variants := [("fr", .int n)] }
    detail := .boolean {} }] }
  locale := "fr"
  language := .english
  evaluate := Arithmetic.evaluator
  roll := diceRoller fun _ ↦ 0

/-- An integer other than nought is shown for that name. -/
theorem Preview.writes_ofIntegerName {n : Int} (h : n ≠ 0) :
    (ofIntegerName n).Writes (.reference ⟨.stat, 1, .name⟩) n := by
  refine .shown ?_
  simp [shownIntegers, ofIntegerName, findStat, Localization.shownIntegers, Json.Fields.get?,
    Json.isTruthy, Json.int, Json.integers, Json.numbers, Number.int?, Number.isZero, h]

/-- A text that is such a mention is not scanned, and has no preview. Neither has a text that shows
an integer with more digits than are written for a name, though it is scanned. -/
theorem scan_and_render_fail :
    (¬ ∃ segs, segments (String.ofList Mention.ofZeros.source) = .ok segs) ∧
      Fails (Preview.ofMinusThree.render (String.ofList Mention.ofZeros.source)) ∧
      (∃ segs, segments "<stat:1:name>" = .ok segs) ∧
      Fails ((Preview.ofIntegerName (10 ^ maxDigits)).render "<stat:1:name>") := by
  have hname : tokens "<stat:1:name>" = .ok [.reference ⟨.stat, 1, .name⟩] := by decide +kernel
  refine ⟨?_, Preview.returns_or_fails_render.2 fun h ↦ not_readableIds_ofZeros h.readable, ?_,
    Preview.returns_or_fails_render.2 fun h ↦ ?_⟩
  · rintro ⟨segs, hs⟩
    refine not_readableIds_ofZeros (exists_tokens_iff.mp ⟨segs.filterMap Segment.token?, ?_⟩)
    rw [tokens, hs]
    rfl
  · obtain ⟨segs, hs, -⟩ := Json.Bounded.exists_of_map_eq_ok hname
    exact ⟨segs, hs⟩
  · have hne : (10 ^ maxDigits : Int) ≠ 0 := by decide +kernel
    have hlong : Numeral.isWritable (10 ^ maxDigits) = false := by decide +kernel
    have hw := h.writable _ hname _ List.mem_cons_self _ (Preview.writes_ofIntegerName hne)
    cases hlong.symm.trans hw

end CharacterSheet
