import CharacterSheet.Proofs.Preview.Rendering

/-!
# Previews segment by segment

What takes the place of a token depends on the token alone, and a token is read from its own
characters just as it is read in a text. Main statement: the preview of a text is put together
from its literal runs and from the previews of its tokens, each of which is rendered alone.
-/

namespace CharacterSheet

namespace Preview
variable {m : Type → Type} [Monad m] [LawfulMonad m] {p : Preview m}

/-- What a segment is replaced by when it stands alone: a literal run stays as it is, and the
characters of a token are a text of their own. -/
def renderAlone (p : Preview m) : Segment → ExceptT NumeralError m String
  | .literal run => return run
  | .token _ source => p.render source

/-- The preview of a text is what takes the place of its segments, put together. For a text
without tokens, of which nothing is replaced, this is the text. -/
theorem render_eq_join {text : String} (h : ReadableIds text) :
    p.render text = String.join <$> (scan text).segments.mapM p.segment := by
  obtain ⟨hf, hc⟩ := cut_scan h
  rw [render]
  cases ht : (scan text).segments.any (·.token?.isSome) with
  | true =>
    have hcontains : containsToken text = .ok true := by rw [containsToken, ht]; rfl
    rw [hcontains, liftExcept, pure_bind, if_pos rfl]
    simp only [hf, bind_pure_comp]
  | false =>
    have hcontains : containsToken text = .ok false := by
      rw [containsToken, ht, Scan.complete, hf]
      rfl
    -- every segment is a literal run, which takes its own place
    have hall : ∀ s ∈ (scan text).segments, p.segment s = pure s.source := by
      intro s hs
      cases s with
      | literal run => rfl
      | token t source => simpa [Segment.token?] using List.any_eq_false.mp ht _ hs
    rw [hcontains, liftExcept, pure_bind, if_neg (by simp), mapM_congr hall, List.mapM_pure,
      map_pure, hc.join_source]

/-- What takes the place of a segment of a text is what replaces the segment alone. -/
theorem segment_eq_renderAlone {text : String} (h : ReadableIds text) :
    ∀ s ∈ (scan text).segments, p.segment s = p.renderAlone s := by
  intro s hs
  cases s with
  | literal run => rfl
  | token t source =>
    have hr := render_of_reads (p := p) ((cut_scan h).2.reads_of_mem hs)
    rw [String.ofList_toList] at hr
    exact hr.symm

/-- The preview of a text is put together from its segments in their order: from each literal run
as it is, and from the preview of the characters of each token alone. -/
theorem render_eq_join_renderAlone {text : String} (h : ReadableIds text) :
    ∃ segs, segments text = .ok segs ∧
      p.render text = String.join <$> segs.mapM p.renderAlone := by
  refine ⟨(scan text).segments, ?_, ?_⟩
  · rw [segments, Scan.complete, (cut_scan h).1]
  · rw [render_eq_join h, mapM_congr (segment_eq_renderAlone h)]

/-- A preview of a system whose only stat has the front of a reference for its name. -/
def ofOpening : Preview Id where
  system := { stats := [{ id := 1, name := { default := "<stat:" }, detail := .boolean {} }] }
  locale := "default"
  language := .english
  evaluate := Arithmetic.evaluator
  roll := diceRoller fun _ ↦ 0

/-- The name that is put in and the characters behind it look like a reference, which nobody
reads, and the expression that has no value shows it in its own place. -/
theorem render_eq_join_renderAlone_opening :
    ReadableIds "<stat:1:name>1:value> <math:2/> <dice:" ∧
      (∃ segs, segments "<stat:1:name>1:value> <math:2/> <dice:" = .ok segs ∧
        ofOpening.render "<stat:1:name>1:value> <math:2/> <dice:" =
          String.join <$> segs.mapM ofOpening.renderAlone) ∧
      (ofOpening.render "<stat:1:name>1:value> <math:2/> <dice:").run.run =
        .ok "<stat:1:value> [Error: 2/] <dice:" := by
  have h : ReadableIds "<stat:1:name>1:value> <math:2/> <dice:" :=
    readableIds_of_length_le (by decide)
  exact ⟨h, render_eq_join_renderAlone h, by decide +kernel⟩

end Preview
end CharacterSheet
