import CharacterSheet.Text.Blank

/-!
# Texts with blanks between their marks

The marks of an expression may stand apart or not; a text spells a list of marks when it has
their characters in order and nothing but blanks between them. Main statement: a text that is
trimmed spells the marks that it spelled before.
-/

namespace CharacterSheet
namespace Text

variable {α : Type}

/-- A text is made of the characters of marks, with blanks in front, between and behind. -/
inductive Spaced (source : α → List Char) : List α → List Char → Prop where
  | nil : Spaced source [] []
  | blank {ms : List α} {c : Char} {cs : List Char} (hc : isBlank c = true)
      (h : Spaced source ms cs) : Spaced source ms (c :: cs)
  | mark {ms : List α} {cs : List Char} (m : α) (h : Spaced source ms cs) :
      Spaced source (m :: ms) (source m ++ cs)

namespace Spaced
variable {source : α → List Char} {ms ns : List α} {cs ds : List Char}

/-- Marks without any blanks. -/
theorem flatMap (ms : List α) : Spaced source ms (ms.flatMap source) := by
  induction ms with
  | nil => exact .nil
  | cons m ms ih =>
    rw [List.flatMap_cons]
    exact .mark m ih

theorem of_eq_flatMap (h : cs = ms.flatMap source) : Spaced source ms cs := by
  rw [h]
  exact flatMap ms

theorem append (hs : Spaced source ms cs) (ht : Spaced source ns ds) :
    Spaced source (ms ++ ns) (cs ++ ds) := by
  induction hs with
  | nil => exact ht
  | blank hc h ih => exact .blank hc ih
  | mark m h ih =>
    rw [List.cons_append, List.append_assoc]
    exact .mark m ih

/-- A text with marks in it is not empty. -/
theorem ne_nil (hs : Spaced source ms cs) (hm : ms ≠ []) (hne : ∀ m, source m ≠ []) : cs ≠ [] := by
  induction hs with
  | nil => contradiction
  | blank hc h ih => exact List.cons_ne_nil _ _
  | mark m h ih =>
    intro he
    exact hne m (List.append_eq_nil_iff.mp he).1

/-- Every character is a blank or belongs to a mark. -/
theorem mem_cases (hs : Spaced source ms cs) {c : Char} (hc : c ∈ cs) :
    isBlank c = true ∨ ∃ m ∈ ms, c ∈ source m := by
  induction hs with
  | nil => exact absurd hc List.not_mem_nil
  | blank hb h ih =>
    rcases List.mem_cons.mp hc with rfl | hc
    · exact .inl hb
    · exact ih hc
  | mark m h ih =>
    rcases List.mem_append.mp hc with hc | hc
    · exact .inr ⟨m, List.mem_cons_self, hc⟩
    · rcases ih hc with hb | ⟨n, hn, hs⟩
      · exact .inl hb
      · exact .inr ⟨n, List.mem_cons_of_mem m hn, hs⟩

/-- The first character is a blank or starts the first mark. -/
theorem head_cases (hs : Spaced source ms (c :: cs)) (hne : ∀ m, source m ≠ []) :
    isBlank c = true ∨ ∃ m rest tail, ms = m :: rest ∧ source m = c :: tail := by
  generalize he : c :: cs = text at hs
  cases hs with
  | nil => contradiction
  | blank hb h =>
    left
    rwa [(List.cons.inj he).1]
  | @mark rest _ m h =>
    right
    cases hm : source m with
    | nil => exact absurd hm (hne m)
    | cons d tail =>
      rw [hm, List.cons_append] at he
      rw [(List.cons.inj he).1]
      exact ⟨m, rest, tail, rfl, hm⟩

/-- Read backwards, a text spells its marks backwards. -/
theorem reverse (hs : Spaced source ms cs) :
    Spaced (fun m ↦ (source m).reverse) ms.reverse cs.reverse := by
  induction hs with
  | nil => exact .nil
  | blank hc h ih =>
    rw [List.reverse_cons, ← List.append_nil (List.reverse _)]
    exact ih.append (.blank hc .nil)
  | mark m h ih =>
    rw [List.reverse_cons, List.reverse_append]
    apply ih.append
    rw [← List.append_nil (List.reverse _)]
    exact .mark m .nil

/-- Blanks in front may be left out. -/
theorem dropWhile (hs : Spaced source ms cs) (hb : ∀ m, ∀ c ∈ source m, isBlank c = false) :
    Spaced source ms (cs.dropWhile isBlank) := by
  induction hs with
  | nil => exact .nil
  | blank hc h ih => rwa [List.dropWhile_cons_of_pos hc]
  | @mark ms cs m h ih =>
    cases hm : source m with
    | nil =>
      rw [List.nil_append]
      have := Spaced.mark m ih
      rwa [hm, List.nil_append] at this
    | cons d tail =>
      have hd : ¬ isBlank d = true := by
        rw [hb m d (by rw [hm]; exact List.mem_cons_self)]
        exact Bool.false_ne_true
      rw [List.cons_append, List.dropWhile_cons_of_neg hd, ← List.cons_append, ← hm]
      exact .mark m h

/-- Blanks at the two ends may be left out. -/
theorem trim (hs : Spaced source ms cs) (hb : ∀ m, ∀ c ∈ source m, isBlank c = false) :
    Spaced source ms (Text.trim cs) := by
  have front := (hs.dropWhile hb).reverse
  have back := (front.dropWhile fun m c hc ↦ hb m c (List.mem_reverse.mp hc)).reverse
  simp only [List.reverse_reverse] at back
  exact back

end Spaced
end Text
end CharacterSheet
