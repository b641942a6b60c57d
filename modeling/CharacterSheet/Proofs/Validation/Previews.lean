import CharacterSheet.Proofs.Validation.Strictness

/-!
# What strict validation covers of previews

Strict validation looks at the references that are tokens of a section's texts. The bodies of
expressions are tokens of their own, and what they refer to is not looked at, although values are
put into them when a preview is made. Main statement: in a schema without issues, the references
in the texts of sections name what is there, unless they stand in the body of an expression.
-/

namespace CharacterSheet
open Validation

namespace GameSystem
variable {s : GameSystem}

/-- A schema in which strict validation finds nothing is linked. -/
theorem isLinked_of_issues (h : s.issues true = .ok []) : s.IsLinked := by
  obtain ⟨plain, -, hx⟩ := extends_issues h
  exact (hx.eq_nil_iff.mp rfl).2

/-- Where strict validation finds nothing, the tokens of all texts of all sections are found, and
every stat or section that a text refers to is there, unless the reference stands in the body of
an expression. -/
theorem references_of_previews_are_there (h : s.issues true = .ok []) :
    ∀ sec ∈ s.sections, ∀ text ∈ sec.preview.texts, ∃ ts, tokens text = .ok ts ∧
      ∀ m : Mention, m.OccursIn text.toList →
        m.meaning.IsThere s.stats (s.sections.map (·.id)) ∨
          ∃ kind body, .expression kind body ∈ ts ∧ m.OccursIn body.toList := by
  intro sec hs text ht
  obtain ⟨ts, htokens, hr⟩ := ((isLinked_of_issues h).sections sec hs).texts text ht
  refine ⟨ts, htokens, fun m hm ↦ ?_⟩
  rcases exists_token_of_mention htokens hm with hm | hm
  · exact .inl (hr _ hm)
  · exact .inr hm

/-- A schema whose one section shows a text. -/
def showing (text : String) : GameSystem where
  config := { id := some 1, name := { default := "S" } }
  stats := [{ id := 3, name := { default := "A" }, detail := .boolean {} }]
  sections := [
    { id := 1, name := { default := "P" },
      preview := { kind := some .text, content := { default := text } } }]

/-- In a schema without issues, a stat is named in a text and in an expression. -/
theorem references_of_previews_are_there_outside :
    let text := "<stat:3:name>: <math:2 * <stat:3:value>>"
    ∃ ts, tokens text = .ok ts ∧ ∀ m : Mention, m.OccursIn text.toList →
      m.meaning.IsThere (showing text).stats [1] ∨
        ∃ kind body, .expression kind body ∈ ts ∧ m.OccursIn body.toList := by
  intro text
  have h : (showing text).issues true = .ok [] := eq_nil_of_map_length (by decide +kernel)
  exact references_of_previews_are_there h _ (List.mem_singleton_self _) text List.mem_cons_self

/-- A stat that is not there may be named in an expression, and strict validation finds nothing. -/
theorem reference_in_expression_not_there :
    let s := showing "<math:<stat:9:value>>"
    s.issues true = .ok [] ∧
      ∃ sec ∈ s.sections, ∃ text ∈ sec.preview.texts, ∃ m : Mention, m.OccursIn text.toList ∧
        ¬ m.meaning.IsThere s.stats (s.sections.map (·.id)) := by
  intro s
  have h : s.issues true = .ok [] := eq_nil_of_map_length (by decide +kernel)
  refine ⟨h, _, List.mem_singleton_self _, _, List.mem_cons_self, ⟨.stat, ['9'], .value⟩, ?_, ?_⟩
  · have hp : Mention.IsProper ⟨.stat, ['9'], .value⟩ :=
      ⟨List.cons_ne_nil _ _, List.forall_mem_singleton.mpr rfl⟩
    exact ⟨hp, "<math:".toList, ['>'], by decide +kernel⟩
  · decide +kernel

end GameSystem
end CharacterSheet
