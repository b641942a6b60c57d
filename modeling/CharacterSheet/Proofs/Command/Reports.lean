import CharacterSheet.Command.Report

/-!
# Reports one after the other

A report that has come to its end is followed by the next one; one that ends badly is the last. So
reports one after the other are fine exactly when each of them is, and what the first of them note
is noted whatever follows.
-/

namespace CharacterSheet

theorem Ending.status_eq_zero_iff {e : Ending} : e.status = 0 ↔ e = .done := by
  cases e <;> simp [Ending.status]

theorem Ending.status_eq_one {e : Ending} (h : e.status ≠ 0) : e.status = 1 := by
  cases e with
  | done => exact absurd rfl h
  | failed => rfl
  | broken cause => rfl

namespace Report
variable {r : Report}

/-- A report goes on where one before it has come to its end. -/
theorem append_of_done (h : r.ending = .done) (next : Report) :
    r ++ next = { next with
      output := r.output ++ next.output, notices := r.notices ++ next.notices } := by
  change append r next = _
  unfold append
  rw [h]

/-- A report that ends badly is the last. -/
theorem append_of_not_done (h : r.ending ≠ .done) (next : Report) : r ++ next = r := by
  change append r next = r
  unfold append
  cases hr : r.ending with
  | done => exact absurd hr h
  | failed => rfl
  | broken cause => rfl

/-- One report behind another ends badly when one of them does. -/
theorem status_append (r next : Report) :
    (r ++ next).ending.status = 1 ↔ r.ending.status = 1 ∨ next.ending.status = 1 := by
  change (append r next).ending.status = 1 ↔ _
  unfold append
  cases hr : r.ending <;> simp [hr, Ending.status]

/-- A report that notes nothing adds no notice. -/
theorem notices_append_of_nil {next : Report} (h : next.notices = []) :
    (r ++ next).notices = r.notices := by
  by_cases hr : r.ending = .done
  · rw [append_of_done hr, h, List.append_nil]
  · rw [append_of_not_done hr]

/-- A report comes to its end and notes nothing. -/
structure IsClean (r : Report) : Prop where
  done : r.ending = .done
  silent : r.notices = []

theorem isClean_append_iff {next : Report} : (r ++ next).IsClean ↔ r.IsClean ∧ next.IsClean := by
  by_cases h : r.ending = .done
  · rw [append_of_done h]
    constructor
    · rintro ⟨hd, hs⟩
      obtain ⟨hr, hn⟩ := List.append_eq_nil_iff.mp hs
      exact ⟨⟨h, hr⟩, ⟨hd, hn⟩⟩
    · rintro ⟨hr, hn⟩
      exact ⟨hn.done, List.append_eq_nil_iff.mpr ⟨hr.silent, hn.silent⟩⟩
  · rw [append_of_not_done h]
    exact ⟨fun hr ↦ absurd hr.done h, fun hr ↦ absurd hr.1.done h⟩

/-- Reports one after the other are clean exactly when each of them is. -/
theorem isClean_join_iff {rs : List Report} : (join rs).IsClean ↔ ∀ r ∈ rs, r.IsClean := by
  induction rs with
  | nil => exact ⟨fun _ ↦ nofun, fun _ ↦ ⟨rfl, rfl⟩⟩
  | cons r rs ih =>
    rw [List.forall_mem_cons, ← ih]
    exact isClean_append_iff

/-- Nothing follows what a command has no answer to. -/
theorem join_broken (cause : Failure) (rs : List Report) :
    join (broken cause :: rs) = broken cause := rfl

/-- Reports that come to their end have all their notices before those of what follows. -/
theorem notices_join_append {rs : List Report} (h : ∀ r ∈ rs, r.ending = .done)
    (next : List Report) :
    (join (rs ++ next)).notices = rs.flatMap notices ++ (join next).notices := by
  induction rs with
  | nil => rfl
  | cons r rs ih =>
    obtain ⟨hr, hrs⟩ := List.forall_mem_cons.mp h
    have hcons : join (r :: (rs ++ next)) = r ++ join (rs ++ next) := rfl
    rw [List.cons_append, hcons, append_of_done hr]
    simp only [ih hrs, List.flatMap_cons, List.append_assoc]

end Report
end CharacterSheet
