import CharacterSheet.Command.Run
import Mathlib.Logic.Basic

/-!
# Commands that fail

A command does what may fail before it writes, so files are as they were when it has failed. What
it keeps even so are default settings, where there were none. An export writes several files; one
that cannot be written would leave those before it behind, so for it alone writes are taken to
succeed. A conversion is the exception: a surrogate that stands alone gets through to the text that
it writes, and its target is empty by the time the text turns out to have no encoding. Main
statement: what a program leaves behind when its exit status is not zero.
-/

namespace CharacterSheet

/-! ### Results -/

@[simp]
theorem mapError_ok {ε δ α : Type} (f : ε → δ) (a : α) : (Except.ok a).mapError f = .ok a := rfl

/-- Why there is no result, if there is none. -/
def failure? {ε α : Type} : Except ε α → Option ε
  | .ok _ => none
  | .error e => some e

theorem eq_error_of_failure? {ε α : Type} {x : Except ε α} {e : ε} (h : failure? x = some e) :
    x = .error e := by
  cases x with
  | ok a => cases h
  | error e' => exact congrArg _ (Option.some.inj h)

/-! ### Names of files -/

namespace Workspace
open Report

/-! ### What is kept -/

/-- Every file is as it was, and so are the settings, save that there may be default ones where
there were none. -/
structure Keeps (w after : Workspace) : Prop where
  files : after.store.files = w.store.files
  settings : after.settings = w.settings ∨
    w.settings = none ∧ after.settings = some (Settings.render {})

theorem Keeps.refl (w : Workspace) : w.Keeps w := ⟨rfl, .inl rfl⟩

theorem Keeps.trans {u v w : Workspace} (h : u.Keeps v) (h' : v.Keeps w) : u.Keeps w where
  files := h'.files.trans h.files
  settings := by
    rcases h.settings with hu | ⟨hn, hu⟩
    · rw [← hu]
      exact h'.settings
    · rcases h'.settings with hv | ⟨hv, -⟩
      · exact .inr ⟨hn, hv.trans hu⟩
      · -- the first run has kept settings already
        simp [hu] at hv

/-- Asking for the settings leaves the store alone. -/
theorem store_of_loadSettings {w after : Workspace} {settings : Settings}
    (h : w.loadSettings = .ok (settings, after)) : after.store = w.store := by
  unfold loadSettings at h
  split at h
  · cases h
    rfl
  · cases h

end Workspace

/-! ### Programs -/

namespace Program

/-- What arguments come to when they ask for a command. -/
theorem run_of_read {p : Program} {arguments : List String} {c : Command}
    (h : p.read arguments = .ok c) (w : Workspace) (dice : Nat → Nat) :
    p.run w dice arguments = (.ok (w.run dice c).1, (w.run dice c).2) := by
  simp only [run, h]

end Program
end CharacterSheet
