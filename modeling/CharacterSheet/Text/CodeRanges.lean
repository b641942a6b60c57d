/-!
# Sets of characters as ranges of code points

A character property of the Unicode standard is a short list of closed ranges.
The tables of this folder follow version 14 of the standard.
-/

namespace CharacterSheet.Text

/-- Closed ranges of code points, in increasing order. -/
abbrev CodeRanges := List (Nat × Nat)

namespace CodeRanges

/-- Whether a code point lies in one of the ranges. -/
def holds (ranges : CodeRanges) (code : Nat) : Bool :=
  ranges.any fun (low, high) ↦ low ≤ code && code ≤ high

/-- A code point is in a set exactly when some range encloses it. -/
theorem holds_iff {ranges : CodeRanges} {code : Nat} :
    ranges.holds code ↔ ∃ r ∈ ranges, r.1 ≤ code ∧ code ≤ r.2 := by
  simp [holds]

end CodeRanges
end CharacterSheet.Text
