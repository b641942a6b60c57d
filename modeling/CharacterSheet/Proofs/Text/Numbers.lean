import CharacterSheet.Number

/-!
# Texts of numbers

A number is written with digits, points, signs and exponents, unless it is a double that is
infinite or no number. Main statements: the texts of integers and of doubles are such texts.
-/

namespace CharacterSheet

/-- Whether a character is one that numbers are written with: a digit, a point, a sign, or the
letter of an exponent. -/
def isNumberChar (c : Char) : Bool := c.isDigit || ['.', 'e', '+', '-'].contains c

/-- A text that a number may be written as: one of the words for what is infinite or no number, or
characters that numbers are written with. -/
structure IsNumberText (text : String) : Prop where
  ne_empty : text ≠ ""
  chars : text ∈ ["nan", "inf", "-inf"] ∨ ∀ c ∈ text.toList, isNumberChar c = true

namespace Decimal

theorem isNumberChar_digits (n : Nat) : ∀ c ∈ digits n, isNumberChar c = true := by
  intro c hc
  rw [isNumberChar, Nat.isDigit_of_mem_toDigits (by decide) (by decide) hc, Bool.true_or]

theorem isNumberChar_replicate (n : Nat) : ∀ c ∈ List.replicate n '0', isNumberChar c = true := by
  intro c hc
  rw [List.eq_of_mem_replicate hc]
  decide

theorem isNumberChar_exponentText (width : Nat) (e : Int) :
    ∀ c ∈ exponentText width e, isNumberChar c = true := by
  refine List.forall_mem_cons.mpr ⟨?_, ?_⟩
  · split <;> decide
  · exact List.forall_mem_append.mpr ⟨isNumberChar_replicate _, isNumberChar_digits _⟩

/-- Digits stay digits, whatever they are laid out with. -/
theorem isNumberChar_layOut (layout : Layout) {ds : List Char}
    (h : ∀ c ∈ ds, isNumberChar c = true) (e : Int) :
    ∀ c ∈ layOut layout ds e, isNumberChar c = true := by
  have htrim : ∀ c ∈ (ds.reverse.dropWhile (· == '0')).reverse, isNumberChar c = true := by
    intro c hc
    exact h c (List.mem_reverse.mp ((List.dropWhile_sublist _).subset (List.mem_reverse.mp hc)))
  unfold layOut
  generalize (ds.reverse.dropWhile (· == '0')).reverse = ds at htrim
  have htake (n : Nat) : ∀ c ∈ ds.take n, isNumberChar c = true :=
    fun c hc ↦ htrim c (List.mem_of_mem_take hc)
  have hdrop (n : Nat) : ∀ c ∈ ds.drop n, isNumberChar c = true :=
    fun c hc ↦ htrim c (List.mem_of_mem_drop hc)
  have hpoint : isNumberChar '.' = true := by decide
  have hnought : isNumberChar '0' = true := by decide
  have hexponent : isNumberChar 'e' = true := by decide
  have hzeros := isNumberChar_replicate
  dsimp only
  split
  · split
    · simp only [List.forall_mem_cons, List.forall_mem_append]
      exact ⟨hnought, hpoint, hzeros _, htrim⟩
    · simp only [List.forall_mem_cons, List.forall_mem_append]
      refine ⟨⟨htake _, hzeros _⟩, hpoint, ?_⟩
      split
      · exact List.forall_mem_singleton.mpr hnought
      · exact hdrop _
  · simp only [List.forall_mem_cons, List.forall_mem_append]
    refine ⟨⟨htake 1, ?_⟩, hexponent, isNumberChar_exponentText _ e⟩
    split
    · exact List.forall_mem_cons.mpr ⟨hpoint, hdrop 1⟩
    · simp

theorem layOut_ne_nil (layout : Layout) (ds : List Char) (e : Int) :
    layOut layout ds e ≠ [] := by
  simp only [layOut]
  split
  · split <;> simp
  · simp

theorem write_ne_nil (layout : Layout) (x : Float) : write layout x ≠ [] := by
  unfold write
  split
  · decide
  · split <;> decide
  · dsimp only
    split
    · exact List.cons_ne_nil _ _
    · split
      · decide
      · exact layOut_ne_nil _ _ _

/-- The text of a double. -/
theorem isNumberText_text (x : Float) : IsNumberText (text x) where
  ne_empty h := by
    have hnil : (text x).toList = [] := by rw [h]; rfl
    rw [text, String.toList_ofList] at hnil
    exact write_ne_nil documentLayout x hnil
  chars := by
    rw [text, String.toList_ofList, write]
    cases Binary64.decode x with
    | notANumber => exact .inl (by decide)
    | infinite negative => cases negative <;> exact .inl (by decide)
    | finite negative m q =>
      right
      have hm : ∀ c ∈ (if m == 0 then "0.0".toList else
          layOut documentLayout (digits (shortest m q).1)
            ((shortest m q).2 + (digits (shortest m q).1).length - 1)), isNumberChar c = true := by
        split
        · exact List.all_eq_true.mp (by decide)
        · exact isNumberChar_layOut _ (isNumberChar_digits _) _
      cases negative
      · exact hm
      · exact List.forall_mem_cons.mpr ⟨by decide, hm⟩

end Decimal

/-- The text of an integer. -/
theorem isNumberText_toString (n : Int) : IsNumberText (toString n) where
  ne_empty h := by
    have hnil : (toString n).toList = [] := by rw [h]; rfl
    rw [Text.toList_toString, List.append_eq_nil_iff] at hnil
    exact Nat.toDigits_ne_nil hnil.2
  chars := by
    right
    rw [Text.toList_toString]
    refine List.forall_mem_append.mpr ⟨?_, Decimal.isNumberChar_digits n.natAbs⟩
    split
    · exact List.forall_mem_singleton.mpr (by decide)
    · simp

/-- The spelling of a number. -/
theorem Number.isNumberText_spelling (n : Number) : IsNumberText n.spelling := by
  cases n with
  | int n => exact isNumberText_toString n
  | float x => exact Decimal.isNumberText_text x

end CharacterSheet
