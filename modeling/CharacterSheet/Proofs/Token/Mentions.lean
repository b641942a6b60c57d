import CharacterSheet.Token.Mention

/-!
# The mentions of a text

A mention occurs in a text when its characters do, whatever stands around them. Mentions do not
overlap, so reading from left to right comes upon every one of them. Main statement: the
mentions that are read are those that occur.
-/

namespace CharacterSheet
namespace Mention
open Text

/-- An id has digits, and nothing but digits. -/
def IsProper (m : Mention) : Prop := m.digits ≠ [] ∧ ∀ c ∈ m.digits, isDecimalDigit c = true

/-- The characters of a mention stand one after the other in a text. -/
def OccursIn (m : Mention) (cs : List Char) : Prop := m.IsProper ∧ m.source <:+: cs

/-- The mentions of a text from left to right. -/
def readAll (cs : List Char) : List Mention :=
  match cs with
  | [] => []
  | c :: rest =>
    match h : read? (c :: rest) with
    | some (m, behind) =>
      have := length_lt_of_read? h
      m :: readAll behind
    | none => readAll rest
termination_by cs.length
decreasing_by
  all_goals
    simp only [List.length_cons] at *
    omega

/-! ### Reading at the front -/

theorem readOpening?_opening (s : Subject) (rest : List Char) :
    readOpening? (opening s ++ rest) = some (s, rest) := by
  cases s <;> rfl

theorem readClosing?_closing (p : Property) (rest : List Char) :
    readClosing? (closing p ++ rest) = some (p, rest) := by
  cases p <;> rfl

/-- The digits of an id end where its closing starts. -/
theorem span_digits {m : Mention} (hm : m.IsProper) (rest : List Char) :
    (m.digits ++ (closing m.property ++ rest)).takeWhile isDecimalDigit = m.digits ∧
      (m.digits ++ (closing m.property ++ rest)).dropWhile isDecimalDigit =
        closing m.property ++ rest := by
  have hc : isDecimalDigit ':' = false := by decide
  rw [List.takeWhile_append_of_pos hm.2, List.dropWhile_append_of_pos hm.2]
  simp [closing, hc]

/-- A mention is read when its characters stand at the front. -/
theorem read?_source {m : Mention} (hm : m.IsProper) (rest : List Char) :
    read? (m.source ++ rest) = some (m, rest) := by
  have hd := span_digits hm rest
  have he : m.digits.isEmpty = false := by simpa using hm.1
  simp only [read?, source, List.append_assoc, readOpening?_opening, hd, he,
    readClosing?_closing]
  rfl

/-- What is read as a mention has digits for its id. -/
theorem isProper_of_read? {cs rest : List Char} {m : Mention} (h : read? cs = some (m, rest)) :
    m.IsProper := by
  unfold read? at h
  split at h
  · simp at h
  · next subject body hb =>
    simp only at h
    split at h
    · simp at h
    · next he =>
      obtain ⟨⟨p, r⟩, -, hr⟩ := Option.map_eq_some_iff.mp h
      obtain ⟨rfl, rfl⟩ := Prod.mk.inj hr
      exact ⟨by simpa using he, List.all_eq_true.mp List.all_takeWhile⟩

/-- A mention is read exactly when its characters stand at the front. -/
theorem read?_eq_some_iff {cs rest : List Char} {m : Mention} :
    read? cs = some (m, rest) ↔ m.IsProper ∧ cs = m.source ++ rest := by
  constructor
  · intro h
    exact ⟨isProper_of_read? h, eq_of_read? h⟩
  · rintro ⟨hm, rfl⟩
    exact read?_source hm rest

/-- A mention at the front stays there when the text goes on. -/
theorem read?_append {cs rest : List Char} {m : Mention} (h : read? cs = some (m, rest))
    (more : List Char) : read? (cs ++ more) = some (m, rest ++ more) := by
  obtain ⟨hm, rfl⟩ := read?_eq_some_iff.mp h
  rw [List.append_assoc]
  exact read?_source hm _

/-- What starts no mention starts none when the text is cut off behind it. -/
theorem read?_eq_none_of_append {cs : List Char} (more : List Char)
    (h : read? (cs ++ more) = none) : read? cs = none := by
  cases hc : read? cs with
  | none => rfl
  | some found => simp [read?_append hc more] at h

/-- No mention starts with a character other than the bracket that opens one. -/
theorem read?_of_ne {c : Char} (hc : c ≠ '<') (rest : List Char) : read? (c :: rest) = none := by
  cases h : read? (c :: rest) with
  | none => rfl
  | some found =>
    have := eq_of_read? h
    simp only [source, opening, List.cons_append, List.cons.injEq] at this
    exact absurd this.1 hc

/-! ### Occurrences -/

/-- Behind its first character a mention has no opening bracket. -/
theorem notMem_tail_source {m : Mention} (hm : m.IsProper) : '<' ∉ m.source.tail := by
  have hd : isDecimalDigit '<' = false := by decide
  have hm : '<' ∉ m.digits := fun h ↦ by simpa [hd] using hm.2 _ h
  have hs : '<' ∉ m.subject.word.toList := by cases m.subject <;> decide
  have hp : '<' ∉ m.property.word.toList := by cases m.property <;> decide
  simp [source, opening, closing, hm, hs, hp]

/-- A mention that stands behind the start of another one stands behind its end. -/
theorem exists_gap_of_source_append {m other : Mention} (ho : other.IsProper)
    {front back rest : List Char} (hf : front ≠ [])
    (h : front ++ (m.source ++ back) = other.source ++ rest) :
    ∃ gap, front = other.source ++ gap ∧ rest = gap ++ (m.source ++ back) := by
  rcases List.append_eq_append_iff.mp h with ⟨gap, hg, hr⟩ | ⟨gap, hg, hr⟩
  · cases gap with
    | nil => exact ⟨[], by simpa using hg.symm, by simpa using hr.symm⟩
    | cons c gap =>
      -- the opening bracket of `m` would be among the later characters of `other`
      have hc : c = '<' := by
        simp only [source, opening, List.cons_append, List.cons.injEq] at hr
        exact hr.1.symm
      have : '<' ∈ other.source.tail := by
        rw [hg, List.tail_append_of_ne_nil hf]
        simp [hc]
      exact absurd this (notMem_tail_source ho)
  · exact ⟨gap, hg, hr⟩

theorem readAll_nil : readAll [] = [] := by simp [readAll]

/-- Reading goes on behind a mention. -/
theorem readAll_of_read? {cs rest : List Char} {m : Mention} (h : read? cs = some (m, rest)) :
    readAll cs = m :: readAll rest := by
  cases cs with
  | nil => simp [read?, readOpening?, after?, opening] at h
  | cons c cs =>
    rw [readAll]
    split
    · next found behind hf =>
      rw [h] at hf
      obtain ⟨rfl, rfl⟩ := Prod.mk.inj (Option.some.inj hf)
      rfl
    · next hn => simp [h] at hn

/-- Reading goes on behind a character at which no mention starts. -/
theorem readAll_cons {c : Char} {rest : List Char} (h : read? (c :: rest) = none) :
    readAll (c :: rest) = readAll rest := by
  rw [readAll]
  split
  · next hn => simp [h] at hn
  · rfl

/-- The mentions that are read are those that occur. -/
theorem mem_readAll_iff {cs : List Char} {m : Mention} : m ∈ readAll cs ↔ m.OccursIn cs := by
  fun_induction readAll cs with
  | case1 =>
    have : m.source ≠ [] := List.ne_nil_of_length_pos m.length_source_pos
    simp [OccursIn, this]
  | case2 c rest found behind hf hlt ih =>
    obtain ⟨hp, hcs⟩ := read?_eq_some_iff.mp hf
    rw [List.mem_cons, ih, hcs]
    constructor
    · rintro (rfl | ⟨hm, hi⟩)
      · exact ⟨hp, List.infix_append' [] m.source behind⟩
      · exact ⟨hm, hi.trans (List.suffix_append found.source behind).isInfix⟩
    · rintro ⟨hm, front, back, he⟩
      rw [List.append_assoc] at he
      by_cases hn : front = []
      · subst hn
        have := read?_source hm back
        rw [← List.nil_append (m.source ++ back), he, read?_source hp] at this
        exact .inl (Prod.mk.inj (Option.some.inj this)).1.symm
      · obtain ⟨gap, -, hg⟩ := exists_gap_of_source_append hp hn he
        exact .inr ⟨hm, gap, back, by rw [hg, List.append_assoc]⟩
  | case3 c rest hn ih =>
    rw [ih]
    constructor
    · rintro ⟨hm, hi⟩
      exact ⟨hm, List.infix_cons hi⟩
    · rintro ⟨hm, hi⟩
      refine ⟨hm, (List.infix_cons_iff.mp hi).resolve_left ?_⟩
      rintro ⟨back, hb⟩
      rw [← hb, read?_source hm] at hn
      simp at hn

end Mention

open Mention Text

/-! ### Characters that no mention has -/

/-- No mention has a character. -/
def Mention.IsForeign (c : Char) : Prop := ∀ m : Mention, m.IsProper → c ∉ m.source

/-- Marks, escapes and what stands between the parts of a value. -/
def separators : List Char := ['\'', '"', '\\', ' ', ',', '[', ']', '\x7b', '\x7d']

/-- What stands between the parts of a value is foreign to mentions. -/
theorem isForeign_of_mem {c : Char} (h : c ∈ separators) : IsForeign c := by
  have hdigits : separators.all (fun c ↦ !isDecimalDigit c) = true := by decide
  have hopening (s : Subject) : (opening s).all (fun c ↦ !separators.contains c) = true := by
    cases s <;> decide
  have hclosing (p : Property) : (closing p).all (fun c ↦ !separators.contains c) = true := by
    cases p <;> decide
  intro m hm hc
  rcases List.mem_append.mp hc with hc | hc
  · have := List.all_eq_true.mp (hopening m.subject) c hc
    simp [h] at this
  · rcases List.mem_append.mp hc with hc | hc
    · have := List.all_eq_true.mp hdigits c h
      simp [hm.2 c hc] at this
    · have := List.all_eq_true.mp (hclosing m.property) c hc
      simp [h] at this

/-- A mention stands on one side of a foreign character. -/
theorem Mention.occursIn_append_cons_iff {m : Mention} {front back : List Char} {c : Char}
    (hc : IsForeign c) : m.OccursIn (front ++ c :: back) ↔ m.OccursIn front ∨ m.OccursIn back := by
  constructor
  · rintro ⟨hp, hi⟩
    have hnot := hc m hp
    rcases List.infix_append_iff.mp hi with hi | hi | ⟨start, stop, he, hs, ht⟩
    · exact .inl ⟨hp, hi⟩
    · rcases List.infix_cons_iff.mp hi with hi | hi
      · rcases List.prefix_cons_iff.mp hi with he | ⟨tail, he, -⟩
        · exact absurd he (List.ne_nil_of_length_pos m.length_source_pos)
        · exact absurd (he ▸ List.mem_cons_self) hnot
      · exact .inr ⟨hp, hi⟩
    · rcases List.prefix_cons_iff.mp ht with rfl | ⟨tail, rfl, -⟩
      · rw [List.append_nil] at he
        exact .inl ⟨hp, he ▸ hs.isInfix⟩
      · refine absurd ?_ hnot
        rw [he]
        exact List.mem_append_right _ List.mem_cons_self
  · rintro (⟨hp, hi⟩ | ⟨hp, hi⟩)
    · exact ⟨hp, hi.trans (List.prefix_append front _).isInfix⟩
    · exact ⟨hp, hi.trans ((List.suffix_cons c back).trans (List.suffix_append front _)).isInfix⟩

end CharacterSheet
