import CharacterSheet.Proofs.Preview.Samples
import CharacterSheet.Proofs.Schema.Values
import CharacterSheet.Proofs.Token.Segments

/-!
# Mentions in displayed values

A value that is no text is displayed by its spelling: numbers, words and quoted texts, with blanks,
commas, colons and the brackets of lists and objects between them. A mention in a spelling stands
in one of the texts, because the marks around a text and the escapes in it are no part of a mention.
Main statement: the ids in what is displayed of a value can be read when those in its texts can be.
-/

namespace CharacterSheet

open Mention Text

/-! ### Foreign characters -/

/-- Texts with a foreign character between them have the mentions of both. -/
theorem Mention.AllReadable.append_cons {front back : List Char} {c : Char}
    (hf : AllReadable front) (hb : AllReadable back) (hc : IsForeign c) :
    AllReadable (front ++ c :: back) := by
  intro m hm
  rcases (occursIn_append_cons_iff hc).mp (mem_readAll_iff.mp hm) with h | h
  · exact hf m (mem_readAll_iff.mpr h)
  · exact hb m (mem_readAll_iff.mpr h)

theorem allReadable_nil : AllReadable [] := by simp [AllReadable, readAll_nil]

theorem Mention.AllReadable.cons {back : List Char} {c : Char} (hb : AllReadable back)
    (hc : IsForeign c) : AllReadable (c :: back) := allReadable_nil.append_cons hb hc

/-- A text without an opening bracket has no mentions. -/
theorem allReadable_of_notMem {cs : List Char} (h : '<' ∉ cs) : AllReadable cs := by
  have hr : readAll (cs ++ []) = readAll [] := readAll_append_of_notMem h
  rw [List.append_nil, readAll_nil] at hr
  simp [AllReadable, hr]

/-! ### Quoted texts -/

theorem notMem_toDigits_sixteen (n : Nat) : '<' ∉ Nat.toDigits 16 n := by
  have hdigit : ∀ k < 16, '<' ≠ Nat.digitChar k := by decide
  induction n using Nat.strongRecOn with
  | ind n ih =>
    rw [Nat.toDigits_eq_if (by decide)]
    split
    · next hn => simp [hdigit n hn]
    · simp only [List.mem_append, List.mem_singleton, not_or]
      exact ⟨ih _ (by omega), hdigit _ (Nat.mod_lt _ (by decide))⟩

/-- A character in a quoted text stands for itself, or is written by an escape. -/
theorem quotedChar_cases {mark : Char} (hm : mark ≠ '<') (c : Char) :
    quotedChar mark c = [c] ∨ ∃ escape, quotedChar mark c = '\\' :: escape ∧ '<' ∉ escape := by
  have hhex (letter : Char) (hl : '<' ≠ letter) (width : Nat) :
      '<' ∉ letter :: hexText width c.toNat := by
    simp only [hexText, List.mem_cons, List.mem_append, List.mem_replicate, not_or]
    exact ⟨hl, by simp, notMem_toDigits_sixteen _⟩
  unfold quotedChar
  split
  · next hc =>
    refine .inr ⟨[c], rfl, ?_⟩
    rintro h
    rw [← List.mem_singleton.mp h] at hc
    rcases Bool.or_eq_true_iff.mp hc with hc | hc
    · exact hm (of_decide_eq_true hc).symm
    · exact absurd (of_decide_eq_true hc) (by decide)
  · split
    · exact .inr ⟨['n'], rfl, by decide⟩
    · split
      · exact .inr ⟨['r'], rfl, by decide⟩
      · split
        · exact .inr ⟨['t'], rfl, by decide⟩
        · split
          · exact .inl rfl
          · split
            · exact .inr ⟨_, rfl, hhex 'x' (by decide) 2⟩
            · split
              · exact .inr ⟨_, rfl, hhex 'u' (by decide) 4⟩
              · exact .inr ⟨_, rfl, hhex 'U' (by decide) 8⟩

/-- What starts with a character stands behind a run that does not have it. -/
theorem infix_of_infix_append_of_notMem {c : Char} {l front back : List Char}
    (h : c :: l <:+: front ++ back) (hc : c ∉ front) : c :: l <:+: back := by
  induction front with
  | nil => exact h
  | cons d front ih =>
    rcases List.infix_cons_iff.mp h with h | h
    · exact absurd (List.cons_prefix_cons.mp h).1 (List.ne_of_not_mem_cons hc)
    · exact ih h (List.not_mem_of_not_mem_cons hc)

/-- A code point in a quoted text is written as what is shown of it, or by an escape. -/
theorem CodePoint.quoted_cases {mark : Char} (hm : mark ≠ '<') (p : CodePoint) :
    p.quoted mark = [p.shown] ∨ ∃ escape, p.quoted mark = '\\' :: escape ∧ '<' ∉ escape := by
  cases p with
  | char c => exact quotedChar_cases hm c
  | surrogate n =>
    refine .inr ⟨_, rfl, ?_⟩
    simp only [hexText, List.mem_cons, List.mem_append, List.mem_replicate, not_or]
    exact ⟨by decide, by simp, notMem_toDigits_sixteen _⟩

section
variable {mark : Char} (hm : mark ≠ '<')
include hm

/-- What is read at the front of a quoted text without marks and escapes stands there. -/
theorem prefix_of_prefix_quoted {l : List Char} {ps : List CodePoint}
    (hl : ∀ c ∈ l, c ≠ mark ∧ c ≠ '\\')
    (h : l <+: ps.flatMap (CodePoint.quoted mark) ++ [mark]) : l <+: ps.map CodePoint.shown := by
  induction ps generalizing l with
  | nil =>
    rcases List.prefix_cons_iff.mp h with rfl | ⟨tail, rfl, -⟩
    · exact List.nil_prefix
    · exact absurd rfl (hl mark List.mem_cons_self).1
  | cons p ps ih =>
    rw [List.flatMap_cons, List.append_assoc] at h
    rcases CodePoint.quoted_cases hm p with hq | ⟨escape, hq, -⟩
    · rw [hq] at h
      rcases List.prefix_cons_iff.mp h with rfl | ⟨tail, rfl, ht⟩
      · exact List.nil_prefix
      · exact List.cons_prefix_cons.mpr ⟨rfl, ih (List.forall_mem_cons.mp hl).2 ht⟩
    · rw [hq] at h
      rcases List.prefix_cons_iff.mp h with rfl | ⟨tail, rfl, -⟩
      · exact List.nil_prefix
      · exact absurd rfl (hl '\\' List.mem_cons_self).2

/-- What occurs in a quoted text without marks and escapes occurs in the text. -/
theorem infix_of_infix_quoted {l : List Char} {ps : List CodePoint}
    (hl : ∀ c ∈ '<' :: l, c ≠ mark ∧ c ≠ '\\')
    (h : '<' :: l <:+: ps.flatMap (CodePoint.quoted mark) ++ [mark]) :
    '<' :: l <:+: ps.map CodePoint.shown := by
  induction ps with
  | nil =>
    have hfront : '<' ∉ [mark] := by simpa using hm.symm
    exact infix_of_infix_append_of_notMem (show _ <:+: [mark] ++ [] from h) hfront
  | cons p ps ih =>
    rcases CodePoint.quoted_cases hm p with hq | ⟨escape, hq, he⟩
    · rcases List.infix_cons_iff.mp (by simpa [hq] using h) with hp | hi
      · exact (prefix_of_prefix_quoted hm hl (by simpa [hq] using hp)).isInfix
      · exact List.infix_cons (ih hi)
    · rw [List.flatMap_cons, List.append_assoc, hq] at h
      have hb : '<' ∉ '\\' :: escape := List.not_mem_cons_of_ne_of_not_mem (by decide) he
      exact List.infix_cons (ih (infix_of_infix_append_of_notMem h hb))

end

/-- The mentions in quoted code points are those of what is shown of them. -/
theorem allReadable_quotePoints {ps : List CodePoint} {tail : List Char}
    (h : ReadableIds (shownText ps)) (ht : AllReadable tail) :
    AllReadable ((quotePoints ps).toList ++ tail) := by
  obtain ⟨mark, hmark, hne, hq⟩ : ∃ mark ∈ separators, mark ≠ '<' ∧
      (quotePoints ps).toList = mark :: (ps.flatMap (CodePoint.quoted mark) ++ [mark]) := by
    rw [quotePoints, String.toList_ofList]
    split
    · exact ⟨'"', by decide, by decide, rfl⟩
    · exact ⟨'\'', by decide, by decide, rfl⟩
  have hinside : AllReadable (ps.flatMap (CodePoint.quoted mark)) := by
    intro m hm
    obtain ⟨hp, hi⟩ := mem_readAll_iff.mp hm
    have hforeign : ∀ c ∈ m.source, c ≠ mark ∧ c ≠ '\\' := by
      intro c hc
      constructor
      · rintro rfl
        exact isForeign_of_mem hmark m hp hc
      · rintro rfl
        exact isForeign_of_mem (by decide) m hp hc
    have hshown := infix_of_infix_quoted hne hforeign (List.infix_append_of_infix_left hi)
    exact h m ⟨hp, by rwa [shownText, String.toList_ofList]⟩
  have hmark := isForeign_of_mem hmark
  rw [hq, List.cons_append, List.append_assoc, List.singleton_append]
  exact (hinside.append_cons ht hmark).cons hmark

/-- The mentions in a quoted text are those of the text. -/
theorem allReadable_quote {s : String} {tail : List Char} (h : ReadableIds s)
    (ht : AllReadable tail) : AllReadable ((quote s).toList ++ tail) := by
  rw [← quotePoints_points]
  exact allReadable_quotePoints (by rwa [shownText_points]) ht

/-! ### Spellings -/

/-- Parts with commas and blanks between them have the mentions of the parts. -/
theorem allReadable_intercalate {parts : List String}
    (h : ∀ part ∈ parts, AllReadable part.toList) :
    AllReadable (", ".intercalate parts).toList := by
  rw [String.toList_intercalate]
  induction parts with
  | nil => simp [AllReadable, readAll_nil]
  | cons part parts ih =>
    obtain ⟨hp, hs⟩ := List.forall_mem_cons.mp h
    cases parts with
    | nil => simpa using hp
    | cons next parts =>
      rw [List.map_cons, List.map_cons, List.intercalate_cons_cons, List.append_assoc]
      have hblank : IsForeign ' ' := isForeign_of_mem (by decide)
      have hcomma : IsForeign ',' := isForeign_of_mem (by decide)
      exact hp.append_cons ((ih hs).cons hblank) hcomma

/-- Parts between two brackets have the mentions of the parts. -/
theorem allReadable_bracketed {parts : List String} {left right : Char} (hl : left ∈ separators)
    (hr : right ∈ separators) (h : ∀ part ∈ parts, AllReadable part.toList) :
    AllReadable (left :: ((", ".intercalate parts).toList ++ [right])) :=
  ((allReadable_intercalate h).append_cons allReadable_nil (isForeign_of_mem hr)).cons
    (isForeign_of_mem hl)

/-- The spelling of a number has no mentions. -/
theorem Number.notMem_spelling (n : Number) : '<' ∉ n.spelling.toList :=
  (NoBracket.of_isNumberText n.isNumberText_spelling).1

namespace Json

mutual

/-- The texts in a value, at every depth, and among them the keys of objects. -/
def texts : Json → List String
  | .string s => [s]
  | .unpaired ps => [shownText ps]
  | .array xs => itemTexts xs
  | .object fs => fieldTexts fs
  | .table entries => entryTexts entries
  | _ => []

/-- The texts in items. -/
def itemTexts : List Json → List String
  | [] => []
  | x :: xs => texts x ++ itemTexts xs

/-- The texts in fields. -/
def fieldTexts : List (String × Json) → List String
  | [] => []
  | (k, v) :: fs => k :: texts v ++ fieldTexts fs

/-- The texts in entries, among them those that are keys. -/
def entryTexts : List (Key × Json) → List String
  | [] => []
  | (k, v) :: es => k.text?.toList ++ texts v ++ entryTexts es

end

/-- The ids in the texts of a value can be read. -/
def HasReadableIds (v : Json) : Prop := ∀ s ∈ v.texts, ReadableIds s

mutual

/-- The ids in the spelling of a plain value can be read when those in its texts can be. -/
theorem allReadable_spelling (v : Json) (hv : v.isPlain = true) (h : ∀ s ∈ v.texts, ReadableIds s) :
    AllReadable v.spelling.toList := by
  match v with
  | .null => exact allReadable_of_notMem (by decide)
  | .bool b => exact allReadable_of_notMem (by cases b <;> decide)
  | .number n => exact allReadable_of_notMem n.notMem_spelling
  | .string s =>
    have := allReadable_quote (h s List.mem_cons_self) allReadable_nil
    rwa [List.append_nil] at this
  | .unpaired ps =>
    have := allReadable_quotePoints (h _ List.mem_cons_self) allReadable_nil
    rwa [List.append_nil] at this
  | .array xs =>
    rw [spelling, String.toList_append, String.toList_append]
    exact allReadable_bracketed (by decide) (by decide) (allReadable_itemSpellings xs hv h)
  | .object fs =>
    rw [spelling, String.toList_append, String.toList_append]
    exact allReadable_bracketed (by decide) (by decide) (allReadable_fieldSpellings fs hv h)
  | .table _ => cases hv

theorem allReadable_itemSpellings (xs : List Json) (hv : arePlainItems xs = true)
    (h : ∀ s ∈ itemTexts xs, ReadableIds s) :
    ∀ part ∈ itemSpellings xs, AllReadable part.toList := by
  match xs with
  | [] => simp [itemSpellings]
  | x :: xs =>
    obtain ⟨hx, hs⟩ := Bool.and_eq_true_iff.mp hv
    obtain ⟨htx, hts⟩ := List.forall_mem_append.mp h
    exact List.forall_mem_cons.mpr
      ⟨allReadable_spelling x hx htx, allReadable_itemSpellings xs hs hts⟩

theorem allReadable_fieldSpellings (fs : List (String × Json)) (hv : arePlainFields fs = true)
    (h : ∀ s ∈ fieldTexts fs, ReadableIds s) :
    ∀ part ∈ fieldSpellings fs, AllReadable part.toList := by
  match fs with
  | [] => simp [fieldSpellings]
  | (k, v) :: fs =>
    obtain ⟨hv, hs⟩ := Bool.and_eq_true_iff.mp hv
    obtain ⟨hk, h⟩ := List.forall_mem_cons.mp h
    obtain ⟨htv, hts⟩ := List.forall_mem_append.mp h
    refine List.forall_mem_cons.mpr ⟨?_, allReadable_fieldSpellings fs hs hts⟩
    rw [String.toList_append, String.toList_append, List.append_assoc]
    have hcolon : AllReadable [':'] := allReadable_of_notMem (by decide)
    exact allReadable_quote hk
      (hcolon.append_cons (allReadable_spelling v hv htv) (isForeign_of_mem (by decide)))

end

/-- The ids in what is displayed of a plain value can be read when those in its texts can be. -/
theorem readableIds_display {v : Json} (hv : v.isPlain = true) (h : v.HasReadableIds) :
    ReadableIds v.display := by
  cases v with
  | string s => exact h s List.mem_cons_self
  | unpaired ps => exact h _ List.mem_cons_self
  | _ => exact fun m hm ↦ allReadable_spelling _ hv h m (mem_readAll_iff.mpr hm)

end Json
end CharacterSheet
