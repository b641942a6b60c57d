import CharacterSheet.Proofs.Yaml.Scans

/-!
# Blocks of words in quotes

A word in single quotes is read as it stands. Where nothing before it may still turn out to be a
key, what comes next is a dash, a word that is an item or a value, or a word with a colon behind it,
which is a key and may open a mapping. Main statements: where the scan is behind each of these.
-/

namespace CharacterSheet.Yaml

/-! ### Words in quotes -/

/-- A character that stands for itself between single quotes, and does not end a line. -/
def isWordChar (c : Char) : Bool := !(c = '\'' || isInnerBlank c || isBreak c)

/-- A word between single quotes is read as it stands. -/
theorem readQuoted_word {word rest : List Char} (h : word.all isWordChar = true)
    (hr : rest.head? ≠ some '\'') (read : List Char) (offset line column : Nat) :
    readQuoted .single read ⟨word ++ '\'' :: rest, offset, line, column⟩ =
      .ok (String.ofList (read.reverse ++ word),
        ⟨rest, offset + (word.length + 1), line, column + (word.length + 1)⟩) := by
  induction word generalizing read offset column with
  | nil =>
    have hends : endsQuoted .single ⟨'\'' :: rest, offset, line, column⟩ = true := by
      cases rest with
      | nil => rfl
      | cons c rest =>
        have hc : c ≠ '\'' := fun hc ↦ hr (congrArg some hc)
        simp [endsQuoted, Cursor.sees, Cursor.peek?, Quote.mark, hc]
    rw [List.nil_append, readQuoted, if_pos hends, List.append_nil]
    rfl
  | cons c word ih =>
    rw [List.all_cons, Bool.and_eq_true] at h
    obtain ⟨hc, hword⟩ := h
    simp only [isWordChar, Bool.not_eq_true', Bool.or_eq_false_iff] at hc
    obtain ⟨⟨hq, hi⟩, hb⟩ := hc
    have hne : c ≠ '\'' := of_decide_eq_false hq
    have hends : endsQuoted .single ⟨c :: (word ++ '\'' :: rest), offset, line, column⟩ =
        false := by
      simp [endsQuoted, Cursor.sees, Cursor.peek?, Quote.mark, hne]
    have hpiece : readQuotedPiece .single ⟨c :: (word ++ '\'' :: rest), offset, line, column⟩ =
        .ok ([c], ⟨word ++ '\'' :: rest, offset + 1, line, column + 1⟩) := by
      simp [readQuotedPiece, hi, hb, hne, Cursor.next]
    rw [List.cons_append, readQuoted, hends, if_neg Bool.false_ne_true]
    split
    · next hp => cases hpiece.symm.trans hp
    · next hp =>
      cases hpiece.symm.trans hp
      rw [ih hword]
      simp [Nat.add_assoc, Nat.add_comm 1]

namespace Scanner

/-! ### Steps at marks -/

section
variable {s : Scanner} {cs : List Char}

theorem step_of_quote (h : s.cursor.rest = '\'' :: cs) : s.step '\'' = s.quoted .single := by
  have hstart : s.cursor.seesMarker '-' = false := seesMarker_of_ne h (by decide)
  have hend : s.cursor.seesMarker '.' = false := seesMarker_of_ne h (by decide)
  simp only [step, hstart, hend]
  rfl

theorem step_of_dash (h : s.cursor.rest = '-' :: ' ' :: cs) : s.step '-' = s.dash := by
  have hstart : s.cursor.seesMarker '-' = false := by simp [Cursor.seesMarker, h]
  have hend : s.cursor.seesMarker '.' = false := seesMarker_of_ne h (by decide)
  have hgap : s.cursor.seesGap 1 = true := by simp [Cursor.seesGap, Cursor.peek?, h]
  simp only [step, hstart, hend, hgap]
  rfl

theorem step_of_colon (h : s.cursor.rest = ':' :: cs) (hg : s.cursor.seesGap 1 = true) :
    s.step ':' = s.colon := by
  have hstart : s.cursor.seesMarker '-' = false := seesMarker_of_ne h (by decide)
  have hend : s.cursor.seesMarker '.' = false := seesMarker_of_ne h (by decide)
  simp only [step, hstart, hend, hg, Bool.or_true]
  rfl

end

/-! ### Between blocks -/

/-- A scan outside of brackets where nothing may turn out to be a key. -/
structure IsAtRest (s : Scanner) : Prop where
  depth : s.depth = 0
  keys : s.keys = []

theorem dropStale_of_keys {s : Scanner} (h : s.keys = []) : s.dropStale = .ok s := by
  obtain ⟨cursor, depth, indent, outer, allowsKey, keys, found, spots, filled⟩ := s
  subst h
  rfl

theorem dropKey_of_keys {s : Scanner} (h : s.keys = []) : s.dropKey = .ok s := by
  rw [dropKey, h]
  rfl

/-- Blocks go on that are not indented further. -/
theorem unwind_of_le {s : Scanner} {column : Int} (h : s.indent ≤ column) :
    s.unwind column = s := by
  obtain ⟨cursor, depth, indent, outer, allowsKey, keys, found, spots, filled⟩ := s
  have hin : ¬ column < indent := Int.not_lt.mpr h
  cases outer <;> simp [unwind, unwindFrom, hin]

section
variable {s : Scanner} {word rest : List Char} {offset line column : Nat}

theorem IsAtRest.inBlock_eq (h : s.IsAtRest) : s.inBlock = true := by simp [inBlock, h.depth]

/-- At a token of an open block nothing but the place has changed. -/
theorem IsAtRest.atToken_eq {c : Cursor} {allowsKey : Bool} (h : s.IsAtRest)
    (hg : skipGaps true s.allowsKey s.cursor = (c, allowsKey)) (hi : s.indent ≤ c.column) :
    s.atToken = .ok { s with cursor := c, allowsKey } := by
  have hstale : dropStale { s with cursor := c, allowsKey } = .ok _ := dropStale_of_keys h.keys
  rw [Scanner.atToken_eq s (h.inBlock_eq ▸ hg) hstale]
  exact congrArg _ (unwind_of_le hi)

/-! ### Items -/

/-- The scan behind a dash in a list that is open. -/
def behindDash (s : Scanner) (c : Cursor) : Scanner :=
  { s with
    cursor := c
    allowsKey := true
    found := .blockEntry :: s.found }

theorem IsAtRest.dash_eq (h : s.IsAtRest) (hk : s.allowsKey = true)
    (hi : (s.cursor.column : Int) ≤ s.indent) :
    s.dash = .ok (s.behindDash (s.cursor.skip 1)) := by
  have hopen : s.openBlock s.cursor.column .blockSequence = s := if_neg (Int.not_lt.mpr hi)
  have hdrop : dropKey { s with allowsKey := true } = .ok _ := dropKey_of_keys h.keys
  simp only [dash, h.inBlock_eq, hk, hopen, hdrop, if_true, bind, Except.bind]
  rfl

/-- Next comes a dash in a list that is open. -/
theorem IsAtRest.advance_dash (h : s.IsAtRest)
    (hg : skipGaps true s.allowsKey s.cursor = (⟨'-' :: ' ' :: rest, offset, line, column⟩, true))
    (hi : s.indent = column) (ho : s.cursor.offset ≤ offset) :
    s.advance = some (s.behindDash ⟨' ' :: rest, offset + 1, line, column + 1⟩) := by
  have hdash : dash { s with
        cursor := ⟨'-' :: ' ' :: rest, offset, line, column⟩
        allowsKey := true } = .ok (s.behindDash ⟨' ' :: rest, offset + 1, line, column + 1⟩) :=
    IsAtRest.dash_eq ⟨h.depth, h.keys⟩ rfl (Int.le_of_eq hi.symm)
  refine advance_eq (h.atToken_eq hg (Int.le_of_eq hi)) rfl ?_ (Nat.lt_succ_of_le ho)
  rw [step_of_dash rfl, hdash]
  exact dropStale_of_keys h.keys

/-! ### Values -/

/-- The scan behind a word in quotes that is no key. -/
def behindValue (s : Scanner) (word : List Char) (c : Cursor) : Scanner :=
  { s with
    cursor := c
    allowsKey := false
    found := .scalar (String.ofList word) false :: s.found }

/-- A scalar in single quotes is a word. -/
theorem quoted_word {saved : Scanner} (hs : s.saveKey = .ok saved)
    (hc : saved.cursor = ⟨'\'' :: (word ++ '\'' :: rest), offset, line, column⟩)
    (hw : word.all isWordChar = true) (hr : rest.head? ≠ some '\'') :
    s.quoted .single = .ok (saved.behindValue word
      ⟨rest, offset + (word.length + 2), line, column + (word.length + 2)⟩) := by
  have hnext : saved.cursor.next = ⟨word ++ '\'' :: rest, offset + 1, line, column + 1⟩ := by
    rw [hc]
    rfl
  have hread := readQuoted_word hw hr [] (offset + 1) line (column + 1)
  rw [← hnext] at hread
  simp only [quoted, hs, bind, Except.bind, hread, List.reverse_nil, List.nil_append,
    Nat.add_assoc, Nat.add_left_comm 1]
  rfl

/-- Next comes a word where no key may start. -/
theorem IsAtRest.advance_value (h : s.IsAtRest)
    (hg : skipGaps true s.allowsKey s.cursor =
      (⟨'\'' :: (word ++ '\'' :: rest), offset, line, column⟩, false))
    (hi : s.indent ≤ column) (ho : s.cursor.offset ≤ offset)
    (hw : word.all isWordChar = true) (hr : rest.head? ≠ some '\'') :
    s.advance = some (s.behindValue word
      ⟨rest, offset + (word.length + 2), line, column + (word.length + 2)⟩) := by
  have hquoted := quoted_word (s := { s with
      cursor := ⟨'\'' :: (word ++ '\'' :: rest), offset, line, column⟩
      allowsKey := false }) rfl rfl hw hr
  refine advance_eq (h.atToken_eq hg hi) rfl ?_
    (Nat.lt_of_le_of_lt ho (Nat.lt_add_of_pos_right (Nat.succ_pos _)))
  rw [step_of_quote rfl, hquoted]
  exact dropStale_of_keys h.keys

/-! ### Keys -/

/-- The scan where what starts here may be a key. -/
def atKey (s : Scanner) (c : Cursor) : Scanner :=
  { s with
    cursor := c
    keys := [(0, ⟨s.spots, s.indent = c.column, c⟩)]
    found := .spot s.spots :: s.found
    spots := s.spots + 1 }

theorem IsAtRest.saveKey_eq (h : s.IsAtRest) (hk : s.allowsKey = true) :
    s.saveKey = .ok (s.atKey s.cursor) := by
  obtain ⟨cursor, depth, indent, outer, allowsKey, keys, found, spots, filled⟩ := s
  obtain ⟨rfl, rfl⟩ := h
  obtain rfl : allowsKey = true := hk
  rfl

/-- On the line of a key, and not too far behind it, it may still turn out to be one. -/
theorem dropStale_atKey {c behind : Cursor} {allowsKey : Bool} {found : List Token}
    (hl : c.line = behind.line) (ho : behind.offset ≤ c.offset + 1024) :
    dropStale { s.atKey c with cursor := behind, allowsKey, found } =
      .ok { s.atKey c with cursor := behind, allowsKey, found } := by
  have hfresh : isStale { s.atKey c with cursor := behind, allowsKey, found }
      ⟨s.spots, s.indent = c.column, c⟩ = false := by
    have hfar : ¬ behind.offset - c.offset > 1024 := by omega
    simp [isStale, hl, hfar]
  simp only [atKey] at hfresh ⊢
  simp [dropStale, hfresh]

/-- The scan behind a key in quotes and its colon. -/
def behindKey (s : Scanner) (word : List Char) (column : Nat) (c : Cursor) : Scanner :=
  { s with
    cursor := c
    indent := if s.indent < column then column else s.indent
    outer := if s.indent < column then s.indent :: s.outer else s.outer
    allowsKey := false
    found := .value :: .scalar (String.ofList word) false :: .spot s.spots :: s.found
    spots := s.spots + 1
    filled := (s.spots, if s.indent < column then [.blockMapping, .key] else [.key]) :: s.filled }

/-- At its colon a word turns out to be a key. -/
theorem IsAtRest.colon_atKey {start c : Cursor} (h : s.IsAtRest) :
    ((s.atKey start).behindValue word c).colon =
      .ok (s.behindKey word start.column (c.skip 1)) := by
  obtain ⟨cursor, depth, indent, outer, allowsKey, keys, found, spots, filled⟩ := s
  obtain ⟨rfl, rfl⟩ := h
  by_cases hi : indent < start.column <;>
    simp [colon, atKey, behindValue, behindKey, inBlock, skip, emit, pure, Except.pure, hi]

/-- Next comes a key with its colon, which opens a mapping when it is indented further. -/
theorem IsAtRest.advances_key (h : s.IsAtRest)
    (hg : skipGaps true s.allowsKey s.cursor =
      (⟨'\'' :: (word ++ '\'' :: ':' :: rest), offset, line, column⟩, true))
    (hi : s.indent ≤ column) (ho : s.cursor.offset ≤ offset)
    (hw : word.all isWordChar = true) (hl : word.length ≤ 1022)
    (hr : (Cursor.mk rest 0 0 0).seesGap = true) :
    s.advances 2 = some (s.behindKey word column
      ⟨rest, offset + (word.length + 3), line, column + (word.length + 3)⟩) := by
  have hfar : offset + (word.length + 2) ≤ offset + 1024 := by omega
  have hcolumn : s.indent ≤ ((column + (word.length + 2) : Nat) : Int) := by omega
  -- behind the word, before the colon tells that it is a key
  let start : Cursor := ⟨'\'' :: (word ++ '\'' :: ':' :: rest), offset, line, column⟩
  let behind : Cursor :=
    ⟨':' :: rest, offset + (word.length + 2), line, column + (word.length + 2)⟩
  let middle : Scanner := (s.atKey start).behindValue word behind
  have hstale : middle.dropStale = .ok middle := dropStale_atKey rfl hfar
  have hword : s.advance = some middle := by
    have hsave : saveKey { s with cursor := start, allowsKey := true } =
        .ok (atKey { s with allowsKey := true } start) := IsAtRest.saveKey_eq ⟨h.depth, h.keys⟩ rfl
    refine advance_eq (h.atToken_eq hg hi) rfl ?_
      (Nat.lt_of_le_of_lt ho (Nat.lt_add_of_pos_right (Nat.succ_pos _)))
    rw [step_of_quote rfl, quoted_word hsave rfl hw (by simp)]
    exact hstale
  have hcolon : middle.advance = some (s.behindKey word column
      ⟨rest, offset + (word.length + 3), line, column + (word.length + 3)⟩) := by
    have hgaps : skipGaps middle.inBlock middle.allowsKey middle.cursor = (behind, false) :=
      skipGaps_of_lineBreak? rfl
    have hnext : middle.atToken = .ok middle :=
      (Scanner.atToken_eq middle hgaps hstale).trans (congrArg _ (unwind_of_le hcolumn))
    refine advance_eq hnext rfl ?_ (Nat.lt_succ_self _)
    rw [step_of_colon rfl hr, h.colon_atKey]
    exact dropStale_of_keys h.keys
  rw [advances, hword]
  exact (advances_one middle).trans hcolon

end

end Scanner
end CharacterSheet.Yaml
