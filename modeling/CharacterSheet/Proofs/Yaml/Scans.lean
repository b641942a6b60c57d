import CharacterSheet.Yaml.Value

/-!
# Scans of YAML texts

A scan of a text may be followed token by token: behind each it is a scan of what is left. A plain
scalar ends at a gap, or at a colon before one. Main statement: a text that starts with nought and
has neither a gap nor a colon is one scalar, and is read as what that scalar stands for.
-/

namespace CharacterSheet.Yaml

/-! ### Scans, token by token -/

namespace Scanner

/-- The scan behind the next token, if there is one and no error shows. -/
def advance (s : Scanner) : Option Scanner :=
  match s.atToken with
  | .error _ => none
  | .ok next =>
    match next.cursor.peek? with
    | none => none
    | some ch =>
      match (next.step ch).bind dropStale with
      | .error _ => none
      | .ok after => if s.cursor.offset < after.cursor.offset then some after else none

/-- The scan behind so many tokens. -/
def advances : Nat → Scanner → Option Scanner
  | 0, s => some s
  | n + 1, s => s.advance.bind (advances n)

theorem advance_eq {s next after : Scanner} {ch : Char} (hn : s.atToken = .ok next)
    (hp : next.cursor.peek? = some ch) (hs : (next.step ch).bind dropStale = .ok after)
    (ho : s.cursor.offset < after.cursor.offset) : s.advance = some after := by
  simp only [advance, hn, hp, hs]
  exact if_pos ho

theorem advances_one (s : Scanner) : s.advances 1 = s.advance :=
  Option.bind_fun_some _

/-- Behind some tokens the scan goes on behind more. -/
theorem advances_trans {m n : Nat} {s between after : Scanner} (hm : s.advances m = some between)
    (hn : between.advances n = some after) : s.advances (m + n) = some after := by
  induction m generalizing s with
  | zero =>
    obtain rfl := Option.some.inj hm
    rwa [Nat.zero_add]
  | succ m ih =>
    obtain ⟨next, hs, hm⟩ := Option.bind_eq_some_iff.mp hm
    rw [Nat.succ_add, advances, hs]
    exact ih hm

/-- Behind a token the scan has got on, and it is at the same end as before. -/
theorem run_of_advance {s after : Scanner} (h : s.advance = some after) :
    s.cursor.offset < after.cursor.offset ∧
      ∀ size, s.cursor.offset < size → run size s = run size after := by
  unfold advance at h
  split at h
  · cases h
  · next next hn =>
    split at h
    · cases h
    · next ch hc =>
      split at h
      · cases h
      · next behind hb =>
        split at h
        · next hlt =>
          obtain rfl := Option.some.inj h
          refine ⟨hlt, fun size hs ↦ ?_⟩
          rw [run]
          simp only [hn, hc, hb, hs, hlt, and_self, if_true]
        · cases h

/-- A scan comes to the end that it comes to from behind some of its tokens. -/
theorem run_of_advances {n : Nat} {s after : Scanner} (h : s.advances n = some after) :
    s.cursor.offset ≤ after.cursor.offset ∧
      ∀ size, after.cursor.offset ≤ size → run size s = run size after := by
  induction n generalizing s with
  | zero =>
    obtain rfl := Option.some.inj h
    exact ⟨Nat.le_refl _, fun _ _ ↦ rfl⟩
  | succ n ih =>
    obtain ⟨next, hn, h⟩ := Option.bind_eq_some_iff.mp h
    obtain ⟨hlt, hrun⟩ := run_of_advance hn
    obtain ⟨hle, hmore⟩ := ih h
    refine ⟨by omega, fun size hs ↦ ?_⟩
    rw [hrun size (by omega), hmore size hs]

/-- The scan at a token, behind the gap before it. -/
theorem atToken_eq (s : Scanner) {t : Scanner} {c : Cursor} {allowsKey : Bool}
    (hg : skipGaps s.inBlock s.allowsKey s.cursor = (c, allowsKey))
    (ht : { s with cursor := c, allowsKey }.dropStale = .ok t) :
    s.atToken = .ok (t.unwind c.column) := by
  simp only [atToken, hg, ht]
  rfl

end Scanner

/-! ### Gaps -/

/-- Where no line ends, the gap is over. -/
theorem Scanner.skipGaps_of_lineBreak? {inBlock allowsKey : Bool} {c : Cursor}
    (h : c.behindComment.lineBreak? = none) :
    skipGaps inBlock allowsKey c = (c.behindComment, allowsKey) := by
  rw [skipGaps]
  split
  · next hs =>
    rw [h] at hs
    cases hs
  · rfl

/-- Where one line ends, the gap is over in the next one. -/
theorem Scanner.skipGaps_of_nextLine {inBlock allowsKey : Bool} {c next behind : Cursor} {b : Char}
    (h : c.behindComment.lineBreak? = some (b, next)) (hb : next.behindComment = behind)
    (hn : behind.lineBreak? = none) :
    skipGaps inBlock allowsKey c = (behind, allowsKey || inBlock) := by
  subst hb
  rw [skipGaps]
  split
  · next hs =>
    cases h.symm.trans hs
    exact skipGaps_of_lineBreak? hn
  · next hs => cases h.symm.trans hs

section
variable {cs : List Char} {offset line column : Nat}

/-- There is no gap at the end of a text. -/
theorem Scanner.skipGaps_nil (inBlock allowsKey : Bool) :
    skipGaps inBlock allowsKey ⟨[], offset, line, column⟩ =
      (⟨[], offset, line, column⟩, allowsKey) :=
  skipGaps_of_lineBreak? rfl

/-- A character that a plain scalar goes on with, whatever is behind it. -/
def isSolid (c : Char) : Bool := !(c = ' ' || c = '\t' || isBreak c || c = ':')

/-- A plain scalar goes on to the end of a text in which nothing ends it. -/
theorem readPlainRun_of_all (h : ∀ c ∈ cs, isSolid c = true) (read : List Char) :
    readPlainRun false read ⟨cs, offset, line, column⟩ =
      (cs.reverse ++ read, ⟨[], offset + cs.length, line, column + cs.length⟩) := by
  induction cs generalizing read offset column with
  | nil =>
    rw [readPlainRun]
    rfl
  | cons c cs ih =>
    obtain ⟨hc, hcs⟩ := List.forall_mem_cons.mp h
    simp only [isSolid, Bool.not_eq_true', Bool.or_eq_false_iff] at hc
    obtain ⟨⟨⟨hs, ht⟩, hb⟩, hd⟩ := hc
    have hgo : endsPlain false ⟨c :: cs, offset, line, column⟩ = false := by
      simp [endsPlain, Cursor.seesGap, Cursor.sees, Cursor.peek?, hs, ht, hb, hd]
    have hnext : Cursor.next ⟨c :: cs, offset, line, column⟩ =
        ⟨cs, offset + 1, line, column + 1⟩ := by
      simp [Cursor.next, hb]
    rw [readPlainRun]
    simp only [hgo, hnext, Bool.false_eq_true, if_false, ih hcs]
    simp [Nat.add_assoc, Nat.add_comm 1]

/-- A plain scalar that goes on to the end of a text is all that is left of it. -/
theorem readPlain_of_all {c : Char} (hc : c ≠ '#') (h : ∀ d ∈ c :: cs, isSolid d = true)
    (indent : Int) :
    readPlain false indent [] [] false ⟨c :: cs, offset, line, column⟩ =
      ((c :: cs).reverse, false,
        ⟨[], offset + (c :: cs).length, line, column + (c :: cs).length⟩) := by
  have hrun : readPlainRun false [] ⟨c :: cs, offset, line, column⟩ = _ := readPlainRun_of_all h []
  have hsees : Cursor.sees ⟨c :: cs, offset, line, column⟩ (· = '#') = false := by
    simp [Cursor.sees, Cursor.peek?, hc]
  have hgap : ∀ offset column, readPlainGap ⟨[], offset, line, column⟩ =
      ([], false, ⟨[], offset, line, column⟩) := fun _ _ ↦ rfl
  rw [readPlain]
  simp only [hsees, hrun, hgap]
  simp

end

/-! ### A scalar by itself -/

namespace Scanner

section
variable {s saved : Scanner} {c : Char} {cs : List Char} {offset line column : Nat}

/-- No document starts or ends at another sign. -/
theorem seesMarker_of_ne {cursor : Cursor} {sign : Char} (h : cursor.rest = c :: cs)
    (hs : c ≠ sign) : cursor.seesMarker sign = false := by
  simp [Cursor.seesMarker, h, hs]

/-- A plain scalar starts at nought. -/
theorem step_of_nought (h : s.cursor.rest = '0' :: cs) : s.step '0' = s.plain := by
  have hstarts : s.startsPlain '0' = true := by
    simp [startsPlain, isBreak]
  have hstart : s.cursor.seesMarker '-' = false := seesMarker_of_ne h (by decide)
  have hend : s.cursor.seesMarker '.' = false := seesMarker_of_ne h (by decide)
  simp only [step, hstarts, hstart, hend, if_true]
  rfl

/-- A plain scalar outside of brackets that goes on to the end of a text. -/
theorem plain_of_all (hs : s.saveKey = .ok saved) (hb : saved.inBlock = true)
    (hc : saved.cursor = ⟨c :: cs, offset, line, column⟩) (hn : c ≠ '#')
    (h : ∀ d ∈ c :: cs, isSolid d = true) :
    s.plain = .ok ({ saved with
      cursor := ⟨[], offset + (c :: cs).length, line, column + (c :: cs).length⟩
      allowsKey := false }.emit (.scalar (String.ofList (c :: cs)) true)) := by
  have hread : readPlain false (saved.indent + 1) [] [] false saved.cursor = _ :=
    hc ▸ readPlain_of_all hn h (saved.indent + 1)
  simp only [plain, hs, hb, bind, Except.bind, Bool.not_true, hread, List.reverse_reverse]
  rfl

end

/-- No key has to be there. -/
def AsksForNoKey (s : Scanner) : Prop := ∀ key ∈ s.keys, key.2.required = false

/-- Stale keys are given up when none has to be there. -/
theorem dropStale_of_asksForNoKey {s : Scanner} (h : s.AsksForNoKey) :
    s.dropStale = .ok { s with keys := s.keys.filter fun (_, k) ↦ !s.isStale k } := by
  refine if_neg ?_
  rw [List.any_eq_true]
  rintro ⟨key, hm, hk⟩
  simp [h key hm] at hk

/-- A key that does not have to be there can be given up, and no token is lost. -/
theorem exists_dropKey_of_asksForNoKey {s : Scanner} (h : s.AsksForNoKey) :
    ∃ last, s.dropKey = .ok last ∧ last.tokens = s.tokens := by
  unfold dropKey
  split
  · next k hk =>
    obtain ⟨front, behind, hkeys, -⟩ := List.lookup_eq_some_iff.mp hk
    have hm : (s.depth, k) ∈ s.keys := by
      rw [hkeys]
      exact List.mem_append_right _ List.mem_cons_self
    rw [h _ hm]
    exact ⟨_, rfl, rfl⟩
  · exact ⟨s, rfl, rfl⟩

/-- The scan in front of a text that starts with nought. -/
def atNought (cs : List Char) : Scanner := { cursor := { rest := '0' :: cs } }

/-- The scan behind the only scalar of a text, with what may be a key. -/
def behindScalar (cs : List Char) (keys : List (Int × PossibleKey)) : Scanner where
  cursor := ⟨[], cs.length, 0, cs.length⟩
  allowsKey := false
  keys
  found := [.scalar (String.ofList cs) true, .spot 0]
  spots := 1

/-- Stale keys are given up behind a scalar. -/
theorem exists_dropStale_behindScalar {cs : List Char} {keys : List (Int × PossibleKey)}
    (h : (behindScalar cs keys).AsksForNoKey) :
    ∃ kept, (behindScalar cs kept).AsksForNoKey ∧
      (behindScalar cs keys).dropStale = .ok (behindScalar cs kept) :=
  ⟨keys.filter fun (_, k) ↦ !(behindScalar cs keys).isStale k,
    fun key hm ↦ h key (List.mem_filter.mp hm).1, dropStale_of_asksForNoKey h⟩

/-- At the end of a text its only scalar is its only token. -/
theorem run_behindScalar {cs : List Char} {keys : List (Int × PossibleKey)}
    (h : (behindScalar cs keys).AsksForNoKey) (size : Nat) :
    run size (behindScalar cs keys) = ([.scalar (String.ofList cs) true], none) := by
  obtain ⟨kept, hkept, hstale⟩ := exists_dropStale_behindScalar h
  have hgaps : skipGaps (behindScalar cs keys).inBlock (behindScalar cs keys).allowsKey
      (behindScalar cs keys).cursor = ((behindScalar cs keys).cursor, false) := skipGaps_nil _ _
  have hnext : (behindScalar cs keys).atToken = .ok (behindScalar cs kept) :=
    atToken_eq _ hgaps hstale
  obtain ⟨last, hlast, htokens⟩ := exists_dropKey_of_asksForNoKey hkept
  have hunwind : (behindScalar cs kept).unwind (-1) = behindScalar cs kept := rfl
  have hpeek : (behindScalar cs kept).cursor.peek? = none := rfl
  rw [run]
  simp only [hnext, hpeek, hunwind, hlast, htokens]
  rfl

/-- At the start of a text that starts with nought there is a plain scalar. -/
theorem exists_advance_atNought {cs : List Char} (h : ∀ c ∈ '0' :: cs, isSolid c = true) :
    ∃ keys, (behindScalar ('0' :: cs) keys).AsksForNoKey ∧
      (atNought cs).advance = some (behindScalar ('0' :: cs) keys) := by
  have hgaps : skipGaps (atNought cs).inBlock (atNought cs).allowsKey (atNought cs).cursor =
      ((atNought cs).cursor, true) := skipGaps_of_lineBreak? rfl
  have hnext : (atNought cs).atToken = .ok (atNought cs) := atToken_eq _ hgaps rfl
  have hpeek : (atNought cs).cursor.peek? = some '0' := rfl
  have hkeys : (behindScalar ('0' :: cs) [(0, ⟨0, false, (atNought cs).cursor⟩)]).AsksForNoKey :=
    List.forall_mem_singleton.mpr rfl
  have hstep : (atNought cs).step '0' =
      .ok (behindScalar ('0' :: cs) [(0, ⟨0, false, (atNought cs).cursor⟩)]) := by
    rw [step_of_nought rfl, plain_of_all rfl rfl rfl (by decide) h]
    simp only [behindScalar, emit, Nat.zero_add]
    rfl
  obtain ⟨kept, hkept, hstale⟩ := exists_dropStale_behindScalar hkeys
  refine ⟨kept, hkept, advance_eq hnext hpeek ?_ (Nat.succ_pos _)⟩
  simp only [hstep, Except.bind, hstale]

end Scanner

/-- A text that starts with nought and has nothing in it that ends a plain scalar is one. -/
theorem scanTokens_of_nought {cs : List Char}
    (h : ∀ c ∈ '0' :: cs, isSolid c = true ∧ isPrintable c = true) :
    scanTokens (String.ofList ('0' :: cs)) =
      ([.scalar (String.ofList ('0' :: cs)) true], none) := by
  have hsolid : ∀ c ∈ '0' :: cs, isSolid c = true := fun c hc ↦ (h c hc).1
  have hprintable : ('0' :: cs).all isPrintable = true :=
    List.all_eq_true.mpr fun c hc ↦ (h c hc).2
  have hmark : ¬ ('0' :: cs).head? = some '\ufeff' := by
    rw [List.head?_cons]
    decide
  obtain ⟨keys, hkeys, hadvance⟩ := Scanner.exists_advance_atNought hsolid
  rw [scanTokens, String.toList_ofList]
  simp only [hmark, hprintable, if_true, if_false]
  exact ((Scanner.run_of_advance hadvance).2 _ (Nat.succ_pos _)).trans
    (Scanner.run_behindScalar hkeys _)

/-- Such a text is read as what the scalar stands for. -/
theorem read_of_nought {cs : List Char}
    (h : ∀ c ∈ '0' :: cs, isSolid c = true ∧ isPrintable c = true) :
    read (String.ofList ('0' :: cs)) = Json.ofKey <$> plainValue (String.ofList ('0' :: cs)) := by
  have hdocument (text : String) :
      Reader.document [.scalar text true] = .ok (.scalar text true) := by
    simp only [Reader.document, Reader.node, Reader.alone, List.dropWhile_nil]
  have hnode : readNode (String.ofList ('0' :: cs)) =
      .ok (.scalar (String.ofList ('0' :: cs)) true) := by
    rw [readNode, scanTokens_of_nought h]
    dsimp only
    rw [hdocument]
  rw [read, hnode]
  change (Node.scalar (String.ofList ('0' :: cs)) true).value.mapError _ = _
  rw [Node.value]
  cases plainValue (String.ofList ('0' :: cs)) <;> rfl

end CharacterSheet.Yaml
