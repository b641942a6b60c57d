import CharacterSheet.Command.Run
import CharacterSheet.Proofs.Yaml.Blocks

/-!
# Integers to base sixteen

An integer in decimal digits is not read when it has too many of them. In a YAML text it may also
be written to base sixteen, and then any number of digits is read. Main statement: a file that gives
the id of a stat to base sixteen is read as a schema, whatever the digits are.
-/

namespace CharacterSheet
namespace Yaml

/-! ### A document with an id to base sixteen -/

/-- A document with one stat up to the id of that stat. -/
def leadToId : List Char := "'stats':\n- 'type': 'calculated'\n  'formula': '1'\n  'id': ".toList

/-- The document with an id. -/
def documentWithId (id : List Char) : String := String.ofList (leadToId ++ id)

/-- The scan of the document in its last line, at a cursor and behind some tokens of the id. -/
def inLastLine (cursor : Cursor) (found : List Token) : Scanner where
  cursor
  indent := 2
  outer := [0, -1]
  allowsKey := false
  found := found ++ [
    .value, .scalar "id" false, .spot 3, .scalar "1" false, .value, .scalar "formula" false,
    .spot 2, .scalar "calculated" false, .value, .scalar "type" false, .spot 1, .blockEntry, .value,
    .scalar "stats" false, .spot 0]
  spots := 4
  filled := [(3, [.key]), (2, [.key]), (1, [.blockMapping, .key]), (0, [.blockMapping, .key])]

/-- The scan in front of the id. -/
def atId (rest : List Char) : Scanner := inLastLine ⟨rest, 57, 3, 8⟩ []

/-- The scan behind the id, at the end of the document. -/
def behindId (id : List Char) : Scanner :=
  inLastLine ⟨[], 57 + id.length, 3, 8 + id.length⟩ [.scalar (String.ofList id) true]

open Scanner in
/-- The scan comes to the blank before the id by eleven tokens, whatever the id is. -/
theorem advances_document (rest : List Char) :
    Scanner.advances 11 { cursor := { rest := leadToId ++ rest } } =
      some (inLastLine ⟨' ' :: rest, 56, 3, 7⟩ []) := by
  have hends : some '\n' ≠ some '\'' := by decide
  -- what is left of the text behind each token, and the scans there
  let afterId := ' ' :: rest
  let afterOne := '\n' :: ' ' :: ' ' :: '\'' :: ("id".toList ++ '\'' :: ':' :: afterId)
  let afterFormula := ' ' :: '\'' :: ("1".toList ++ '\'' :: afterOne)
  let afterCalculated :=
    '\n' :: ' ' :: ' ' :: '\'' :: ("formula".toList ++ '\'' :: ':' :: afterFormula)
  let afterType := ' ' :: '\'' :: ("calculated".toList ++ '\'' :: afterCalculated)
  let afterDash := ' ' :: '\'' :: ("type".toList ++ '\'' :: ':' :: afterType)
  let afterStats := '\n' :: '-' :: afterDash
  let stats := Scanner.behindKey { cursor := { rest := leadToId ++ rest } } "stats".toList 0
    ⟨afterStats, 8, 0, 8⟩
  let dash := stats.behindDash ⟨afterDash, 10, 1, 1⟩
  let type := dash.behindKey "type".toList 2 ⟨afterType, 18, 1, 9⟩
  let calculated := type.behindValue "calculated".toList ⟨afterCalculated, 31, 1, 22⟩
  let formula := calculated.behindKey "formula".toList 2 ⟨afterFormula, 44, 2, 12⟩
  let one := formula.behindValue "1".toList ⟨afterOne, 48, 2, 16⟩
  let id := one.behindKey "id".toList 2 ⟨afterId, 56, 3, 7⟩
  have hstats : Scanner.advances 2 { cursor := { rest := leadToId ++ rest } } = some stats :=
    IsAtRest.advances_key ⟨rfl, rfl⟩ (skipGaps_of_lineBreak? rfl) (by decide : (-1 : Int) ≤ 0)
      (Nat.le_refl 0) (by decide) (by decide) rfl
  have hdash : stats.advance = some dash :=
    IsAtRest.advance_dash ⟨rfl, rfl⟩ (skipGaps_of_nextLine rfl rfl rfl) rfl (by decide : 8 ≤ 9)
  have htype : dash.advances 2 = some type :=
    IsAtRest.advances_key ⟨rfl, rfl⟩ (skipGaps_of_lineBreak? rfl) (by decide : (0 : Int) ≤ 2)
      (by decide : 10 ≤ 11) (by decide) (by decide) rfl
  have hcalculated : type.advance = some calculated :=
    IsAtRest.advance_value ⟨rfl, rfl⟩ (skipGaps_of_lineBreak? rfl) (by decide : (2 : Int) ≤ 10)
      (by decide : 18 ≤ 19) (by decide) hends
  have hformula : calculated.advances 2 = some formula :=
    IsAtRest.advances_key ⟨rfl, rfl⟩ (skipGaps_of_nextLine rfl rfl rfl) (Int.le_refl 2)
      (by decide : 31 ≤ 34) (by decide) (by decide) rfl
  have hone : formula.advance = some one :=
    IsAtRest.advance_value ⟨rfl, rfl⟩ (skipGaps_of_lineBreak? rfl) (by decide : (2 : Int) ≤ 13)
      (by decide : 44 ≤ 45) (by decide) hends
  have hid : one.advances 2 = some id :=
    IsAtRest.advances_key ⟨rfl, rfl⟩ (skipGaps_of_nextLine rfl rfl rfl) (Int.le_refl 2)
      (by decide : 48 ≤ 51) (by decide) (by decide) rfl
  rw [← advances_one] at hdash hcalculated hone
  exact advances_trans (advances_trans (advances_trans (advances_trans (advances_trans
    (advances_trans hstats hdash) htype) hcalculated) hformula) hone) hid

/-- The id is one plain scalar when nothing in it ends one. -/
theorem step_atId {cs : List Char} (h : ∀ c ∈ '0' :: cs, isSolid c = true) :
    (atId ('0' :: cs)).step '0' = .ok (behindId ('0' :: cs)) := by
  rw [Scanner.step_of_nought rfl, Scanner.plain_of_all rfl rfl rfl (by decide) h]
  rfl

theorem advance_inLastLine {cs : List Char} (h : ∀ c ∈ '0' :: cs, isSolid c = true) :
    (inLastLine ⟨' ' :: '0' :: cs, 56, 3, 7⟩ []).advance = some (behindId ('0' :: cs)) := by
  have hgaps : Scanner.skipGaps true false ⟨' ' :: '0' :: cs, 56, 3, 7⟩ =
      ((atId ('0' :: cs)).cursor, false) := Scanner.skipGaps_of_lineBreak? rfl
  have hstale : (atId ('0' :: cs)).dropStale = .ok (atId ('0' :: cs)) := rfl
  have hnext : (inLastLine ⟨' ' :: '0' :: cs, 56, 3, 7⟩ []).atToken = .ok (atId ('0' :: cs)) :=
    Scanner.atToken_eq (inLastLine ⟨' ' :: '0' :: cs, 56, 3, 7⟩ []) hgaps hstale
  have hpeek : (atId ('0' :: cs)).cursor.peek? = some '0' := rfl
  have hdrop : (behindId ('0' :: cs)).dropStale = .ok (behindId ('0' :: cs)) := rfl
  refine Scanner.advance_eq hnext hpeek ?_ (Nat.lt_add_right _ (Nat.lt_succ_self 56))
  simp only [step_atId h, Except.bind, hdrop]

/-- The tokens of the document with an id. -/
def tokensWithId (id : String) : List Token := [
  .blockMapping, .key, .scalar "stats" false, .value, .blockEntry,
  .blockMapping, .key, .scalar "type" false, .value, .scalar "calculated" false,
  .key, .scalar "formula" false, .value, .scalar "1" false,
  .key, .scalar "id" false, .value, .scalar id true, .blockEnd, .blockEnd]

/-- Behind the id the blocks of the document end. -/
theorem run_behindId (size : Nat) (id : List Char) :
    Scanner.run size (behindId id) = (tokensWithId (String.ofList id), none) := by
  have hgaps : Scanner.skipGaps (behindId id).inBlock (behindId id).allowsKey
      (behindId id).cursor = ((behindId id).cursor, false) := Scanner.skipGaps_nil _ _
  have hstale : (behindId id).dropStale = .ok (behindId id) := rfl
  have hunwind : (behindId id).unwind ((8 + id.length : Nat) : Int) = behindId id := by
    have hin : ¬ ((8 + id.length : Nat) : Int) < 2 := by omega
    simp only [Scanner.unwind, behindId, inLastLine, Scanner.inBlock, Scanner.unwindFrom, hin,
      if_false]
    rfl
  have hnext : (behindId id).atToken = .ok (behindId id) :=
    (Scanner.atToken_eq _ hgaps hstale).trans (congrArg _ hunwind)
  have hpeek : (behindId id).cursor.peek? = none := rfl
  rw [Scanner.run]
  simp only [hnext, hpeek]
  rfl

/-! ### What the document is read as -/

/-- The node of the document with an id. -/
def nodeWithId (id : String) : Node :=
  .mapping [(.scalar "stats" false, .list [.mapping [
    (.scalar "type" false, .scalar "calculated" false),
    (.scalar "formula" false, .scalar "1" false),
    (.scalar "id" false, .scalar id true)]])]

theorem document_tokensWithId (id : String) :
    Reader.document (tokensWithId id) = .ok (nodeWithId id) := by
  cbv

/-- The value of the document with an id. -/
def valueWithId (id : Int) : Json :=
  .object [("stats", .array [.object [
    ("type", .string "calculated"), ("formula", .string "1"), ("id", .number (.int id))]])]

theorem value_nodeWithId {id : String} {n : Int} (h : plainValue id = .ok (.number (.int n))) :
    (nodeWithId id).value = .ok (valueWithId n) := by
  simp only [nodeWithId, Node.value, Node.merged, Node.own, Node.isMerge, Node.values, h]
  rfl

/-! ### Rows of digits -/

/-- Zeros behind digits multiply their value by the base. -/
theorem valueIn_append_zeros (base : Nat) (cs : List Char) (n : Nat) :
    valueIn base (cs ++ List.replicate n '0') = valueIn base cs * base ^ n := by
  induction n with
  | zero => simp
  | succ n ih =>
    have hzero : hexValue '0' = 0 := rfl
    calc
      _ = base * valueIn base (cs ++ List.replicate n '0') + hexValue '0' := by
        rw [List.replicate_succ', ← List.append_assoc, valueIn, List.foldl_append]
        rfl
      _ = _ := by rw [ih, hzero, Nat.add_zero, Nat.pow_succ', Nat.mul_left_comm]

theorem isSolid_of_isHex {c : Char} (h : isHex c = true) : isSolid c = true := by
  cases hs : isSolid c with
  | true => rfl
  | false =>
    simp only [isSolid, isBreak, Bool.not_eq_false', Bool.or_eq_true, decide_eq_true_eq] at hs
    rcases hs with ((rfl | rfl) | ((rfl | rfl) | rfl) | rfl) | rfl <;> exact absurd h (by decide)

theorem isPrintable_of_isHex {c : Char} (h : isHex c = true) : isPrintable c = true := by
  have hcode : c.val.toNat = c.toNat := rfl
  have hrange : 0x20 ≤ c.toNat ∧ c.toNat ≤ 0x7e := by
    simp only [isHex, Char.isDigit, Bool.or_eq_true, Bool.and_eq_true, decide_eq_true_eq,
      Char.le_def, ge_iff_le, UInt32.le_iff_toNat_le, hcode] at h
    simp at h
    omega
  simp [isPrintable, hrange]

section
variable {cs : List Char} (h : ∀ c ∈ cs, isHex c = true)
include h

/-- The tokens of the document are told, whatever the digits are. -/
theorem scanTokens_documentWithId :
    scanTokens (documentWithId ('0' :: 'x' :: cs)) =
      (tokensWithId (String.ofList ('0' :: 'x' :: cs)), none) := by
  have hsolid : ∀ c ∈ '0' :: 'x' :: cs, isSolid c = true :=
    List.forall_mem_cons.mpr ⟨by decide, List.forall_mem_cons.mpr ⟨by decide, fun c hc ↦
      isSolid_of_isHex (h c hc)⟩⟩
  have hbody : (documentWithId ('0' :: 'x' :: cs)).toList = leadToId ++ '0' :: 'x' :: cs :=
    String.toList_ofList
  have hmark : ¬ (leadToId ++ '0' :: 'x' :: cs).head? = some '\ufeff' := by
    rw [show (leadToId ++ '0' :: 'x' :: cs).head? = some '\'' from rfl]
    decide
  have hprintable : (leadToId ++ '0' :: 'x' :: cs).all isPrintable = true := by
    have hlead : leadToId.all isPrintable = true := by decide +kernel
    have hcs : cs.all isPrintable = true :=
      List.all_eq_true.mpr fun c hc ↦ isPrintable_of_isHex (h c hc)
    rw [List.all_append, hlead, List.all_cons, List.all_cons, hcs]
    decide
  have hsize : 56 < (leadToId ++ '0' :: 'x' :: cs).length := by
    have hlead : leadToId.length = 57 := by decide +kernel
    rw [List.length_append, hlead]
    omega
  have hto := (Scanner.run_of_advances (advances_document ('0' :: 'x' :: cs))).2
  have hbehind := (Scanner.run_of_advance (advance_inLastLine hsolid)).2
  rw [scanTokens, hbody]
  simp only [hmark, hprintable, if_true, if_false]
  rw [hto _ (Nat.le_of_lt hsize), hbehind _ hsize, run_behindId]

/-- A row of digits behind the mark of the base is an integer. -/
theorem plainValue_hexadecimal (hne : cs ≠ []) :
    plainValue (String.ofList ('0' :: 'x' :: cs)) = .ok (.number (.int (valueIn 16 cs))) := by
  have hword (words : List String) (hw : ∀ w ∈ words, w.toList.head? ≠ some '0') :
      words.contains (String.ofList ('0' :: 'x' :: cs)) = false := by
    rw [List.contains_eq_mem]
    exact decide_eq_false fun hm ↦ hw _ hm (by simp)
  have hrow : isRow isHex cs = true := by
    rw [isRow, List.isEmpty_eq_false_iff.mpr hne]
    exact List.all_eq_true.mpr fun c hc ↦ by rw [h c hc]; rfl
  have hplain : plainDigits cs = cs := by
    refine List.filter_eq_self.mpr fun c hc ↦ ?_
    have : c ≠ '_' := by
      rintro rfl
      exact absurd (h _ hc) (by decide)
    simpa using this
  have hsign : Numeral.splitSign ('0' :: 'x' :: cs) = (false, '0' :: 'x' :: cs) := rfl
  have hfloat : float? ('0' :: 'x' :: cs) = none := by
    have hpoint : ('0' :: 'x' :: cs).contains '.' = false := by
      rw [List.contains_eq_mem]
      refine decide_eq_false fun hm ↦ ?_
      have : '.' ∈ cs := by simpa using hm
      exact absurd (h _ this) (by decide)
    have hdecimal : decimal? false false ('0' :: 'x' :: cs) = none := rfl
    have hgroups : sexagesimal? false ('0' :: 'x' :: cs) = none := by
      simp only [sexagesimal?, hpoint, Bool.false_and, Bool.false_eq_true, if_false]
    simp only [float?, hsign, hword infinityWords (by decide), hword notANumberWords (by decide),
      hgroups]
    simpa using hdecimal
  have hmagnitude : magnitude? ('0' :: 'x' :: cs) = some (.ok (valueIn 16 cs)) := by
    have hdigits : digitsIn 16 cs = .ok (valueIn 16 cs) := by
      rw [digitsIn, hplain]
      simp [hne]
    simp only [magnitude?, hrow, if_true, hdigits]
  rw [plainValue, hword _ (by decide), hword _ (by decide), hword _ (by decide),
    hword _ (by decide)]
  simp only [Bool.false_eq_true, if_false, String.toList_ofList, hfloat, hsign, hmagnitude]
  rfl

end

/-- A document that gives the id of a stat to base sixteen is read, whatever the digits are. -/
theorem read_documentWithId {cs : List Char} (hne : cs ≠ []) (h : ∀ c ∈ cs, isHex c = true) :
    read (documentWithId ('0' :: 'x' :: cs)) = .ok (valueWithId (valueIn 16 cs)) := by
  have hnode : readNode (documentWithId ('0' :: 'x' :: cs)) =
      .ok (nodeWithId (String.ofList ('0' :: 'x' :: cs))) := by
    rw [readNode, scanTokens_documentWithId h]
    dsimp only
    rw [document_tokensWithId]
  rw [read, hnode]
  simp only [bind, Except.bind, value_nodeWithId (plainValue_hexadecimal h hne)]
  rfl

end Yaml

/-- The schema of the document with an id. -/
def GameSystem.withId (id : Int) : GameSystem := { stats := [{ id, detail := .calculated "1" {} }] }

theorem GameSystem.read_valueWithId (id : Int) :
    GameSystem.read (Yaml.valueWithId id) = .ok (withId id) := by
  cbv

/-- A store with the document in its one file. -/
def FileStore.withId (id : List Char) : FileStore :=
  { files := [(["s.yaml"], Yaml.documentWithId id)] }

/-- A file that gives the id of a stat to base sixteen is read, whatever the digits are. -/
theorem FileStore.readSystem_withId {cs : List Char} (hne : cs ≠ [])
    (h : ∀ c ∈ cs, Yaml.isHex c = true) :
    (withId ('0' :: 'x' :: cs)).readSystem ⟨false, ["s.yaml"]⟩ =
      .ok (.withId (Yaml.valueIn 16 cs)) := by
  have hfed : Text.lineFed (Yaml.documentWithId ('0' :: 'x' :: cs)) =
      Yaml.documentWithId ('0' :: 'x' :: cs) := by
    have hreturn : '\r' ∉ Yaml.leadToId ++ '0' :: 'x' :: cs := by
      have hlead : '\r' ∉ Yaml.leadToId := by decide +kernel
      have hcs : '\r' ∉ cs := fun hm ↦ absurd (h _ hm) (by decide)
      simp [hlead, hcs]
    rw [Text.lineFed, Yaml.documentWithId, String.toList_ofList,
      Text.withLineFeeds_of_notMem hreturn]
  have htext : (withId ('0' :: 'x' :: cs)).read ⟨false, ["s.yaml"]⟩ =
      .ok (Yaml.documentWithId ('0' :: 'x' :: cs)) := by
    have hread : (withId ('0' :: 'x' :: cs)).read ⟨false, ["s.yaml"]⟩ =
        .ok (Text.lineFed (Yaml.documentWithId ('0' :: 'x' :: cs))) := rfl
    rw [hread, hfed]
  have hformat : DocumentFormat.ofPath ⟨false, ["s.yaml"]⟩ = .yaml := by decide +kernel
  have hread : DocumentFormat.yaml.read (Yaml.documentWithId ('0' :: 'x' :: cs)) =
      .ok (Yaml.valueWithId (Yaml.valueIn 16 cs)) := by
    change ((Yaml.read _).mapError _).map _ = _
    rw [Yaml.read_documentWithId hne h]
    rfl
  have hdocument : (withId ('0' :: 'x' :: cs)).readDocument ⟨false, ["s.yaml"]⟩ =
      .ok (Yaml.valueWithId (Yaml.valueIn 16 cs)) := by
    rw [readDocument, htext, hformat]
    change (DocumentFormat.yaml.read _).mapError _ = _
    rw [hread]
    rfl
  simp only [readSystem, hdocument, bind, Except.bind, GameSystem.read_valueWithId]
  rfl

end CharacterSheet
