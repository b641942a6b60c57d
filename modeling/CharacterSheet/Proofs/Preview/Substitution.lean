import CharacterSheet.Proofs.Preview.Payload
import CharacterSheet.Proofs.Preview.Samples
import CharacterSheet.Proofs.Schema.Reading
import CharacterSheet.Proofs.Token.Coverage

/-!
# References that are replaced

In the body of an expression no bracket closes but those of its mentions, and a sample has no
bracket. So where samples have taken the places of the values of stats, nothing has become a mention
that was none before. Main statements: the mentions that are left are others of the body, and
references are replaced exactly when their ids can be read and something is found for each.
-/

namespace CharacterSheet

open Mention

/-- A text refers to what one of its mentions stands for, wherever that is written. -/
def RefersTo (text : String) (r : Reference) : Prop :=
  ∃ k : Mention, k.OccursIn text.toList ∧ k.meaning = r

/-! ### Expressions as they are handed on -/

/-- A closing bracket stands in a text with no opening one before it. -/
def ClosesFirst (cs : List Char) : Prop := ∃ front tail, cs = front ++ '>' :: tail ∧ '<' ∉ front

theorem closesFirst_cons_iff {c : Char} {cs : List Char} (ho : c ≠ '<') (hc : c ≠ '>') :
    ClosesFirst (c :: cs) ↔ ClosesFirst cs := by
  constructor
  · rintro ⟨front, tail, he, hf⟩
    cases front with
    | nil => exact absurd (List.cons.inj he).1 hc
    | cons d front =>
      exact ⟨front, tail, (List.cons.inj he).2, List.not_mem_of_not_mem_cons hf⟩
  · rintro ⟨front, tail, rfl, hf⟩
    exact ⟨c :: front, tail, rfl, List.not_mem_cons_of_ne_of_not_mem ho.symm hf⟩

theorem closesFirst_append_iff {front cs : List Char} (h : NoBracket front) :
    ClosesFirst (front ++ cs) ↔ ClosesFirst cs := by
  induction front with
  | nil => rfl
  | cons c front ih =>
    have ho : c ≠ '<' := (List.ne_of_not_mem_cons h.1).symm
    have hc : c ≠ '>' := (List.ne_of_not_mem_cons h.2).symm
    rw [List.cons_append, closesFirst_cons_iff ho hc]
    exact ih ⟨List.not_mem_of_not_mem_cons h.1, List.not_mem_of_not_mem_cons h.2⟩

theorem not_closesFirst_open (cs : List Char) : ¬ ClosesFirst ('<' :: cs) := by
  rintro ⟨front, tail, he, hf⟩
  cases front with
  | nil => exact absurd (List.cons.inj he).1 (by decide)
  | cons d front => exact hf (by rw [← (List.cons.inj he).1]; exact List.mem_cons_self)

/-- Characters take their own places. -/
theorem filled_chars (cs : List Char) (ps : List Piece) (texts : List String) :
    filled (cs.map .char ++ ps) texts = cs ++ filled ps texts := by
  induction cs with
  | nil => rfl
  | cons c cs ih => rw [List.map_cons, List.cons_append, filled, ih, List.cons_append]

/-- Where no mention starts a character is a piece. -/
theorem pieces_cons {chosen : Mention → Bool} {c : Char} {rest : List Char}
    (h : read? (c :: rest) = none) :
    pieces chosen (c :: rest) = .char c :: pieces chosen rest := by
  rw [pieces]
  split
  · next hn => simp [h] at hn
  · rfl

/-- A mention that is not chosen is passed character by character. -/
theorem pieces_of_not_chosen {chosen : Mention → Bool} {cs rest : List Char} {m : Mention}
    (h : read? cs = some (m, rest)) (hc : chosen m = false) :
    pieces chosen cs = m.source.map .char ++ pieces chosen rest := by
  obtain ⟨hp, rfl⟩ := read?_eq_some_iff.mp h
  have hs : m.source = '<' :: m.source.tail := rfl
  rw [hs, List.cons_append, pieces]
  rw [hs, List.cons_append] at h
  split
  · next found behind hf =>
    rw [h] at hf
    obtain ⟨rfl, rfl⟩ := Prod.mk.inj (Option.some.inj hf)
    rw [hc, if_neg (by decide), pieces_append_of_notMem _ (notMem_tail_source hp),
      List.map_cons, List.cons_append]
  · next hn => simp [h] at hn

/-- An opening bracket starts no mention when none is closed behind it. -/
theorem read?_open_of_not_closesFirst {cs : List Char} (h : ¬ ClosesFirst cs) :
    read? ('<' :: cs) = none := by
  cases hr : read? ('<' :: cs) with
  | none => rfl
  | some found =>
    obtain ⟨m, rest⟩ := found
    obtain ⟨hm, he⟩ := read?_eq_some_iff.mp hr
    obtain ⟨front, hs, -⟩ := source_eq_concat hm
    have ho := notMem_tail_source hm
    refine absurd ?_ h
    cases front with
    | nil =>
      rw [hs] at he
      simp at he
    | cons c front =>
      rw [hs, List.cons_append, List.tail_cons, List.mem_append, not_or] at ho
      rw [hs] at he
      exact ⟨front, rest, by simpa using (List.cons.inj he).2, ho.1⟩

/-- Where texts without brackets take the places of the values in the body of an expression, the
mentions that are left are others of the body. -/
theorem mem_readAll_filled {cs : List Char} (hu : Unclosed cs) {texts : List String}
    (ht : ∀ text ∈ texts, NoBracket text.toList) :
    (∀ m ∈ readAll (filled (pieces isStatValue cs) texts),
        m ∈ readAll cs ∧ m.isStatValue = false) ∧
      ¬ ClosesFirst (filled (pieces isStatValue cs) texts) := by
  unfold Unclosed at hu
  fun_induction expressionBody? cs generalizing texts with
  | case1 =>
    rw [pieces, filled, readAll_nil]
    exact ⟨by simp, by rintro ⟨front, tail, he, -⟩; simp at he⟩
  | case2 r => simp at hu
  | case3 => simp at hu
  | case4 c r hc m behind hm hlt ref href ih =>
    have hb := map_found_eq_none_iff.mp hu
    rw [readAll_of_read? hm]
    cases hv : m.isStatValue with
    | true =>
      have hhead : NoBracket (texts.headD "").toList := by
        cases texts with
        | nil => simp [NoBracket]
        | cons text texts => exact ht text List.mem_cons_self
      rw [pieces_of_read? hm hv, filled, readAll_append_of_notMem hhead.1,
        closesFirst_append_iff hhead]
      obtain ⟨hmem, hcloses⟩ := ih hb fun text h ↦ ht text (List.mem_of_mem_tail h)
      exact ⟨fun k hk ↦ ⟨List.mem_cons_of_mem _ (hmem k hk).1, (hmem k hk).2⟩, hcloses⟩
    | false =>
      have hs : m.source = '<' :: m.source.tail := rfl
      obtain ⟨hmem, -⟩ := ih hb ht
      rw [pieces_of_not_chosen hm hv, filled_chars]
      constructor
      · rw [readAll_of_read? (read?_source (isProper_of_read? hm) _)]
        exact List.forall_mem_cons.mpr ⟨⟨List.mem_cons_self, hv⟩,
          fun k hk ↦ ⟨List.mem_cons_of_mem _ (hmem k hk).1, (hmem k hk).2⟩⟩
      · rw [hs, List.cons_append]
        exact not_closesFirst_open _
  | case5 c r hc hm ih =>
    have hb := map_found_eq_none_iff.mp hu
    obtain ⟨hmem, hcloses⟩ := ih hb ht
    rw [pieces_cons hm, filled, readAll_cons hm]
    by_cases ho : c = '<'
    · subst ho
      rw [readAll_cons (read?_open_of_not_closesFirst hcloses)]
      exact ⟨hmem, not_closesFirst_open _⟩
    · rw [readAll_cons (read?_of_ne ho _), closesFirst_cons_iff ho hc]
      exact ⟨hmem, hcloses⟩

/-- All mentions of a text are taken as pieces when every reference is to be replaced. -/
theorem filterMap_pieces_true (cs : List Char) :
    (pieces (fun _ ↦ true) cs).filterMap Piece.mention? = readAll cs := by
  rw [filterMap_pieces, List.filter_true]

/-- A mention is replaced exactly when its id can be read and something is found for it. -/
theorem Piece.exists_replaced_iff {replace : Reference → Except NumeralError String}
    {k : Mention} :
    (∃ part, (Piece.mention k).replaced replace = .ok part) ↔
      k.digits.length ≤ maxDigits ∧ ∃ out, replace k.meaning = .ok out := by
  by_cases hk : k.digits.length ≤ maxDigits
  · rw [replaced_mention hk, and_iff_right hk]
    cases replace k.meaning <;> simp
  · refine iff_of_false ?_ fun h ↦ hk h.1
    rintro ⟨part, hp⟩
    cases hr : k.reference with
    | ok r => exact hk (length_le_of_reference hr)
    | error e => simp [replaced, hr, liftExcept, bind, Except.bind] at hp

/-- References are replaced exactly when their ids can be read and something is found for each. -/
theorem exists_substituteReferences_iff {replace : Reference → Except NumeralError String}
    {text : String} :
    (∃ out, substituteReferences replace text = .ok out) ↔
      ReadableIds text ∧ ∀ r, RefersTo text r → ∃ out, replace r = .ok out := by
  have hparts : (∃ out, substituteReferences replace text = .ok out) ↔
      ∃ parts, (pieces (fun _ ↦ true) text.toList).mapM (Piece.replaced replace) = .ok parts := by
    unfold substituteReferences substitute
    cases (pieces (fun _ ↦ true) text.toList).mapM (Piece.replaced replace) <;>
      simp [bind, Except.bind, pure, Except.pure]
  have hmem (k : Mention) : .mention k ∈ pieces (fun _ ↦ true) text.toList ↔
      k.OccursIn text.toList := by
    rw [← mem_readAll_iff, ← filterMap_pieces_true, List.mem_filterMap]
    constructor
    · exact fun hk ↦ ⟨_, hk, rfl⟩
    · rintro ⟨piece, hp, hk⟩
      cases piece with
      | char c => cases hk
      | mention l =>
        cases hk
        exact hp
  rw [hparts, exists_mapM_eq_ok_iff]
  constructor
  · intro h
    have hk (k : Mention) (ho : k.OccursIn text.toList) :=
      Piece.exists_replaced_iff.mp (h _ ((hmem k).mpr ho))
    refine ⟨fun k ho ↦ (hk k ho).1, ?_⟩
    rintro r ⟨k, ho, rfl⟩
    exact (hk k ho).2
  · rintro ⟨hr, h⟩ (c | k) hp
    · exact ⟨[c], rfl⟩
    · have ho := (hmem k).mp hp
      exact Piece.exists_replaced_iff.mpr ⟨hr k ho, h _ ⟨k, ho, rfl⟩⟩

/-- A substitution depends only on what is put in the places of the chosen mentions of the text. -/
theorem substitute_congr {chosen : Mention → Bool} {text : String}
    {f g : Reference → Except NumeralError String}
    (h : ∀ k : Mention, k.OccursIn text.toList → chosen k = true → f k.meaning = g k.meaning) :
    substitute chosen f text = substitute chosen g text := by
  rw [substitute, substitute]
  congr 1
  refine mapM_congr fun piece hp ↦ ?_
  cases piece with
  | char c => rfl
  | mention k =>
    have hk : k ∈ (readAll text.toList).filter chosen := by
      rw [← filterMap_pieces]
      exact List.mem_filterMap.mpr ⟨_, hp, rfl⟩
    obtain ⟨hm, hc⟩ := List.mem_filter.mp hk
    cases hr : k.reference with
    | error e => simp only [Piece.replaced, hr]; rfl
    | ok r =>
      have hmeaning : k.meaning = r :=
        Except.ok.inj ((reference_eq (length_le_of_reference hr)).symm.trans hr)
      have hf := h k (mem_readAll_iff.mp hm) hc
      rw [hmeaning] at hf
      simp only [Piece.replaced, hr, liftExcept, pure_bind, hf]

/-- Samples that are found for ids hold no bracket. -/
theorem noBracket_samples {stats : List Stat} {use : SampleUse} {ids : List Nat}
    {texts : List String}
    (h : ids.mapM (fun id : Nat ↦ sampleValue stats use id) = .ok texts) :
    ∀ text ∈ texts, NoBracket text.toList := by
  intro text hm
  obtain ⟨id, -, hs⟩ := Checked.exists_mem_of_forall₂ (forall₂_of_mapM h) hm
  exact .of_isNumberText (isNumberText_sampleValue hs)

/-! ### Bodies of expressions -/

/-- The body of an expression that was read has readable ids and no bracket that closes it. -/
theorem Token.Reads.body {source : List Char} {kind : ExpressionKind} {body : String}
    (h : Token.Reads source (.expression kind body)) : Unclosed body.toList ∧ ReadableIds body := by
  cases h with
  | expression kind hne hb =>
    refine ⟨?_, fun m hm ↦ ?_⟩
    · rw [String.toList_ofList]
      exact unclosed_of_expressionBody? hb
    · rw [String.toList_ofList] at hm
      exact allReadable_of_expressionBody? hb m (mem_readAll_iff.mpr hm)

/-- The tokens of a scan were read, also of one that failed. -/
theorem Scan.exists_reads {run cs : List Char} {t : Token} (h : t ∈ (fromRun run cs).found) :
    ∃ source, Token.Reads source t := by
  fun_induction fromRun run cs with
  | case1 run =>
    rw [found_afterLiteral] at h
    simp [found] at h
  | case2 run rest e he => simp [found] at h
  | case3 run rest hn ih => exact ih h
  | case4 run rest u behind hu hlt taken ih =>
    rw [found_afterLiteral, found_cons_token] at h
    rcases List.mem_cons.mp h with rfl | h
    · obtain ⟨source, -, hr⟩ := Token.exists_reads hu
      exact ⟨source, hr⟩
    · exact ih h
  | case5 run c rest hc ih => exact ih h

end CharacterSheet
