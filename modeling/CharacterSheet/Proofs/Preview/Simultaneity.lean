import CharacterSheet.Proofs.Preview.Locality
import CharacterSheet.Proofs.Preview.Substitution

/-!
# Samples and shown texts in one pass

The body of an expression is handed on in two passes: samples take the places of the values of
stats, and then shown texts take those of all references that are found in what came out. A sample
holds no bracket, and in the body of an expression every closing bracket belongs to a mention, so
nothing that the first pass puts in becomes part of a reference for the second. Main statement:
what is handed on is put together from the segments of the body, each replaced once and on its own.
-/

namespace CharacterSheet

open Mention

/-- The text of a segment with its reference replaced; anything else stays what it is. -/
def Segment.replaced {m : Type → Type} [Monad m] (replace : Reference → m String) :
    Segment → m String
  | .token (.reference r) _ => replace r
  | .token (.expression ..) source => return source
  | .literal run => return run

/-- A reference to the value of a stat. -/
def Reference.isStatValue (r : Reference) : Bool := r.subject = .stat && r.property = .value

/-- What takes the place of a reference in an expression: a sample for the value of a stat, and
for any other reference what it stands for. -/
def Preview.insertion {m : Type → Type} (p : Preview m) (use : SampleUse) (r : Reference) :
    Except NumeralError String :=
  if r.isStatValue then sampleValue p.system.stats use r.id else p.reference r

/-- The text of pieces with their mentions replaced. -/
def joined {m : Type → Type} [Monad m] [MonadExceptOf NumeralError m]
    (replace : Reference → m String) (ps : List Piece) : m String :=
  (fun parts ↦ String.ofList parts.flatten) <$> ps.mapM (Piece.replaced replace)

/-- The pieces that are left when texts take the places of the values of stats, one by one. -/
def sampled : List Piece → List String → List Piece
  | [], _ => []
  | .char c :: ps, texts => .char c :: sampled ps texts
  | .mention m :: ps, texts =>
    if m.isStatValue then (texts.headD "").toList.map .char ++ sampled ps texts.tail
    else .mention m :: sampled ps texts

/-! ### Texts of pieces and segments -/

section
variable {m : Type → Type} [Monad m] [LawfulMonad m] (replace : Reference → m String)

/-- The first segment is replaced before those behind it. -/
theorem join_replaced_cons (s : Segment) (segs : List Segment) :
    String.join <$> (s :: segs).mapM (Segment.replaced replace) =
      s.replaced replace >>= fun text ↦
        (text ++ ·) <$> String.join <$> segs.mapM (Segment.replaced replace) := by
  rw [List.mapM_cons, map_bind]
  congr 1
  funext text
  rw [bind_pure_comp, ← comp_map, ← comp_map]
  congr 1
  funext texts
  exact String.join_cons

variable [MonadExceptOf NumeralError m]

theorem joined_nil : joined replace [] = pure "" := by
  rw [joined, List.mapM_nil, map_pure]
  rfl

/-- Characters stay what they are. -/
theorem joined_chars (cs : List Char) (ps : List Piece) :
    joined replace (cs.map .char ++ ps) = (String.ofList cs ++ ·) <$> joined replace ps := by
  rw [joined, joined, List.mapM_append, mapM_replaced_char, pure_bind, bind_pure_comp,
    ← comp_map, ← comp_map]
  congr 1
  funext parts
  simp only [Function.comp_apply, List.flatten_append, String.ofList_append]
  rw [← List.flatMap_def, List.flatMap_singleton']

theorem joined_char (c : Char) (ps : List Piece) :
    joined replace (.char c :: ps) = (String.ofList [c] ++ ·) <$> joined replace ps :=
  joined_chars replace [c] ps

/-- A mention is replaced before what stands behind it. -/
theorem joined_mention {r : Mention} (hr : r.digits.length ≤ maxDigits) (ps : List Piece) :
    joined replace (.mention r :: ps) =
      replace r.meaning >>= fun text ↦ (text ++ ·) <$> joined replace ps := by
  rw [joined, joined, List.mapM_cons, Piece.replaced_mention hr, bind_map_left, map_bind]
  congr 1
  funext text
  rw [bind_pure_comp, ← comp_map, ← comp_map]
  congr 1
  funext parts
  simp only [Function.comp_apply, List.flatten_cons, String.ofList_append, String.ofList_toList]

/-- References are replaced piece by piece. -/
theorem substituteReferences_eq_joined (text : String) :
    substituteReferences replace text = joined replace (pieces (fun _ ↦ true) text.toList) := by
  rw [substituteReferences, substitute, joined, bind_pure_comp]

/-! ### Segments of a body -/

/-- Where no token starts every character is a piece. -/
theorem pieces_append_of_barren (chosen : Mention → Bool) {run rest : List Char}
    (h : Barren run rest) : pieces chosen (run ++ rest) = run.map .char ++ pieces chosen rest := by
  induction run with
  | nil => rfl
  | cons c run ih =>
    have hn := h (c :: run) (List.cons_ne_nil c run) (List.suffix_refl _)
    rw [List.cons_append] at hn ⊢
    rw [pieces_cons (Token.mention_read?_eq_none hn), ih h.of_cons, List.map_cons,
      List.cons_append]

/-- Behind characters at which no token starts an unclosed text is unclosed. -/
theorem Unclosed.of_barren {run rest : List Char} (hu : Unclosed (run ++ rest))
    (h : Barren run rest) : Unclosed rest := by
  induction run with
  | nil => exact hu
  | cons c run ih =>
    have hn := h (c :: run) (List.cons_ne_nil c run) (List.suffix_refl _)
    rw [List.cons_append] at hn hu
    exact ih ((unclosed_cons_iff hu.ne_of_cons (Token.mention_read?_eq_none hn)).mp hu) h.of_cons

/-- The tokens that an unclosed text is cut into are references, and they are replaced as its
mentions are. -/
theorem Cut.joined_eq {cs : List Char} {segs : List Segment} (h : Cut cs segs)
    (ha : AllReadable cs) (hu : Unclosed cs) :
    (∀ t source, .token t source ∈ segs → ∃ r, t = .reference r) ∧
      joined replace (pieces (fun _ ↦ true) cs) =
        String.join <$> segs.mapM (Segment.replaced replace) := by
  induction h with
  | nil =>
    refine ⟨by simp, ?_⟩
    rw [pieces, joined_nil, List.mapM_nil, map_pure]
    rfl
  | @literal run rest segs hne hb hs hr ih =>
    obtain ⟨htokens, ih⟩ :=
      ih (ha.of_infix (List.suffix_append run rest).isInfix) (hu.of_barren hb)
    constructor
    · intro t source hm
      exact htokens t source (by simpa using hm)
    · rw [pieces_append_of_barren _ hb, joined_chars, ih, join_replaced_cons, Segment.replaced,
        pure_bind]
  | @token source rest t segs ht hr ih =>
    obtain ⟨k, hk, rfl⟩ := Token.exists_mention_of_unclosed ha hu (ht.read?_append rest)
    obtain ⟨hd, hb⟩ := ha.of_read? hk
    obtain ⟨htokens, ih⟩ := ih hb ((unclosed_iff_of_read? hk (reference_eq hd)).mp hu)
    constructor
    · intro t source hm
      rcases List.mem_cons.mp hm with he | hm
      · exact ⟨k.meaning, (Segment.token.inj he).1⟩
      · exact htokens t source hm
    · rw [pieces_of_read? hk rfl, joined_mention replace hd, ih, join_replaced_cons,
        Segment.replaced]

end

/-! ### Two passes -/

/-- Where texts without brackets take the places of the values in the body of an expression, the
mentions that are found in the outcome are those that were left, in their places. -/
theorem pieces_filled {cs : List Char} (hu : Unclosed cs) {texts : List String}
    (ht : ∀ text ∈ texts, NoBracket text.toList) :
    pieces (fun _ ↦ true) (filled (pieces isStatValue cs) texts) =
      sampled (pieces (fun _ ↦ true) cs) texts := by
  unfold Unclosed at hu
  fun_induction expressionBody? cs generalizing texts with
  | case1 => rw [pieces, pieces, filled, sampled, pieces]
  | case2 r => simp at hu
  | case3 => simp at hu
  | case4 c r hc m behind hm hlt ref href ih =>
    have hb := map_found_eq_none_iff.mp hu
    have hall : pieces (fun _ ↦ true) (c :: r) = .mention m :: pieces _ behind :=
      pieces_of_read? hm rfl
    rw [hall, sampled]
    cases hv : m.isStatValue with
    | true =>
      have hhead : NoBracket (texts.headD "").toList := by
        cases texts with
        | nil => simp [NoBracket]
        | cons text texts => exact ht text List.mem_cons_self
      rw [pieces_of_read? hm hv, filled, pieces_append_of_notMem _ hhead.1, if_pos rfl,
        ih hb fun text h ↦ ht text (List.mem_of_mem_tail h)]
    | false =>
      rw [pieces_of_not_chosen hm hv, filled_chars, if_neg (by decide),
        pieces_of_read? (read?_source (isProper_of_read? hm) _) rfl, ih hb ht]
  | case5 c r hc hm ih =>
    have hb := map_found_eq_none_iff.mp hu
    obtain ⟨-, hcloses⟩ := mem_readAll_filled hb ht
    -- an opening bracket would need one that closes it among what is left behind it
    have hn : read? (c :: filled (pieces isStatValue r) texts) = none := by
      by_cases ho : c = '<'
      · rw [ho]
        exact read?_open_of_not_closesFirst hcloses
      · exact read?_of_ne ho _
    rw [pieces_cons hm, pieces_cons hm, filled, pieces_cons hn, sampled, ih hb ht]

section
variable {ps : List Piece} {replace : Reference → Except NumeralError String}

/-- Asking for the values first and replacing the other references then is replacing all of them in
turn: only one thing can go wrong with either, and so it does not matter what goes wrong first. -/
theorem joined_sampled {value : Nat → Except NumeralError String}
    (hv : ∀ id, OnlyTooLarge (value id)) (hs : ∀ r, OnlyTooLarge (replace r))
    (hr : ∀ r ∈ ps.filterMap Piece.mention?, r.digits.length ≤ maxDigits) :
    (((ps.filterMap Piece.mention?).filterMap valueId?).mapM value >>= fun texts ↦
        joined replace (sampled ps texts)) =
      joined (fun r ↦ if r.isStatValue then value r.id else replace r) ps := by
  induction ps with
  | nil => rfl
  | cons p ps ih =>
    cases p with
    | char c =>
      rw [List.filterMap_cons_none rfl] at hr ⊢
      rw [joined_char, ← ih hr, map_bind]
      congr 1
      funext texts
      rw [sampled, joined_char]
    | mention r =>
      have hp : Piece.mention? (.mention r) = some r := rfl
      rw [List.filterMap_cons_some hp] at hr ⊢
      obtain ⟨hd, hr⟩ := List.forall_mem_cons.mp hr
      have hmeaning : r.meaning.isStatValue = r.isStatValue := rfl
      rw [joined_mention _ hd, ← ih hr, hmeaning]
      cases hc : r.isStatValue with
      | true =>
        have hid : r.valueId? = some r.meaning.id := if_pos hc
        rw [List.filterMap_cons_some hid, List.mapM_cons, bind_assoc, if_pos rfl]
        congr 1
        funext text
        rw [bind_assoc, map_bind]
        congr 1
        funext texts
        rw [pure_bind, sampled, if_pos hc, List.headD_cons, List.tail_cons, joined_chars,
          String.ofList_toList]
      | false =>
        have hid : r.valueId? = none := if_neg (by rw [hc]; decide)
        rw [List.filterMap_cons_none hid, if_neg (by decide)]
        have hnext (texts : List String) : joined replace (sampled (.mention r :: ps) texts) =
            replace r.meaning >>= fun text ↦ (text ++ ·) <$> joined replace (sampled ps texts) := by
          rw [sampled, if_neg (by rw [hc]; decide), joined_mention _ hd]
        simp only [hnext]
        cases ht : replace r.meaning with
        | ok text =>
          change _ = (text ++ ·) <$> _
          rw [map_bind]
          rfl
        | error e =>
          rw [hs _ e ht]
          exact (OnlyTooLarge.mapM hv _).bind_error

end

namespace Preview
variable {m : Type → Type} {p : Preview m}

/-- The body of an expression is handed on as if all its references were replaced in one pass. -/
theorem payload_eq_substituteReferences {use : SampleUse} {body : String}
    (hu : Unclosed body.toList) (hr : ReadableIds body) :
    p.payload use body = substituteReferences (p.insertion use) body := by
  have ha := allReadable_of_readableIds hr
  have hmentions := filterMap_pieces_true body.toList
  have hlimit : ∀ r ∈ (pieces (fun _ ↦ true) body.toList).filterMap Piece.mention?,
      r.digits.length ≤ maxDigits := by rwa [hmentions]
  have honce := joined_sampled (fun id ↦ onlyTooLarge_sampleValue p.system.stats use id)
    (onlyTooLarge_reference (p := p)) hlimit
  rw [hmentions] at honce
  rw [substituteReferences_eq_joined]
  refine Eq.trans ?_ honce
  rw [payload, substituteStatValues_eq hr, bind_map_left]
  change _ = (mentionedIds body).mapM _ >>= _
  cases ht : (mentionedIds body).mapM fun id : Nat ↦ sampleValue p.system.stats use id with
  | error e => rfl
  | ok texts =>
    change substituteReferences p.reference _ = joined p.reference _
    rw [substituteReferences_eq_joined, String.toList_ofList,
      pieces_filled hu (noBracket_samples ht)]

/-! ### Main statement -/

/-- The body of an expression is handed on as if all its references were replaced in one pass. It
is cut into literal runs and references, and what is handed on is put together from the runs as
they are and from what takes the place of each reference, asked for once, from left to right; what
is put in is not looked at again. -/
theorem payload_at_once {text : String} {kind : ExpressionKind} {body : String}
    (h : .expression kind body ∈ (scan text).found) (use : SampleUse) :
    p.payload use body = substituteReferences (p.insertion use) body ∧
      ∃ segs, segments body = .ok segs ∧ Cut body.toList segs ∧
        (∀ t source, .token t source ∈ segs → ∃ r, t = .reference r) ∧
        p.payload use body =
          String.join <$> segs.mapM (Segment.replaced (p.insertion use)) := by
  obtain ⟨source, hreads⟩ := Scan.exists_reads h
  obtain ⟨hu, hr⟩ := hreads.body
  obtain ⟨hf, hc⟩ := cut_scan hr
  have honce : p.payload use body = substituteReferences (p.insertion use) body :=
    payload_eq_substituteReferences hu hr
  obtain ⟨htokens, hjoin⟩ :=
    hc.joined_eq (p.insertion use) (allReadable_of_readableIds hr) hu
  refine ⟨honce, (scan body).segments, ?_, hc, htokens, ?_⟩
  · rw [segments, Scan.complete, hf]
  · rw [honce, substituteReferences_eq_joined, hjoin]

/-- The sample stands between the characters of a reference that nobody reads, because the bracket
behind them closed the expression. -/
theorem payload_at_once_open :
    .expression .dice "<stat:<stat:1:value>:name" ∈
        (scan "<dice:<stat:<stat:1:value>:name>").found ∧
      (∃ segs, segments "<stat:<stat:1:value>:name" = .ok segs ∧
        (∀ t source, .token t source ∈ segs → ∃ r, t = .reference r) ∧
        ofOpening.payload .dice "<stat:<stat:1:value>:name" =
          String.join <$> segs.mapM (Segment.replaced (ofOpening.insertion .dice))) ∧
      ofOpening.payload .dice "<stat:<stat:1:value>:name" = .ok "<stat:1:name" := by
  have h : .expression .dice "<stat:<stat:1:value>:name" ∈
      (scan "<dice:<stat:<stat:1:value>:name>").found := by decide +kernel
  obtain ⟨-, segs, hs, -, htokens, hp⟩ := payload_at_once (p := ofOpening) h .dice
  exact ⟨h, ⟨segs, hs, htokens, hp⟩, by decide +kernel⟩

end Preview
end CharacterSheet
