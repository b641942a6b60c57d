import CharacterSheet.Proofs.Token.Mentions
import CharacterSheet.Token.References
import Mathlib.Data.List.Forall2

/-!
# The stats whose values a text asks for

Scanning takes expressions apart from references, skips to the end of each token and looks into
the bodies of expressions once more. Main statement: when no id is too long, the values that a
text asks for are those of the mentions that occur in it, wherever they stand.
-/

namespace CharacterSheet

/-- No id in a text is too long to be read. -/
def ReadableIds (text : String) : Prop :=
  ∀ m : Mention, m.OccursIn text.toList → m.digits.length ≤ maxDigits

/-- The value of the stat with an id is mentioned in a text. -/
def AsksFor (text : String) (id : Int) : Prop :=
  ∃ m : Mention, m.OccursIn text.toList ∧ m.isStatValue = true ∧
    (Text.digitsValue m.digits : Int) = id

namespace Mention

/-- The reference that a mention stands for when its id can be read. -/
def meaning (m : Mention) : Reference := ⟨m.subject, Text.digitsValue m.digits, m.property⟩

/-- A mention with an id that is not too long is read as a reference. -/
theorem reference_eq {m : Mention} (h : m.digits.length ≤ maxDigits) :
    m.reference = .ok m.meaning := by
  simp [reference, Numeral.readDigits, h, Except.map, meaning]

/-- The ids of all mentions in a text can be read. -/
def AllReadable (cs : List Char) : Prop := ∀ m ∈ readAll cs, m.digits.length ≤ maxDigits

/-- Behind a mention with a readable id the ids stay readable. -/
theorem AllReadable.of_read? {cs rest : List Char} {m : Mention} (ha : AllReadable cs)
    (h : read? cs = some (m, rest)) : m.digits.length ≤ maxDigits ∧ AllReadable rest := by
  unfold AllReadable at ha
  rw [readAll_of_read? h] at ha
  exact List.forall_mem_cons.mp ha

/-- Behind a character that starts no mention the ids stay readable. -/
theorem AllReadable.of_cons {c : Char} {rest : List Char} (ha : AllReadable (c :: rest))
    (h : read? (c :: rest) = none) : AllReadable rest := by
  unfold AllReadable at ha
  rwa [readAll_cons h] at ha

end Mention

open Mention

/-! ### Bodies of expressions -/

theorem map_found_eq_some_iff {α β : Type} {x : Except NumeralError (Option α)} {f : α → β}
    {b : β} : (x.map fun found ↦ found.map f) = .ok (some b) ↔ ∃ a, x = .ok (some a) ∧ f a = b := by
  rcases x with e | _ | a <;> simp [Except.map]

theorem map_found_eq_none_iff {α β : Type} {x : Except NumeralError (Option α)} {f : α → β} :
    (x.map fun found ↦ found.map f) = .ok none ↔ x = .ok none := by
  rcases x with e | _ | a <;> simp [Except.map]

/-- A mention in a body is part of it. -/
theorem expressionBody?_of_read? {cs rest : List Char} {m : Mention} {r : Reference}
    (h : read? cs = some (m, rest)) (hr : m.reference = .ok r) :
    expressionBody? cs =
      (expressionBody? rest).map fun found ↦ found.map fun (body, tail) ↦
        (m.source ++ body, tail) := by
  cases cs with
  | nil => simp [read?, readOpening?, Text.after?, opening] at h
  | cons c cs =>
    have hc : c ≠ '>' := by
      have := eq_of_read? h
      simp only [source, opening, List.cons_append, List.cons.injEq] at this
      rw [this.1]
      decide
    rw [expressionBody?]
    simp only [hc, if_false]
    split
    · next found behind hf =>
      rw [h] at hf
      obtain ⟨rfl, rfl⟩ := Prod.mk.inj (Option.some.inj hf)
      simp only [hr]
    · next hn => simp [h] at hn

/-- Any other character in a body but a closing bracket is part of it. -/
theorem expressionBody?_cons {c : Char} {rest : List Char} (hc : c ≠ '>')
    (h : read? (c :: rest) = none) :
    expressionBody? (c :: rest) =
      (expressionBody? rest).map fun found ↦ found.map fun (body, tail) ↦ (c :: body, tail) := by
  rw [expressionBody?]
  simp only [hc, if_false]
  split
  · next found behind hf => simp [h] at hf
  · rfl

/-- The body of an expression ends at the bracket that closes the expression. -/
theorem eq_of_expressionBody? {cs body rest : List Char}
    (h : expressionBody? cs = .ok (some (body, rest))) : cs = body ++ '>' :: rest := by
  fun_induction expressionBody? cs generalizing body rest with
  | case1 => simp at h
  | case2 r => simp_all
  | case3 => simp at h
  | case4 c r hc m behind hm hlt ref href ih =>
    obtain ⟨⟨inner, tail⟩, hi, he⟩ := map_found_eq_some_iff.mp h
    obtain ⟨rfl, rfl⟩ := Prod.mk.inj he
    rw [eq_of_read? hm, ih hi, List.append_assoc]
  | case5 c r hc hm ih =>
    obtain ⟨⟨inner, tail⟩, hi, he⟩ := map_found_eq_some_iff.mp h
    obtain ⟨rfl, rfl⟩ := Prod.mk.inj he
    rw [ih hi, List.cons_append]

/-- The mentions in a text are those in the body that it starts with and those behind it. -/
theorem readAll_of_expressionBody? {cs body rest : List Char}
    (h : expressionBody? cs = .ok (some (body, rest))) :
    readAll cs = readAll body ++ readAll rest := by
  fun_induction expressionBody? cs generalizing body rest with
  | case1 => simp at h
  | case2 r =>
    obtain ⟨rfl, rfl⟩ : [] = body ∧ r = rest := by simpa using h
    rw [readAll_cons (read?_of_ne (by decide) r), readAll_nil, List.nil_append]
  | case3 => simp at h
  | case4 c r hc m behind hm hlt ref href ih =>
    obtain ⟨⟨inner, tail⟩, hi, he⟩ := map_found_eq_some_iff.mp h
    obtain ⟨rfl, rfl⟩ := Prod.mk.inj he
    rw [readAll_of_read? hm, readAll_of_read? (read?_source (isProper_of_read? hm) inner), ih hi,
      List.cons_append]
  | case5 c r hc hm ih =>
    obtain ⟨⟨inner, tail⟩, hi, he⟩ := map_found_eq_some_iff.mp h
    obtain ⟨rfl, rfl⟩ := Prod.mk.inj he
    rw [readAll_cons hm, readAll_cons (read?_eq_none_of_append ('>' :: tail) ?_), ih hi]
    rwa [List.cons_append, ← eq_of_expressionBody? hi]

/-- A text in which no bracket closes an expression that was opened before it. -/
def Unclosed (cs : List Char) : Prop := expressionBody? cs = .ok none

/-- An unclosed text does not start with a closing bracket. -/
theorem Unclosed.ne_of_cons {c : Char} {rest : List Char} (h : Unclosed (c :: rest)) :
    c ≠ '>' := by
  rintro rfl
  unfold Unclosed expressionBody? at h
  simp at h

/-- Behind a mention an unclosed text is unclosed. -/
theorem unclosed_iff_of_read? {cs rest : List Char} {m : Mention} {r : Reference}
    (h : read? cs = some (m, rest)) (hr : m.reference = .ok r) : Unclosed cs ↔ Unclosed rest := by
  rw [Unclosed, Unclosed, expressionBody?_of_read? h hr]
  exact map_found_eq_none_iff

/-- Behind a character that starts no mention an unclosed text is unclosed. -/
theorem unclosed_cons_iff {c : Char} {rest : List Char} (hc : c ≠ '>')
    (h : read? (c :: rest) = none) : Unclosed (c :: rest) ↔ Unclosed rest := by
  rw [Unclosed, Unclosed, expressionBody?_cons hc h]
  exact map_found_eq_none_iff

/-- Read as a body once more, the body of an expression is not closed: every bracket in it
belongs to a mention. -/
theorem unclosed_of_expressionBody? {cs body rest : List Char}
    (h : expressionBody? cs = .ok (some (body, rest))) : Unclosed body := by
  fun_induction expressionBody? cs generalizing body rest with
  | case1 => simp at h
  | case2 r =>
    obtain ⟨rfl, rfl⟩ : [] = body ∧ r = rest := by simpa using h
    rw [Unclosed, expressionBody?]
  | case3 => simp at h
  | case4 c r hc m behind hm hlt ref href ih =>
    obtain ⟨⟨inner, tail⟩, hi, he⟩ := map_found_eq_some_iff.mp h
    obtain ⟨rfl, rfl⟩ := Prod.mk.inj he
    exact (unclosed_iff_of_read? (read?_source (isProper_of_read? hm) inner) href).mpr (ih hi)
  | case5 c r hc hm ih =>
    obtain ⟨⟨inner, tail⟩, hi, he⟩ := map_found_eq_some_iff.mp h
    obtain ⟨rfl, rfl⟩ := Prod.mk.inj he
    refine (unclosed_cons_iff hc (read?_eq_none_of_append ('>' :: tail) ?_)).mpr (ih hi)
    rwa [List.cons_append, ← eq_of_expressionBody? hi]

/-! ### Tokens -/

theorem readAll_append_of_notMem {front cs : List Char} (h : '<' ∉ front) :
    readAll (front ++ cs) = readAll cs := by
  induction front with
  | nil => rfl
  | cons c front ih =>
    have hc : c ≠ '<' := (List.ne_of_not_mem_cons h).symm
    rw [List.cons_append, readAll_cons (read?_of_ne hc _), ih (List.not_mem_of_not_mem_cons h)]

theorem unclosed_append_iff_of_notMem {front cs : List Char} (h : '<' ∉ front) (hb : '>' ∉ front) :
    Unclosed (front ++ cs) ↔ Unclosed cs := by
  induction front with
  | nil => rfl
  | cons c front ih =>
    have hc : c ≠ '<' := (List.ne_of_not_mem_cons h).symm
    have hd : c ≠ '>' := (List.ne_of_not_mem_cons hb).symm
    rw [List.cons_append, unclosed_cons_iff hd (read?_of_ne hc _)]
    exact ih (List.not_mem_of_not_mem_cons h) (List.not_mem_of_not_mem_cons hb)

/-- The opening of an expression is a bracket and a word without brackets. -/
theorem Token.opening_eq (kind : ExpressionKind) :
    ∃ word, Token.opening kind = '<' :: word ∧ '<' ∉ word ∧ '>' ∉ word := by
  refine ⟨kind.word.toList ++ [':'], rfl, ?_, ?_⟩ <;> cases kind <;> decide

/-- What an opening was read from is the opening and the rest. -/
theorem Token.eq_of_readOpening? {cs inner : List Char} {kind : ExpressionKind}
    (h : Token.readOpening? cs = some (kind, inner)) : cs = Token.opening kind ++ inner := by
  obtain ⟨_, k, _, -, hk, -⟩ := List.findSome?_eq_some_iff.mp h
  obtain ⟨r, hr, he⟩ := Option.map_eq_some_iff.mp hk
  obtain ⟨rfl, rfl⟩ := Prod.mk.inj he
  exact Text.after?_eq_some_iff.mp hr

/-- The mentions behind the opening of an expression are those of the whole text. -/
theorem readAll_of_readOpening? {cs inner : List Char} {kind : ExpressionKind}
    (h : Token.readOpening? cs = some (kind, inner)) (hn : read? cs = none) :
    readAll cs = readAll inner := by
  obtain ⟨word, hw, ho, -⟩ := Token.opening_eq kind
  have he := Token.eq_of_readOpening? h
  rw [hw, List.cons_append] at he
  rw [he] at hn ⊢
  rw [readAll_cons hn, readAll_append_of_notMem ho]

/-- An expression is opened in an unclosed text only by words that stay unclosed. -/
theorem unclosed_of_readOpening? {cs inner : List Char} {kind : ExpressionKind}
    (h : Token.readOpening? cs = some (kind, inner)) (hn : read? cs = none) (hu : Unclosed cs) :
    Unclosed inner := by
  obtain ⟨word, hw, ho, hc⟩ := Token.opening_eq kind
  have he := Token.eq_of_readOpening? h
  rw [hw, List.cons_append] at he
  rw [he] at hn hu
  exact (unclosed_append_iff_of_notMem ho hc).mp ((unclosed_cons_iff (by decide) hn).mp hu)

/-- With readable ids it is found out whether a body is closed. -/
theorem exists_expressionBody?_eq_ok {cs : List Char} (ha : AllReadable cs) :
    ∃ found, expressionBody? cs = .ok found := by
  fun_induction expressionBody? cs with
  | case1 => exact ⟨_, rfl⟩
  | case2 r => exact ⟨_, rfl⟩
  | case3 c r hc m behind hm hlt e he =>
    rw [reference_eq (ha.of_read? hm).1] at he
    simp at he
  | case4 c r hc m behind hm hlt ref href ih =>
    obtain ⟨found, hf⟩ := ih (ha.of_read? hm).2
    exact ⟨_, by rw [hf]; rfl⟩
  | case5 c r hc hm ih =>
    obtain ⟨found, hf⟩ := ih (ha.of_cons hm)
    exact ⟨_, by rw [hf]; rfl⟩

/-- The mentions that stand in a token. -/
inductive Token.ReadFrom : Token → List Mention → Prop where
  | reference {m : Mention} (hm : m.digits.length ≤ maxDigits) :
    Token.ReadFrom (.reference m.meaning) [m]
  | expression (kind : ExpressionKind) {body : List Char} (hu : Unclosed body) :
    Token.ReadFrom (.expression kind (String.ofList body)) (readAll body)

/-- Where a token is read, the mentions of the text are those in the token and those behind it;
where none is read, no mention starts. -/
theorem Token.read?_cases {cs : List Char} (ha : AllReadable cs) :
    (Token.read? cs = .ok none ∧ Mention.read? cs = none) ∨
      ∃ t rest ms, Token.read? cs = .ok (some (t, rest)) ∧ t.ReadFrom ms ∧
        readAll cs = ms ++ readAll rest := by
  unfold Token.read?
  cases hm : Mention.read? cs with
  | some found =>
    obtain ⟨m, rest⟩ := found
    right
    have hr := (ha.of_read? hm).1
    refine ⟨.reference m.meaning, rest, [m], ?_, .reference hr, readAll_of_read? hm⟩
    simp [reference_eq hr, Except.map]
  | none =>
    simp only [Token.readExpression?]
    cases ho : Token.readOpening? cs with
    | none => simp
    | some found =>
      obtain ⟨kind, inner⟩ := found
      have hi := readAll_of_readOpening? ho hm
      have hr : AllReadable inner := by rwa [AllReadable, ← hi]
      obtain ⟨found, hf⟩ := exists_expressionBody?_eq_ok hr
      rcases found with _ | ⟨body, rest⟩
      · simp [hf, Except.map]
      · by_cases he : body.isEmpty
        · simp [hf, Except.map, he]
        · right
          refine ⟨.expression kind (String.ofList body), rest, readAll body, ?_,
            .expression kind (unclosed_of_expressionBody? hf), ?_⟩
          · simp [hf, Except.map, he]
          · rw [hi, readAll_of_expressionBody? hf]

/-- The only tokens in an unclosed text are mentions. -/
theorem Token.exists_mention_of_unclosed {cs rest : List Char} {t : Token} (ha : AllReadable cs)
    (hu : Unclosed cs) (h : Token.read? cs = .ok (some (t, rest))) :
    ∃ m, Mention.read? cs = some (m, rest) ∧ t = .reference m.meaning := by
  unfold Token.read? at h
  split at h
  · next m behind hm =>
    simp only [reference_eq (ha.of_read? hm).1, Except.map, Except.ok.injEq, Option.some.injEq,
      Prod.mk.injEq] at h
    obtain ⟨rfl, rfl⟩ := h
    exact ⟨m, hm, rfl⟩
  · next hm =>
    unfold Token.readExpression? at h
    split at h
    · simp at h
    · next kind inner ho =>
      rw [unclosed_of_readOpening? ho hm hu] at h
      simp [Except.map] at h

/-! ### Scans -/

namespace Scan

/-- The tokens of a scan. -/
def found (s : Scan) : List Token := s.segments.filterMap Segment.token?

@[simp]
theorem failure_afterLiteral (run : List Char) (s : Scan) :
    (afterLiteral run s).failure = s.failure := by
  unfold afterLiteral
  split <;> rfl

@[simp]
theorem found_afterLiteral (run : List Char) (s : Scan) :
    (afterLiteral run s).found = s.found := by
  unfold afterLiteral
  split
  · rfl
  · exact List.filterMap_cons_none rfl

@[simp]
theorem failure_cons (x : Segment) (s : Scan) : (s.cons x).failure = s.failure := rfl

@[simp]
theorem found_cons_token (t : Token) (source : String) (s : Scan) :
    (s.cons (.token t source)).found = t :: s.found := List.filterMap_cons_some rfl

/-- A scan of a text with readable ids comes to the end, and its tokens hold the mentions of the
text between them. -/
theorem fromRun_readFrom {cs : List Char} (run : List Char) (ha : AllReadable cs) :
    (fromRun run cs).failure = none ∧
      ∃ parts, List.Forall₂ Token.ReadFrom (fromRun run cs).found parts ∧
        parts.flatten = readAll cs := by
  fun_induction fromRun run cs with
  | case1 run =>
    rw [found_afterLiteral, failure_afterLiteral, readAll_nil]
    exact ⟨rfl, [], .nil, rfl⟩
  | case2 run rest e he =>
    rcases Token.read?_cases ha with ⟨hn, -⟩ | ⟨t, behind, ms, ht, -⟩
    · simp [hn] at he
    · simp [ht] at he
  | case3 run rest hn ih =>
    rcases Token.read?_cases ha with ⟨-, hm⟩ | ⟨t, behind, ms, ht, -⟩
    · rw [readAll_cons hm]
      exact ih (ha.of_cons hm)
    · simp [ht] at hn
  | case4 run rest t behind ht hlt taken ih =>
    rcases Token.read?_cases ha with ⟨hn, -⟩ | ⟨u, left, ms, hu, hr, hs⟩
    · simp [hn] at ht
    · simp only [ht, Except.ok.injEq, Option.some.injEq, Prod.mk.injEq] at hu
      obtain ⟨rfl, rfl⟩ := hu
      have hb : AllReadable behind := fun m hm ↦ ha m (by rw [hs]; exact List.mem_append_right _ hm)
      obtain ⟨hf, parts, hp, he⟩ := ih hb
      refine ⟨by simpa using hf, ms :: parts, ?_, ?_⟩
      · simpa using ⟨hr, hp⟩
      · rw [List.flatten_cons, he, hs]
  | case5 run c rest hc ih =>
    have hm := read?_of_ne hc rest
    rw [readAll_cons hm]
    exact ih (ha.of_cons hm)

/-- An unclosed text holds no expressions. -/
theorem reference_of_unclosed {cs : List Char} (run : List Char) (ha : AllReadable cs)
    (hu : Unclosed cs) : ∀ t ∈ (fromRun run cs).found, ∃ r, t = .reference r := by
  fun_induction fromRun run cs with
  | case1 run =>
    rw [found_afterLiteral]
    simp [found]
  | case2 run rest e he => simp [found]
  | case3 run rest hn ih =>
    rcases Token.read?_cases ha with ⟨-, hm⟩ | ⟨t, behind, ms, ht, -⟩
    · exact ih (ha.of_cons hm) ((unclosed_cons_iff (by decide) hm).mp hu)
    · simp [ht] at hn
  | case4 run rest t behind ht hlt taken ih =>
    obtain ⟨m, hm, rfl⟩ := Token.exists_mention_of_unclosed ha hu ht
    obtain ⟨hd, hb⟩ := ha.of_read? hm
    rw [found_afterLiteral, found_cons_token]
    exact List.forall_mem_cons.mpr
      ⟨⟨_, rfl⟩, ih hb ((unclosed_iff_of_read? hm (reference_eq hd)).mp hu)⟩
  | case5 run c rest hc ih =>
    have hm := read?_of_ne hc rest
    exact ih (ha.of_cons hm) ((unclosed_cons_iff hu.ne_of_cons hm).mp hu)

end Scan

/-- The tokens of a text are those of its scan when that comes to the end. -/
theorem tokens_eq {text : String} (h : (scan text).failure = none) :
    tokens text = .ok (scan text).found := by
  simp [tokens, segments, Scan.complete, h, Except.map, Scan.found]

/-- The reference to a stat that a mention stands for, if it is one. -/
def Mention.statMeaning? (m : Mention) : Option Reference :=
  (Token.reference m.meaning).statReference?

/-- References that were read from mentions one by one. -/
theorem statReferencesOf_eq {ts : List Token} {parts : List (List Mention)}
    (hp : List.Forall₂ Token.ReadFrom ts parts) (hr : ∀ t ∈ ts, ∃ r, t = .reference r) :
    statReferencesOf ts = parts.flatten.filterMap Mention.statMeaning? := by
  induction hp with
  | nil => rfl
  | cons ht hp ih =>
    obtain ⟨ht', hts⟩ := List.forall_mem_cons.mp hr
    cases ht with
    | reference hm =>
      simp only [statReferencesOf, List.filterMap_cons, List.flatten_cons, List.singleton_append]
      rw [← ih hts]
      rfl
    | expression kind hu => simp at ht'

/-- The stat references in a token are those of the mentions in it. -/
theorem Token.statReferences_eq {t : Token} {ms : List Mention} (h : t.ReadFrom ms)
    (ha : ∀ m ∈ ms, m.digits.length ≤ maxDigits) :
    t.statReferences = .ok (ms.filterMap Mention.statMeaning?) := by
  cases h with
  | reference hm => rfl
  | @expression kind body hu =>
    obtain ⟨hf, parts, hp, he⟩ := Scan.fromRun_readFrom [] (show AllReadable body from ha)
    have hs : scan (String.ofList body) = Scan.fromRun [] body := by
      rw [scan, String.toList_ofList]
    rw [← hs] at hf hp
    simp only [Token.statReferences, tokens_eq hf, Except.map]
    rw [statReferencesOf_eq hp, he]
    rw [hs]
    exact Scan.reference_of_unclosed [] ha hu

/-- The stat references of all tokens, part by part. -/
theorem mapM_statReferences {ts : List Token} {parts : List (List Mention)}
    (hp : List.Forall₂ Token.ReadFrom ts parts)
    (ha : ∀ m ∈ parts.flatten, m.digits.length ≤ maxDigits) :
    ts.mapM Token.statReferences =
      .ok (parts.map fun ms ↦ ms.filterMap Mention.statMeaning?) := by
  induction hp with
  | nil => rfl
  | cons ht hp ih =>
    rw [List.flatten_cons] at ha
    obtain ⟨hm, hms⟩ := List.forall_mem_append.mp ha
    simp only [List.mapM_cons, Token.statReferences_eq ht hm, ih hms]
    rfl

theorem allReadable_of_readableIds {text : String} (h : ReadableIds text) :
    AllReadable text.toList := fun m hm ↦ h m (mem_readAll_iff.mp hm)

/-- The stat references of a text are those of its mentions from left to right. -/
theorem statReferences_eq {text : String} (h : ReadableIds text) :
    statReferences text = .ok ((readAll text.toList).filterMap Mention.statMeaning?) := by
  have ha := allReadable_of_readableIds h
  obtain ⟨hf, parts, hp, he⟩ := Scan.fromRun_readFrom [] ha
  have hm := mapM_statReferences hp (by rwa [he])
  simp only [statReferences, tokens_eq (show (scan text).failure = none from hf)]
  change (do
    let found ← (Scan.fromRun [] text.toList).found.mapM Token.statReferences
    return found.flatten) = _
  rw [hm, ← he, List.filterMap_flatten]
  rfl

/-! ### Values -/

theorem nodup_eraseDups {α : Type} [BEq α] [LawfulBEq α] (xs : List α) : xs.eraseDups.Nodup := by
  cases xs with
  | nil => simp
  | cons x xs =>
    have : (xs.filter fun y ↦ !y == x).length < xs.length + 1 :=
      Nat.lt_succ_of_le (List.length_filter_le _ xs)
    rw [List.eraseDups_cons, List.nodup_cons]
    exact ⟨by simp, nodup_eraseDups _⟩
termination_by xs.length

/-- The id that a mention asks for the value of. -/
def Mention.valueId? (m : Mention) : Option Nat :=
  if m.isStatValue then some (Text.digitsValue m.digits) else none

theorem Mention.statMeaning?_bind (m : Mention) :
    (m.statMeaning?.bind fun r ↦ if r.property = .value then some r.id else none) = m.valueId? := by
  obtain ⟨subject, digits, property⟩ := m
  cases subject <;> cases property <;> rfl

/-- The ids whose values a text asks for are those of its mentions, each at its first place. -/
theorem statValueIds_eq {text : String} (h : ReadableIds text) :
    statValueIds text = .ok ((readAll text.toList).filterMap Mention.valueId?).eraseDups := by
  rw [statValueIds, statReferences_eq h]
  simp only [Except.map, List.filterMap_filterMap, Mention.statMeaning?_bind]

/-- An id is among those whose values are asked for exactly when a mention of it occurs. -/
theorem mem_filterMap_valueId?_iff {text : String} {n : Nat} :
    n ∈ (readAll text.toList).filterMap Mention.valueId? ↔ AsksFor text n := by
  simp only [List.mem_filterMap, mem_readAll_iff, AsksFor, Mention.valueId?]
  constructor
  · rintro ⟨m, hm, hv⟩
    split at hv
    · next hs => exact ⟨m, hm, hs, congrArg Int.ofNat (Option.some.inj hv)⟩
    · simp at hv
  · rintro ⟨m, hm, hs, hv⟩
    refine ⟨m, hm, ?_⟩
    rw [if_pos hs, Int.ofNat.inj hv]

/-- The ids whose values a text asks for can be found when they can be read. -/
theorem exists_statValueIds {text : String} (h : ReadableIds text) :
    ∃ ids, statValueIds text = .ok ids ∧ ids.Nodup ∧ ∀ n : Nat, n ∈ ids ↔ AsksFor text n := by
  refine ⟨_, statValueIds_eq h, nodup_eraseDups _, fun n ↦ ?_⟩
  rw [List.mem_eraseDups, mem_filterMap_valueId?_iff]

/-- A text asks for nothing below nought. -/
theorem AsksFor.exists_nat {text : String} {id : Int} (h : AsksFor text id) :
    ∃ n : Nat, id = n := by
  obtain ⟨m, -, -, hm⟩ := h
  exact ⟨_, hm.symm⟩

/-- A text that is a mention asks for the value that is mentioned. -/
theorem asksFor_of_mention {text : String} {m : Mention} (h : read? text.toList = some (m, []))
    (hv : m.isStatValue = true) : AsksFor text (Text.digitsValue m.digits) := by
  obtain ⟨hm, he⟩ := read?_eq_some_iff.mp h
  rw [List.append_nil] at he
  exact ⟨m, ⟨hm, he ▸ List.infix_refl _⟩, hv, rfl⟩

/-- An empty text asks for nothing. -/
theorem not_asksFor_empty (id : Int) : ¬ AsksFor "" id := by
  rintro ⟨m, ⟨-, hi⟩, -, -⟩
  have := List.infix_nil.mp hi
  simp [source, opening] at this

/-- An id that can be read can be written. -/
theorem AsksFor.isWritable {text : String} {id : Int} (hr : ReadableIds text)
    (h : AsksFor text id) : Numeral.isWritable id = true := by
  obtain ⟨m, hm, -, rfl⟩ := h
  have hlt := Nat.lt_of_lt_of_le (Numeral.digitsValue_lt m.digits)
    (Nat.pow_le_pow_right (by decide) (hr m hm))
  simpa [Numeral.isWritable] using hlt

/-- A text that is no longer than an id may be has readable ids. -/
theorem readableIds_of_length_le {text : String} (h : text.length ≤ maxDigits) :
    ReadableIds text := by
  rintro m ⟨-, hi⟩
  have := hi.length_le
  have hd : m.digits.length ≤ m.source.length := by
    simp only [source, List.length_append]
    omega
  rw [String.length_toList] at this
  omega

end CharacterSheet
