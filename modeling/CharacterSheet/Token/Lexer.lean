import CharacterSheet.Token.Mention

/-!
# Scanning texts for tokens

A scan walks over a text from left to right. Where a complete token starts, the token is taken
and the scan goes on behind it; every other character is literal. The body of an expression
is a non-empty run up to the first closing bracket that does not close a reference inside the
body. A scan ends early at a reference whose id has too many digits.
-/

namespace CharacterSheet

/-- The body of an expression up to its closing bracket, with the rest behind the bracket;
nothing when no bracket closes it. -/
def expressionBody? (cs : List Char) : Except NumeralError (Option (List Char × List Char)) :=
  match cs with
  | [] => .ok none
  | c :: rest =>
    if c = '>' then .ok (some ([], rest))
    else
      match h : Mention.read? (c :: rest) with
      | some (m, behind) =>
        have := Mention.length_lt_of_read? h
        match m.reference with
        | .error e => .error e
        | .ok _ =>
          (expressionBody? behind).map fun found ↦ found.map fun (body, tail) ↦
            (m.source ++ body, tail)
      | none =>
        (expressionBody? rest).map fun found ↦ found.map fun (body, tail) ↦ (c :: body, tail)
termination_by cs.length
decreasing_by
  all_goals
    simp only [List.length_cons] at *
    omega

namespace Token

/-- The words that open an expression. -/
def opening (kind : ExpressionKind) : List Char := '<' :: (kind.word.toList ++ [':'])

/-- The kind of expression whose opening stands at the front of a text, with the rest. -/
def readOpening? (cs : List Char) : Option (ExpressionKind × List Char) :=
  [ExpressionKind.math, .dice].findSome? fun k ↦ (Text.after? (opening k) cs).map (k, ·)

/-- The expression at the front of a text, with the rest. -/
def readExpression? (cs : List Char) : Except NumeralError (Option (Token × List Char)) :=
  match readOpening? cs with
  | none => .ok none
  | some (kind, inner) =>
    (expressionBody? inner).map fun
      | some (body, rest) =>
        if body.isEmpty then none else some (.expression kind (String.ofList body), rest)
      | none => none

/-- The token at the front of a text, with the rest. -/
def read? (cs : List Char) : Except NumeralError (Option (Token × List Char)) :=
  match Mention.read? cs with
  | some (m, rest) => m.reference.map fun r ↦ some (.reference r, rest)
  | none => readExpression? cs

/-- What an expression's body leaves is shorter than the text. -/
theorem length_lt_of_expressionBody? {cs body rest : List Char}
    (h : expressionBody? cs = .ok (some (body, rest))) : rest.length < cs.length := by
  fun_induction expressionBody? cs generalizing body rest with
  | case1 => simp at h
  | case2 r =>
    obtain ⟨rfl, rfl⟩ : [] = body ∧ r = rest := by simpa using h
    simp
  | case3 => simp at h
  | case4 c r hc m behind hm hlt ref href ih =>
    cases hb : expressionBody? behind with
    | error e => simp [hb, Except.map] at h
    | ok found =>
      cases found with
      | none => simp [hb, Except.map] at h
      | some p =>
        obtain ⟨b, t⟩ := p
        simp only [hb, Except.map, Option.map_some, Except.ok.injEq, Option.some.injEq,
          Prod.mk.injEq] at h
        have := ih hb
        rw [← h.2]
        omega
  | case5 c r hc hm ih =>
    cases hb : expressionBody? r with
    | error e => simp [hb, Except.map] at h
    | ok found =>
      cases found with
      | none => simp [hb, Except.map] at h
      | some p =>
        obtain ⟨b, t⟩ := p
        simp only [hb, Except.map, Option.map_some, Except.ok.injEq, Option.some.injEq,
          Prod.mk.injEq] at h
        have := ih hb
        rw [← h.2]
        simp only [List.length_cons]
        omega

/-- Reading a token shortens the text. -/
theorem length_lt_of_read? {cs rest : List Char} {t : Token}
    (h : read? cs = .ok (some (t, rest))) : rest.length < cs.length := by
  unfold read? at h
  split at h
  · next m r hm =>
    cases hr : m.reference with
    | error e => simp [hr, Except.map] at h
    | ok ref =>
      simp only [hr, Except.map, Except.ok.injEq, Option.some.injEq, Prod.mk.injEq] at h
      rw [← h.2]
      exact Mention.length_lt_of_read? hm
  · unfold readExpression? at h
    split at h
    · simp at h
    · next kind inner hi =>
      obtain ⟨_, k, _, -, hk, -⟩ := List.findSome?_eq_some_iff.mp hi
      obtain ⟨r, hr, he⟩ := Option.map_eq_some_iff.mp hk
      obtain ⟨rfl, rfl⟩ := Prod.mk.inj he
      have hc := congrArg List.length (Text.after?_eq_some_iff.mp hr)
      simp only [List.length_append] at hc
      cases hb : expressionBody? r with
      | error e => simp [hb, Except.map] at h
      | ok found =>
        cases found with
        | none => simp [hb, Except.map] at h
        | some p =>
          obtain ⟨b, t⟩ := p
          simp only [hb, Except.map] at h
          split at h
          · simp at h
          · simp only [Except.ok.injEq, Option.some.injEq, Prod.mk.injEq] at h
            have := length_lt_of_expressionBody? hb
            rw [← h.2]
            omega

end Token

/-- A piece of a text: a literal run, or a token with the characters it was read from. -/
inductive Segment where
  | literal (text : String)
  | token (t : Token) (source : String)
  deriving Repr, DecidableEq

/-- The characters of a segment. -/
def Segment.source : Segment → String
  | .literal text => text
  | .token _ source => source

/-- The token of a segment, if it is one. -/
def Segment.token? : Segment → Option Token
  | .literal _ => none
  | .token t _ => some t

/-- The segments of a text up to its end, or up to an id that is too long. -/
structure Scan where
  segments : List Segment
  failure : Option NumeralError
  deriving Repr, DecidableEq

namespace Scan

/-- A scan with one more segment in front. -/
def cons (s : Segment) (scan : Scan) : Scan := ⟨s :: scan.segments, scan.failure⟩

/-- A scan with a literal run in front, which is given in reverse; an empty run is left out. -/
def afterLiteral (run : List Char) (scan : Scan) : Scan :=
  if run.isEmpty then scan else scan.cons (.literal (String.ofList run.reverse))

/-- The scan of `cs` behind the literal run `run`, which is given in reverse. -/
def fromRun (run cs : List Char) : Scan :=
  match cs with
  | [] => afterLiteral run ⟨[], none⟩
  | c :: rest =>
    if c = '<' then
      match h : Token.read? (c :: rest) with
      | .error e => ⟨[], some e⟩
      | .ok none => fromRun (c :: run) rest
      | .ok (some (t, behind)) =>
        have := Token.length_lt_of_read? h
        let taken := (c :: rest).take ((c :: rest).length - behind.length)
        afterLiteral run ((fromRun [] behind).cons (.token t (String.ofList taken)))
    else fromRun (c :: run) rest
termination_by cs.length
decreasing_by
  all_goals
    simp only [List.length_cons] at *
    omega

/-- All segments of a scan that came to the end of its text. -/
def complete (scan : Scan) : Except NumeralError (List Segment) :=
  match scan.failure with
  | some e => .error e
  | none => .ok scan.segments

end Scan

/-- The scan of a text. -/
def scan (text : String) : Scan := Scan.fromRun [] text.toList

/-- The segments of a text. -/
def segments (text : String) : Except NumeralError (List Segment) := (scan text).complete

/-- The tokens of a text in order. -/
def tokens (text : String) : Except NumeralError (List Token) :=
  (segments text).map (·.filterMap Segment.token?)

/-- Whether a text holds a token. -/
def containsToken (text : String) : Except NumeralError Bool :=
  let found := scan text
  if found.segments.any (·.token?.isSome) then .ok true
  else found.complete.map fun _ ↦ false

/-- The characters of a text from `start` up to, but not including, `stop`. -/
structure Span where
  start : Nat
  stop : Nat
  deriving Repr, DecidableEq

/-- The characters of a text in a span. -/
def Span.slice (s : Span) (text : String) : String :=
  String.ofList ((text.toList.drop s.start).take (s.stop - s.start))

/-- Segments that start at an offset, each with the span it takes. -/
def withSpans (start : Nat) : List Segment → List (Segment × Span)
  | [] => []
  | s :: rest =>
    let stop := start + s.source.length
    (s, ⟨start, stop⟩) :: withSpans stop rest

/-- The tokens of `cs`, which starts at an offset of a text, each with its span. -/
def spannedFrom (start : Nat) (cs : List Char) : Except NumeralError (List (Token × Span)) :=
  match cs with
  | [] => .ok []
  | c :: rest =>
    if c = '<' then
      match h : Token.read? (c :: rest) with
      | .error e => .error e
      | .ok none => spannedFrom (start + 1) rest
      | .ok (some (t, behind)) =>
        have := Token.length_lt_of_read? h
        let stop := start + ((c :: rest).length - behind.length)
        (spannedFrom stop behind).map ((t, ⟨start, stop⟩) :: ·)
    else spannedFrom (start + 1) rest
termination_by cs.length
decreasing_by
  all_goals
    simp only [List.length_cons] at *
    omega

/-- The tokens of a text in order, each with its span. -/
def spannedTokens (text : String) : Except NumeralError (List (Token × Span)) :=
  spannedFrom 0 text.toList

end CharacterSheet
