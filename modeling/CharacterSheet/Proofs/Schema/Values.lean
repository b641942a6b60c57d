import CharacterSheet.Json.Reader
import CharacterSheet.Schema.Document
import CharacterSheet.Schema.Scalars

/-!
# Values that are kept as they are

A value is plain when its objects have texts as keys, at every depth: it is what a document says,
with nothing left to settle. Main statements: a document is read as a plain value, and a plain value
whose numbers are all finite is written as it is.
-/

namespace CharacterSheet
namespace Json

mutual

/-- Whether all objects of a value have texts as keys. -/
def isPlain : Json → Bool
  | .array xs => arePlainItems xs
  | .object fs => arePlainFields fs
  | .table _ => false
  | _ => true

/-- Whether all items are plain. -/
def arePlainItems : List Json → Bool
  | [] => true
  | x :: xs => isPlain x && arePlainItems xs

/-- Whether the values of all fields are plain. -/
def arePlainFields : List (String × Json) → Bool
  | [] => true
  | (_, v) :: fs => isPlain v && arePlainFields fs

end

/-- What stands at a place inside a value. -/
def at? : List Step → Json → Option Json
  | [], v => some v
  | .field key :: place, v => (v.get? key).bind (at? place)
  | .index i :: place, .array items => if i < 0 then none else items[i.toNat]?.bind (at? place)
  | .index _ :: _, _ => none

theorem at?_field (key : String) (v : Json) : v.at? [.field key] = v.get? key :=
  Option.bind_fun_some _

theorem at?_index (i : Int) (items : List Json) :
    (array items).at? [.index i] = if i < 0 then none else items[i.toNat]? :=
  congrArg _ (Option.bind_fun_some _)

/-- A place is reached by way of any place before it. -/
theorem at?_append (before place : List Step) (v : Json) :
    v.at? (before ++ place) = (v.at? before).bind (at? place) := by
  induction before generalizing v with
  | nil => rfl
  | cons step before ih =>
    cases step with
    | field key =>
      rw [List.cons_append, at?, at?]
      cases v.get? key with
      | none => rfl
      | some w => exact ih w
    | index i =>
      cases v with
      | array items =>
        rw [List.cons_append, at?, at?]
        split
        · rfl
        · cases items[i.toNat]? with
          | none => rfl
          | some w => exact ih w
      | _ => rfl

/-- A place is reached step by step. -/
theorem at?_cons (step : Step) (place : List Step) (v : Json) :
    v.at? (step :: place) = (v.at? [step]).bind (at? place) :=
  at?_append [step] place v

/-! ### Plain values -/

theorem arePlainItems_iff {xs : List Json} :
    arePlainItems xs = true ↔ ∀ x ∈ xs, x.isPlain = true := by
  induction xs with
  | nil => simp [arePlainItems]
  | cons x xs ih => simp [arePlainItems, ih]

theorem arePlainFields_iff {fs : Fields} :
    arePlainFields fs = true ↔ ∀ f ∈ fs, f.2.isPlain = true := by
  induction fs with
  | nil => simp [arePlainFields]
  | cons f fs ih => simp [arePlainFields, ih]

theorem fieldNumbers_eq (fs : Fields) : fieldNumbers fs = fs.flatMap (numbers ·.2) := by
  induction fs with
  | nil => rfl
  | cons f fs ih => rw [fieldNumbers, ih, List.flatMap_cons]

/-- The fields of a plain value are those of an object. -/
theorem eq_object_of_isPlain {v : Json} {fs : Fields} (hv : v.isPlain = true)
    (hfs : v.fields? = some fs) : v = .object fs := by
  cases v with
  | object gs => exact congrArg _ (Option.some_inj.mp hfs)
  | table _ => cases hv
  | _ => cases hfs

/-- A value under a key is one of those of the fields. -/
theorem mem_of_get? {key : String} {fs : Fields} {v : Json} (h : fs.get? key = some v) :
    (key, v) ∈ fs := by
  induction fs with
  | nil => cases h
  | cons f fs ih =>
    obtain ⟨k, w⟩ := f
    rw [Fields.get?] at h
    split at h
    · next hk =>
      cases h
      rw [hk]
      exact List.mem_cons_self
    · exact List.mem_cons_of_mem _ (ih h)

/-- The value of a field of a plain value is plain. -/
theorem isPlain_of_get? {v w : Json} {fs : Fields} {key : String} (hv : v.isPlain = true)
    (hfs : v.fields? = some fs) (h : fs.get? key = some w) : w.isPlain = true := by
  rw [eq_object_of_isPlain hv hfs] at hv
  exact arePlainFields_iff.mp hv _ (mem_of_get? h)

/-! ### Documents that are read -/

/-- What holds of a value when it holds of its parts, and of a number when its integer can be
written. -/
structure IsComposed (p : Json → Prop) : Prop where
  null : p .null
  bool : ∀ b, p (.bool b)
  number : ∀ n, (∀ i ∈ n.int?, Numeral.isWritable i = true) → p (.number n)
  string : ∀ s, p (.string s)
  unpaired : ∀ ps, p (.unpaired ps)
  array : ∀ xs, (∀ x ∈ xs, p x) → p (.array xs)
  object : ∀ fs : Fields, (∀ f ∈ fs, p f.2) → p (.object fs)

theorem Fields.forall_mem_set {p : Json → Prop} {key : String} {v : Json} {fs : Fields} (hv : p v)
    (h : ∀ f ∈ fs, p f.2) : ∀ f ∈ fs.set key v, p f.2 := by
  induction fs with
  | nil => simpa [set] using hv
  | cons f fs ih =>
    obtain ⟨hf, hfs⟩ := List.forall_mem_cons.mp h
    rw [set]
    split
    · exact List.forall_mem_cons.mpr ⟨hv, hfs⟩
    · exact List.forall_mem_cons.mpr ⟨hf, ih hfs⟩

theorem Fields.forall_mem_ofEntries {p : Json → Prop} {entries : Fields}
    (h : ∀ e ∈ entries, p e.2) : ∀ f ∈ ofEntries entries, p f.2 := by
  have hfold (fs : Fields) (hfs : ∀ f ∈ fs, p f.2) :
      ∀ f ∈ entries.foldl (fun fs e ↦ set e.1 e.2 fs) fs, p f.2 := by
    induction entries generalizing fs with
    | nil => exact hfs
    | cons e entries ih =>
      obtain ⟨he, h⟩ := List.forall_mem_cons.mp h
      exact ih h _ (forall_mem_set he hfs)
  exact hfold [] (by simp)

namespace Reader

/-- An integer that is read from digits can be written. -/
theorem isWritable_of_readDigits {cs : List Char} {n : Nat} (h : Numeral.readDigits cs = .ok n)
    (negative : Bool) : Numeral.isWritable (Numeral.withSign negative n) = true := by
  unfold Numeral.readDigits at h
  split at h
  · next hlength =>
    have hn : (Numeral.withSign negative n).natAbs = n := by
      unfold Numeral.withSign
      split <;> simp
    cases h
    refine Numeral.isWritable_of_lt hlength ?_
    rw [hn]
    exact Numeral.digitsValue_lt cs
  · contradiction

/-- The integer of a numeral can be written. -/
theorem isWritable_of_numberOf {negative : Bool} {whole fraction power : List Char} {n : Number}
    (h : numberOf negative whole fraction power = .ok n) :
    ∀ i ∈ n.int?, Numeral.isWritable i = true := by
  unfold numberOf at h
  split at h
  · cases hw : Numeral.readDigits whole with
    | error e => simp [hw, Except.map] at h
    | ok k =>
      rw [hw] at h
      cases h
      rintro i ⟨⟩
      exact isWritable_of_readDigits hw negative
  · cases h
    rintro i ⟨⟩

theorem holds_of_scalar {p : Json → Prop} (hp : IsComposed p) {cs : List Char} {v : Json}
    {rest : Rest cs} (h : scalar cs = .ok (v, rest)) : p v := by
  have hfloat (x : Float) : p (.number (.float x)) := hp.number _ (by rintro i ⟨⟩)
  have hwords : ∀ word ∈ words, p word.2 := by
    simp only [words, List.forall_mem_cons]
    exact ⟨hp.null, hp.bool true, hp.bool false, hfloat _, hfloat _, hfloat _, by simp⟩
  unfold scalar at h
  split at h
  · next hf =>
    split at h
    · cases h
      exact hwords _ (List.mem_of_find?_eq_some hf)
    · cases h
  · split at h
    · split at h
      · cases h
      · next hn =>
        split at h
        · cases h
          exact hp.number _ (isWritable_of_numberOf hn)
        · cases h
    · cases h

theorem holds_of_ofPoints {p : Json → Prop} (hp : IsComposed p) (ps : List Text.CodePoint) :
    p (ofPoints ps) := by
  unfold ofPoints
  split
  · exact hp.string _
  · exact hp.unpaired _

-- Along the calls of the reader. The text is named anew in front of the cases, so that the equation
-- between both says in each of them that what is read next is shorter.
mutual

theorem holds_of_value {p : Json → Prop} (hp : IsComposed p) {cs : List Char} {v : Json}
    {rest : Rest cs} (h : value cs = .ok (v, rest)) : p v := by
  generalize hcs : cs = text at rest h
  unfold value at h
  split at h
  · cases h
  · split at h
    · cases h
    · cases h
      exact holds_of_ofPoints hp _
  · next body =>
    have := length_skipSpace_le body
    dsimp only at h
    split at h
    · cases h
      exact hp.array [] (by simp)
    · split at h
      · cases h
      · next hi =>
        cases h
        exact hp.array _ (holds_of_items hp hi)
  · next body =>
    have := length_skipSpace_le body
    dsimp only at h
    split at h
    · cases h
      exact hp.object [] (by simp)
    · split at h
      · cases h
      · next hm =>
        cases h
        exact hp.object _ (Fields.forall_mem_ofEntries (holds_of_members hp hm))
  · exact holds_of_scalar hp h
termination_by (cs.length, 0)
decreasing_by
  all_goals
    subst hcs
    simp_wf
    omega

theorem holds_of_items {p : Json → Prop} (hp : IsComposed p) {cs : List Char} {xs : List Json}
    {rest : Rest cs} (h : items cs = .ok (xs, rest)) : ∀ x ∈ xs, p x := by
  unfold items at h
  split at h
  · cases h
  · next hx =>
    have hx := holds_of_value hp hx
    split at h
    · cases h
      simpa using hx
    · next hs =>
      have := length_skipSpace_lt hs
      dsimp only at h
      split at h
      · cases h
      · split at h
        · cases h
        · next hi =>
          cases h
          exact List.forall_mem_cons.mpr ⟨hx, holds_of_items hp hi⟩
    · cases h
termination_by (cs.length, 1)
decreasing_by all_goals omega

theorem holds_of_members {p : Json → Prop} (hp : IsComposed p) {cs : List Char} {fs : Fields}
    {rest : Rest cs} (h : members cs = .ok (fs, rest)) : ∀ f ∈ fs, p f.2 := by
  generalize hcs : cs = text at rest h
  unfold members at h
  split at h
  · split at h
    · cases h
    · split at h
      · next hs =>
        have := length_skipSpace_lt hs
        dsimp only at h
        split at h
        · cases h
        · next hv =>
          have hv := holds_of_value hp hv
          split at h
          · cases h
            simpa using hv
          · next hs =>
            have := length_skipSpace_lt hs
            split at h
            · cases h
            · split at h
              · cases h
              · next hm =>
                cases h
                exact List.forall_mem_cons.mpr ⟨hv, holds_of_members hp hm⟩
          · cases h
      · cases h
  · cases h
termination_by (cs.length, 1)
decreasing_by
  all_goals
    subst hcs
    simp_wf
    omega

end
end Reader

/-- What holds of a value when it holds of its parts holds of a document that is read. -/
theorem holds_of_read {p : Json → Prop} (hp : IsComposed p) {text : String} {v : Json}
    (h : read text = .ok v) : p v := by
  unfold read at h
  dsimp only at h
  split at h
  · cases h
  · split at h
    · cases h
    · next hv =>
      split at h
      · cases h
        exact Reader.holds_of_value hp hv
      · cases h

/-- A document is read as a plain value. -/
theorem isPlain_of_read {text : String} {v : Json} (h : read text = .ok v) : v.isPlain = true :=
  holds_of_read (p := (isPlain · = true))
    { null := rfl
      bool := fun _ ↦ rfl
      number := fun _ _ ↦ rfl
      string := fun _ ↦ rfl
      unpaired := fun _ ↦ rfl
      array := fun _ ↦ arePlainItems_iff.mpr
      object := fun _ ↦ arePlainFields_iff.mpr } h

/-! ### Settling and writing -/

mutual

/-- There is nothing to settle in a plain value. -/
theorem settled_of_isPlain (v : Json) (h : v.isPlain = true) : v.settled = v := by
  match v with
  | .null | .bool _ | .number _ | .string _ | .unpaired _ => rfl
  | .array xs => exact congrArg _ (settledItems_of_arePlainItems xs h)
  | .object fs => exact congrArg _ (settledFields_of_arePlainFields fs h)
  | .table _ => cases h

theorem settledItems_of_arePlainItems (xs : List Json) (h : arePlainItems xs = true) :
    settledItems xs = xs := by
  match xs with
  | [] => rfl
  | x :: xs =>
    obtain ⟨hx, hs⟩ := Bool.and_eq_true_iff.mp h
    rw [settledItems, settled_of_isPlain x hx, settledItems_of_arePlainItems xs hs]

theorem settledFields_of_arePlainFields (fs : List (String × Json))
    (h : arePlainFields fs = true) : settledFields fs = fs := by
  match fs with
  | [] => rfl
  | (k, v) :: fs =>
    obtain ⟨hv, hs⟩ := Bool.and_eq_true_iff.mp h
    rw [settledFields, settled_of_isPlain v hv, settledFields_of_arePlainFields fs hs]

end

mutual

/-- A plain value whose numbers are finite is written as it is. -/
theorem written_of_isPlain (v : Json) (h : v.isPlain = true)
    (hn : ∀ n ∈ v.numbers, n.isFinite = true) : v.written = v := by
  match v with
  | .null | .bool _ | .string _ | .unpaired _ => rfl
  | .number n => rw [written, if_pos (hn n List.mem_cons_self)]
  | .array xs => exact congrArg _ (writtenItems_of_arePlainItems xs h hn)
  | .object fs => exact congrArg _ (writtenFields_of_arePlainFields fs h hn)
  | .table _ => cases h

theorem writtenItems_of_arePlainItems (xs : List Json) (h : arePlainItems xs = true)
    (hn : ∀ n ∈ itemNumbers xs, n.isFinite = true) : writtenItems xs = xs := by
  match xs with
  | [] => rfl
  | x :: xs =>
    obtain ⟨hx, hs⟩ := Bool.and_eq_true_iff.mp h
    obtain ⟨hnx, hns⟩ := List.forall_mem_append.mp hn
    rw [writtenItems, written_of_isPlain x hx hnx, writtenItems_of_arePlainItems xs hs hns]

theorem writtenFields_of_arePlainFields (fs : List (String × Json))
    (h : arePlainFields fs = true) (hn : ∀ n ∈ fieldNumbers fs, n.isFinite = true) :
    writtenFields fs = fs := by
  match fs with
  | [] => rfl
  | (k, v) :: fs =>
    obtain ⟨hv, hs⟩ := Bool.and_eq_true_iff.mp h
    obtain ⟨hnv, hns⟩ := List.forall_mem_append.mp hn
    rw [writtenFields, written_of_isPlain v hv hnv, writtenFields_of_arePlainFields fs hs hns]

end

end Json
end CharacterSheet
