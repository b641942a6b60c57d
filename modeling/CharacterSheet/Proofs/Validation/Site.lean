import CharacterSheet.Proofs.Formula.Detection
import CharacterSheet.Validation

/-!
# What may be wrong with a schema

A site is a place of a schema together with what is asked of it. A schema violates a site when
what is asked does not hold there, and an issue reports a site when it names the place and
explains what is wrong. Issues report exactly some sites when there is one for each of them.
Main statement: lists of issues that report different sites may be put behind one another.
-/

namespace CharacterSheet

/-- A place in a schema, and what is asked of it. Stats, sections and options are given by their
indexes. -/
inductive Site where
  /-- The head has an id. -/
  | headId
  /-- The head has a name. -/
  | headName
  | statName (i : Nat)
  | sectionName (i : Nat)
  | optionName (i j : Nat)
  /-- The id of a stat does not occur before it. -/
  | statId (i : Nat)
  /-- The id of a section does not occur before it. -/
  | sectionId (i : Nat)
  /-- The bounds of a numeric stat are in order. -/
  | bounds (i : Nat)
  /-- An enumeration has no more options than it may have. -/
  | optionCount (i : Nat)
  /-- The value of an option does not occur before it. -/
  | optionValue (i j : Nat)
  /-- The formula of a calculated stat is not empty. -/
  | formula (i : Nat)
  /-- The formula of a calculated stat leads to no cycle. -/
  | cycle (i : Nat)
  /-- The formula of a calculated stat may ask for the value of the stat with an id. -/
  | reference (i : Nat) (id : Int)
  /-- A section says what it shows. -/
  | previewKind (i : Nat)

/-- The parts of a schema. -/
inductive SchemaPart where
  | head
  | stat (i : Nat)
  | sheetSection (i : Nat)
  deriving DecidableEq

namespace Site
open Validation

/-- The part of the schema that a site belongs to. -/
def part : Site → SchemaPart
  | .headId | .headName => .head
  | .statName i | .optionName i _ | .statId i | .bounds i | .optionCount i | .optionValue i _
  | .formula i | .cycle i | .reference i _ => .stat i
  | .sectionName i | .sectionId i | .previewKind i => .sheetSection i

/-- The path to the place of an option. -/
def optionPath (i j : Nat) : String :=
  itemPath "stats" i ++ ".options[" ++ toString j ++ "]"

/-- The path to the place of a site. -/
def path : Site → String
  | .headId => "config.id"
  | .headName => "config.name.default"
  | .statName i => itemPath "stats" i ++ ".name.default"
  | .sectionName i => itemPath "sections" i ++ ".name.default"
  | .optionName i j => optionPath i j ++ ".name.default"
  | .statId i => itemPath "stats" i ++ ".id"
  | .sectionId i => itemPath "sections" i ++ ".id"
  | .bounds i => itemPath "stats" i
  | .optionCount i => itemPath "stats" i ++ ".options"
  | .optionValue i j => optionPath i j ++ ".value"
  | .formula i | .cycle i | .reference i _ => itemPath "stats" i ++ ".formula"
  | .previewKind i => itemPath "sections" i ++ ".preview.type"

end Site

namespace GameSystem

/-- The graph of dependencies in which a stat has a formula of its own. -/
def DependsWith (s : GameSystem) (target : Int) (formula : String) : Int → Int → Prop :=
  DependsOn (formulaAt s.stats target formula)

/-- What is asked of a place does not hold there. -/
def Violates (s : GameSystem) : Site → Prop
  | .headId => s.config.id = none
  | .headName => s.config.name.default = ""
  | .statName i => ∃ stat ∈ s.stats[i]?, stat.name.default = ""
  | .sectionName i => ∃ sec ∈ s.sections[i]?, sec.name.default = ""
  | .optionName i j =>
    ∃ stat ∈ s.stats[i]?, ∃ options ∈ stat.ownOptions?, ∃ o ∈ options[j]?, o.name.default = ""
  | .statId i => ∃ stat ∈ s.stats[i]?, stat.id ∈ (s.stats.take i).map (·.id)
  | .sectionId i => ∃ sec ∈ s.sections[i]?, sec.id ∈ (s.sections.take i).map (·.id)
  | .bounds i =>
    ∃ stat ∈ s.stats[i]?, ∃ low high rolls,
      stat.detail = .numeric (some low) (some high) rolls ∧ Number.compare .gt low high = true
  | .optionCount i =>
    ∃ stat ∈ s.stats[i]?, ∃ options ∈ stat.ownOptions?, options.length > maxOptions
  | .optionValue i j =>
    ∃ stat ∈ s.stats[i]?, ∃ options ∈ stat.ownOptions?, ∃ o ∈ options[j]?,
      o.value ∈ (options.take j).map (·.value)
  | .formula i => ∃ stat ∈ s.stats[i]?, stat.formula? = some ""
  | .cycle i =>
    ∃ stat ∈ s.stats[i]?, ∃ f ∈ stat.formula?, ReachesCycle (s.DependsWith stat.id f) stat.id
  | .reference i id =>
    ∃ stat ∈ s.stats[i]?, ∃ f ∈ stat.formula?, AsksFor f id ∧
      ∀ other ∈ findStat s.stats id, other.isText = true
  | .previewKind i => ∃ sec ∈ s.sections[i]?, sec.preview.kind = none

/-- What is wrong at a place. -/
def Explains (s : GameSystem) : Site → IssueCause → Prop
  | .headId, cause => cause = .required "config.id"
  | .headName, cause => cause = .required "config.name.default"
  | .statName _, cause | .sectionName _, cause => cause = .required "name.default"
  | .optionName .., cause => cause = .required "option name.default"
  | .statId i, cause =>
    ∃ stat ∈ s.stats[i]?, ∃ first ∈ (s.stats.map (·.id)).idxOf? stat.id,
      cause = .duplicateId "stats" stat.id first i
  | .sectionId i, cause =>
    ∃ sec ∈ s.sections[i]?, ∃ first ∈ (s.sections.map (·.id)).idxOf? sec.id,
      cause = .duplicateId "sections" sec.id first i
  | .bounds i, cause =>
    ∃ stat ∈ s.stats[i]?, ∃ low high rolls,
      stat.detail = .numeric (some low) (some high) rolls ∧ cause = .bounds low high
  | .optionCount i, cause =>
    ∃ stat ∈ s.stats[i]?, ∃ options ∈ stat.ownOptions?, cause = .tooManyOptions options.length
  | .optionValue i j, cause =>
    ∃ stat ∈ s.stats[i]?, ∃ options ∈ stat.ownOptions?, ∃ o ∈ options[j]?,
      cause = .duplicateOption o.value
  | .formula _, cause => cause = .required "formula"
  | .cycle i, cause =>
    ∃ stat ∈ s.stats[i]?, ∃ f ∈ stat.formula?, ∃ path,
      IsLasso (s.DependsWith stat.id f) stat.id path ∧ cause = .cycle path
  | .reference _ id, cause =>
    cause = if (findStat s.stats id).isNone then .missingStat "formula" id
      else .textStat "formula" id
  | .previewKind _, cause => cause = .required "preview.type"

/-- An issue names the place of a site and explains what is wrong there. -/
def Reports (s : GameSystem) (x : Site) (i : Issue) : Prop :=
  i.path = x.path ∧ s.Explains x i.cause

/-- There is one issue for each of some sites, and no other issue. -/
def ReportsExactly (s : GameSystem) (p : Site → Prop) (issues : List Issue) : Prop :=
  ∃ sites : List Site, sites.Nodup ∧ (∀ x, x ∈ sites ↔ p x) ∧ List.Forall₂ s.Reports sites issues

end GameSystem

/-! ### Putting issues together -/

namespace GameSystem
namespace ReportsExactly
variable {s : GameSystem} {p q : Site → Prop} {xs ys : List Issue}

theorem nil (h : ∀ x, ¬ p x) : s.ReportsExactly p [] :=
  ⟨[], List.nodup_nil, by simpa using h, .nil⟩

theorem congr (h : s.ReportsExactly p xs) (hpq : ∀ x, q x ↔ p x) : s.ReportsExactly q xs := by
  obtain ⟨sites, hn, hm, hr⟩ := h
  exact ⟨sites, hn, fun x ↦ (hm x).trans (hpq x).symm, hr⟩

theorem append (hx : s.ReportsExactly p xs) (hy : s.ReportsExactly q ys)
    (hd : ∀ x, p x → ¬ q x) : s.ReportsExactly (fun x ↦ p x ∨ q x) (xs ++ ys) := by
  obtain ⟨as, hna, hma, hra⟩ := hx
  obtain ⟨bs, hnb, hmb, hrb⟩ := hy
  refine ⟨as ++ bs, ?_, fun x ↦ ?_, List.rel_append hra hrb⟩
  · refine List.nodup_append'.mpr ⟨hna, hnb, fun x ha hb ↦ ?_⟩
    exact hd x ((hma x).mp ha) ((hmb x).mp hb)
  · rw [List.mem_append, hma, hmb]

/-- One issue reports one site. -/
theorem single {a : Site} {i : Issue} (h : s.Reports a i) : s.ReportsExactly (· = a) [i] :=
  ⟨[a], List.nodup_singleton _, by simp, .cons h .nil⟩

/-- An issue that is there under a condition reports a site under that condition. -/
theorem issueIf (a : Site) (condition : Bool) (cause : IssueCause)
    (h : condition = true → s.Explains a cause) :
    s.ReportsExactly (fun x ↦ x = a ∧ condition = true)
      (Validation.issueIf condition a.path cause) := by
  cases condition with
  | true => exact (single ⟨rfl, h rfl⟩).congr (by simp)
  | false => exact nil (by simp)

/-- Each of the sites is reported. -/
theorem exists_mem (h : s.ReportsExactly p xs) {x : Site} (hx : p x) : ∃ i ∈ xs, s.Reports x i := by
  obtain ⟨sites, -, hm, hr⟩ := h
  have hx := (hm x).mpr hx
  clear hm
  induction hr with
  | nil => simp at hx
  | cons hi hr ih =>
    rcases List.mem_cons.mp hx with rfl | hx
    · exact ⟨_, List.mem_cons_self, hi⟩
    · obtain ⟨i, hm, hi⟩ := ih hx
      exact ⟨i, List.mem_cons_of_mem _ hm, hi⟩

/-- Nothing is reported exactly when nothing is to be reported. -/
theorem eq_nil_iff (h : s.ReportsExactly p xs) : xs = [] ↔ ∀ x, ¬ p x := by
  obtain ⟨sites, -, hm, hr⟩ := h
  constructor
  · rintro rfl x hx
    rw [List.forall₂_nil_right_iff.mp hr] at hm
    exact absurd ((hm x).mpr hx) List.not_mem_nil
  · intro hn
    have : sites = [] := List.eq_nil_iff_forall_not_mem.mpr fun x hx ↦ hn x ((hm x).mp hx)
    rw [this] at hr
    exact List.forall₂_nil_left_iff.mp hr

/-- Issues of items that report different sites may be put behind one another. -/
theorem flatMap {α : Type} {as : List α} {f : α → List Issue} {r : α → Site → Prop}
    (hn : as.Nodup) (h : ∀ a ∈ as, s.ReportsExactly (r a) (f a))
    (hd : ∀ a b x, r a x → r b x → a = b) :
    s.ReportsExactly (fun x ↦ ∃ a ∈ as, r a x) (as.flatMap f) := by
  induction as with
  | nil => exact nil (by simp)
  | cons a as ih =>
    obtain ⟨ha, has⟩ := List.nodup_cons.mp hn
    obtain ⟨hf, hfs⟩ := List.forall_mem_cons.mp h
    refine ((hf.append (ih has hfs) ?_)).congr (by simp)
    rintro x hx ⟨b, hb, hbx⟩
    exact ha (hd a b x hx hbx ▸ hb)

/-- Issues of items that are looked at together with those before them may be put behind one
another. -/
theorem eachWithPrevious {α : Type} {f : List α → α → List Issue} {r : Nat → Site → Prop}
    (before rest : List α)
    (h : ∀ front a back, rest = front ++ a :: back →
      s.ReportsExactly (r (before.length + front.length)) (f (before ++ front) a))
    (hd : ∀ i j x, r i x → r j x → i = j) :
    s.ReportsExactly (fun x ↦ ∃ j, before.length ≤ j ∧ j < before.length + rest.length ∧ r j x)
      (Validation.eachWithPrevious f before rest) := by
  induction rest generalizing before with
  | nil => exact nil (by simp; omega)
  | cons a rest ih =>
    have ha := h [] a rest rfl
    have hr := ih (before ++ [a]) fun front b back he ↦ by
      have := h (a :: front) b back (by rw [he, List.cons_append])
      simpa [Nat.add_assoc, Nat.add_comm 1] using this
    rw [List.append_nil] at ha
    refine (ha.append hr ?_).congr fun x ↦ ?_
    · rintro x hx ⟨j, hj, -, hjx⟩
      have := hd _ _ x hx hjx
      simp at hj this
      omega
    · simp only [List.length_append, List.length_cons, List.length_nil]
      constructor
      · rintro ⟨j, hj, hlt, hx⟩
        rcases Nat.eq_or_lt_of_le hj with rfl | hj
        · exact .inl hx
        · exact .inr ⟨j, hj, by omega, hx⟩
      · rintro (hx | ⟨j, hj, hlt, hx⟩)
        · exact ⟨before.length, Nat.le_refl _, by omega, hx⟩
        · exact ⟨j, by omega, by omega, hx⟩

end ReportsExactly
end GameSystem
end CharacterSheet
