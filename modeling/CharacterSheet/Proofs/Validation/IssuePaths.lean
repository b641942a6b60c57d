import CharacterSheet.Proofs.Schema.Reading
import CharacterSheet.Proofs.Validation.Loading

/-!
# Where issues stand

A check is given the path of what it looks at, and all that it finds stands at that path or below
it. That an id occurs before is found by looking at entries only, and a cycle by looking at a
formula only. Main statements: where the issues of a stat, of a section and of the settings for
other programs stand, and which kinds are not among them.
-/

namespace CharacterSheet
open Validation

open Arithmetic.Template (bind_eq_ok)
open Json.Bounded (exists_of_map_eq_ok)

/-- An issue stands at a path or below it: its own path starts with that one. -/
def Issue.IsBelow (path : String) (i : Issue) : Prop := path.toList <+: i.path.toList

instance (path : String) (i : Issue) : Decidable (i.IsBelow path) :=
  inferInstanceAs (Decidable (_ <+: _))

namespace Issue.IsBelow
variable {path place collection : String} {i : Issue}

/-- What stands below a path stands below every path that this one starts with. -/
theorem outer (h : i.IsBelow place) (hp : path.toList <+: place.toList) : i.IsBelow path :=
  hp.trans h

/-- One of two paths that an issue stands below starts with the other. -/
theorem comparable (h : i.IsBelow path) (h' : i.IsBelow place) :
    path.toList <+: place.toList ∨ place.toList <+: path.toList :=
  List.prefix_or_prefix_of_prefix h h'

theorem of_itemPath {n : Nat} (h : i.IsBelow (itemPath collection n)) : i.IsBelow collection := by
  refine h.outer ?_
  rw [itemPath, String.toList_append, String.toList_append, String.toList_append,
    List.append_assoc, List.append_assoc]
  exact List.prefix_append ..

/-- An issue stands below one item of a collection at most: a bracket ends the index. -/
theorem index_eq {m n : Nat} (h : i.IsBelow (itemPath collection m))
    (h' : i.IsBelow (itemPath collection n)) : m = n := by
  have digits (k : Nat) : (toString k).toList = Nat.toDigits 10 k := Nat.toList_repr
  have index (k : Nat) (rest : List Char) :
      ((Nat.toDigits 10 k ++ ("]".toList ++ rest)).takeWhile Text.isDecimalDigit) =
        Nat.toDigits 10 k := by
    rw [List.takeWhile_append_of_pos fun _ ↦ Text.isDecimalDigit_of_mem_toDigits,
      show "]".toList = [']'] from rfl, List.singleton_append,
      List.takeWhile_cons_of_neg (by decide), List.append_nil]
  obtain ⟨rest, h⟩ := h
  obtain ⟨rest', h'⟩ := h'
  rw [← h'] at h
  simp only [itemPath, String.toList_append, digits, List.append_assoc] at h
  have he := List.append_cancel_left (List.append_cancel_left h)
  have hd : Nat.toDigits 10 m = Nat.toDigits 10 n := by rw [← index m rest, he, index]
  rw [← Text.digitsValue_toDigits m, hd, Text.digitsValue_toDigits]

end Issue.IsBelow

/-- The kinds of the issues that are found by looking at one thing after the other: of all but
repeated ids and cycles. -/
def IssueKind.isCommon : IssueKind → Bool
  | .duplicateId | .circularDependency => false
  | _ => true

theorem IssueKind.ne_of_isCommon {k : IssueKind} (h : k.isCommon = true) :
    (k != .duplicateId) = true := by
  cases k <;> first | rfl | contradiction

namespace Validation

/-- Some issues stand at a path or below it, and are of certain kinds. -/
def FoundBelow (path : String) (p : IssueKind → Bool) (issues : List Issue) : Prop :=
  ∀ i ∈ issues, i.IsBelow path ∧ p i.cause.kind = true

/-! ### Putting issues together -/

namespace FoundBelow
variable {path place : String} {p q : IssueKind → Bool} {xs ys : List Issue}

theorem nil : FoundBelow path p [] := List.forall_mem_nil _

theorem single {cause : IssueCause} (h : p cause.kind = true) :
    FoundBelow path p [⟨path, cause⟩] :=
  List.forall_mem_singleton.mpr ⟨List.prefix_rfl, h⟩

theorem issueIf {condition : Bool} {cause : IssueCause} (h : p cause.kind = true) :
    FoundBelow path p (issueIf condition path cause) := by
  cases condition with
  | false => exact nil
  | true => exact single h

/-- What stands below a path stands below every path that this one starts with. -/
theorem outer (h : FoundBelow place p xs) (hp : path.toList <+: place.toList) :
    FoundBelow path p xs := fun i hi ↦ ⟨(h i hi).1.outer hp, (h i hi).2⟩

theorem below {suffix : String} (h : FoundBelow (path ++ suffix) p xs) : FoundBelow path p xs :=
  h.outer (by rw [String.toList_append]; exact List.prefix_append ..)

theorem mono (h : FoundBelow path p xs) (hpq : ∀ k, p k = true → q k = true) :
    FoundBelow path q xs := fun i hi ↦ ⟨(h i hi).1, hpq _ (h i hi).2⟩

theorem append (hx : FoundBelow path p xs) (hy : FoundBelow path p ys) :
    FoundBelow path p (xs ++ ys) := List.forall_mem_append.mpr ⟨hx, hy⟩

theorem flatten {xss : List (List Issue)} (h : ∀ xs ∈ xss, FoundBelow path p xs) :
    FoundBelow path p xss.flatten := by
  intro i hi
  obtain ⟨xs, hx, hi⟩ := List.mem_flatten.mp hi
  exact h xs hx i hi

theorem flatMap {α : Type} {as : List α} {f : α → List Issue} (h : ∀ a, FoundBelow path p (f a)) :
    FoundBelow path p (as.flatMap f) := by
  intro i hi
  obtain ⟨a, -, hi⟩ := List.mem_flatMap.mp hi
  exact h a i hi

theorem flatten_mapIdx {α : Type} {as : List α} {f : Nat → α → List Issue}
    (h : ∀ n a, FoundBelow path p (f n a)) : FoundBelow path p (as.mapIdx f).flatten := by
  refine flatten fun xs hx ↦ ?_
  obtain ⟨n, hn, rfl⟩ := List.mem_mapIdx.mp hx
  exact h n _

theorem flatten_mapM {α : Type} {as : List α} {f : α → Findings} {found : List (List Issue)}
    (hf : as.mapM f = .ok found) (h : ∀ a xs, f a = .ok xs → FoundBelow path p xs) :
    FoundBelow path p found.flatten := by
  refine flatten fun xs hx ↦ ?_
  obtain ⟨a, -, ha⟩ := Checked.exists_mem_of_forall₂ (forall₂_of_mapM hf) hx
  exact h a xs ha

theorem eachWithPrevious {α : Type} {f : List α → α → List Issue} {before as : List α}
    (h : ∀ others a, FoundBelow path p (f others a)) :
    FoundBelow path p (eachWithPrevious f before as) := by
  induction as generalizing before with
  | nil => exact nil
  | cons a as ih => exact (h before a).append ih

/-- Issues that are put into words stay where they are. -/
theorem of_worded (h : worded xs = .ok ys) (hx : FoundBelow path p xs) : FoundBelow path p ys :=
  eq_of_worded h ▸ hx

end FoundBelow

/-! ### Heads and entries -/

section
variable {stats : List Stat} {sections : List Int} {path what text collection : String}
  {strict : Bool} {issues : List Issue}

theorem foundBelow_headIssues (head : Option DraftHead) :
    FoundBelow "config" IssueKind.isCommon (headIssues head) := by
  cases head with
  | none => exact .single rfl
  | some head =>
    have id : FoundBelow "config.id" IssueKind.isCommon
        (issueIf (!head.hasId) "config.id" (.required "config.id")) := .issueIf rfl
    have name : FoundBelow "config.name.default" IssueKind.isCommon
        (issueIf (!head.hasName) "config.name.default" (.required "config.name.default")) :=
      .issueIf rfl
    exact (id.outer (by decide)).append (name.outer (by decide))

/-- The way to a fault goes on from the path that it is seen from. -/
theorem foundBelow_faults (path : String) (faults : List Fault) :
    FoundBelow path IssueKind.isCommon (faults.map (Issue.ofFault path)) := by
  intro i hi
  obtain ⟨fault, -, rfl⟩ := List.mem_map.mp hi
  refine ⟨?_, rfl⟩
  simp only [Issue.IsBelow, Issue.ofFault, String.toList_intercalate, List.map_cons]
  generalize (fault.place.map Step.text).map String.toList = steps
  cases steps with
  | nil => exact ⟨[], by rw [List.intercalate_singleton, List.append_nil]⟩
  | cons step steps =>
    rw [List.intercalate_cons_cons, List.append_assoc]
    exact List.prefix_append ..

theorem foundBelow_duplicateIssues {before : List (Option Int)} {id : Option Int} :
    FoundBelow (itemPath collection before.length) (· != .circularDependency)
      (duplicateIssues collection before id) := by
  unfold duplicateIssues
  split
  · exact .nil
  · split
    · exact (FoundBelow.single rfl).below
    · exact .nil

/-! ### Stats -/

theorem foundBelow_boundIssues {min max : Option Number} :
    FoundBelow path IssueKind.isCommon (boundIssues path min max) := by
  unfold boundIssues
  split
  · exact .issueIf rfl
  · exact .nil

theorem foundBelow_optionIssues {before : List EnumOption} {o : EnumOption} :
    FoundBelow path IssueKind.isCommon (optionIssues path before o) :=
  .append (FoundBelow.issueIf rfl).below.below.below.below
    (FoundBelow.issueIf rfl).below.below.below.below

theorem foundBelow_sourceIssues {source : OptionSource} :
    FoundBelow path IssueKind.isCommon (sourceIssues stats strict path source) := by
  cases source with
  | own options =>
    exact (FoundBelow.issueIf rfl).below.append
      (.eachWithPrevious fun _ _ ↦ foundBelow_optionIssues)
  | sharedWith id =>
    simp only [sourceIssues]
    split
    · exact .nil
    · split
      · exact (FoundBelow.single rfl).below
      · exact (FoundBelow.issueIf rfl).below

theorem foundBelow_textIssues (h : textIssues stats path what text = .ok issues) :
    FoundBelow path IssueKind.isCommon issues := by
  obtain ⟨ids, -, rfl⟩ := exists_of_map_eq_ok h
  refine .flatMap fun id ↦ ?_
  unfold valueIssues
  split
  · exact .single rfl
  · exact .issueIf rfl

theorem foundBelow_formIssues (h : formIssues stats path text = .ok issues) :
    FoundBelow path IssueKind.isCommon issues := by
  obtain ⟨expression, -, rfl⟩ := exists_of_map_eq_ok h
  split
  · exact .single rfl
  · exact .nil

/-- The check of a formula may find a cycle. -/
theorem foundBelow_formulaIssues {id : Int} {checker next : CycleChecker}
    (h : formulaIssues stats strict path id text checker = .ok (issues, next)) :
    FoundBelow path (· != .duplicateId) issues := by
  unfold formulaIssues at h
  split at h
  · cases h
    exact (FoundBelow.single rfl).below
  · obtain ⟨answer, -, h⟩ := bind_eq_ok h
    obtain ⟨cycles, hc, h⟩ := bind_eq_ok h
    obtain ⟨references, hr, h⟩ := bind_eq_ok h
    have cycles : FoundBelow path (· != .duplicateId) cycles := by
      refine .of_worded hc ?_
      cases answer with
      | none => exact .nil
      | some cycle => exact (FoundBelow.single rfl).below
    have references : FoundBelow path (· != .duplicateId) references :=
      (foundBelow_textIssues hr).below.mono fun _ ↦ IssueKind.ne_of_isCommon
    cases strict with
    | false =>
      cases h
      exact (cycles.append references).append .nil
    | true =>
      obtain ⟨form, hf, h⟩ := bind_eq_ok h
      cases h
      exact (cycles.append references).append
        ((foundBelow_formIssues hf).below.mono fun _ ↦ IssueKind.ne_of_isCommon)

theorem foundBelow_detailIssues {s : Stat} {checker next : CycleChecker}
    (h : detailIssues stats strict path s checker = .ok (issues, next)) :
    FoundBelow path (· != .duplicateId) issues := by
  have of_worded {xs : List Issue} (hw : (worded xs).map (·, checker) = .ok (issues, next))
      (hx : FoundBelow path IssueKind.isCommon xs) :
      FoundBelow path (· != .duplicateId) issues := by
    obtain ⟨found, hf, he⟩ := exists_of_map_eq_ok hw
    cases he
    exact .of_worded hf (hx.mono fun _ ↦ IssueKind.ne_of_isCommon)
  unfold detailIssues at h
  split at h
  · exact of_worded h foundBelow_boundIssues
  · exact of_worded h foundBelow_sourceIssues
  · exact foundBelow_formulaIssues h
  · cases h
    exact .nil
  · cases h
    exact .nil

theorem foundBelow_diceIssues {d : Dice} (h : diceIssues stats path d = .ok issues) :
    FoundBelow path IssueKind.isCommon issues := by
  obtain ⟨expression, he, h⟩ := bind_eq_ok h
  have expression := (foundBelow_textIssues he).below
  split at h
  · cases h
    exact expression
  · obtain ⟨left, hl, h⟩ := bind_eq_ok h
    obtain ⟨right, hr, h⟩ := bind_eq_ok h
    cases h
    exact (expression.append (foundBelow_textIssues hl).below).append
      (foundBelow_textIssues hr).below

theorem foundBelow_replacementIssues {stat : Int} {used : List Int} {r : Replacement} :
    FoundBelow path IssueKind.isCommon (replacementIssues stats path stat used r) := by
  refine (FoundBelow.issueIf rfl).below.append (.flatten_mapIdx fun j id ↦ ?_)
  unfold replacementOptionIssues
  split
  · exact (FoundBelow.single rfl).below.below.below
  · exact (FoundBelow.issueIf rfl).below.below.below

theorem foundBelow_replacementsIssues {s : Stat}
    (h : replacementsIssues stats path s = .ok issues) :
    FoundBelow path IssueKind.isCommon issues := by
  unfold replacementsIssues at h
  split at h
  · cases h
    exact .nil
  · obtain ⟨used, -, h⟩ := bind_eq_ok h
    exact .of_worded h (.flatten_mapIdx fun i r ↦ foundBelow_replacementIssues.below.below.below)

theorem foundBelow_pageIssues {pages : List Int}
    (h : pageIssues sections path what pages = .ok issues) :
    FoundBelow path IssueKind.isCommon issues :=
  .of_worded h (.flatMap fun _ ↦ .issueIf rfl)

theorem foundBelow_strictStatIssues {s : Stat}
    (h : strictStatIssues stats sections path s = .ok issues) :
    FoundBelow path IssueKind.isCommon issues := by
  obtain ⟨dice, hd, h⟩ := bind_eq_ok h
  obtain ⟨replacements, hr, h⟩ := bind_eq_ok h
  obtain ⟨pages, hp, h⟩ := bind_eq_ok h
  cases h
  have dice : FoundBelow path IssueKind.isCommon dice.flatten :=
    .flatten_mapM hd fun _ _ hx ↦ (foundBelow_diceIssues hx).below.below.below
  exact (dice.append (foundBelow_replacementsIssues hr)).append (foundBelow_pageIssues hp).below

/-- What is found of a stat stands below its path, and tells of no id that occurs before. -/
theorem foundBelow_statIssues {d : Draft} {s : Stat} {checker next : CycleChecker}
    (h : statIssues d strict path s checker = .ok (issues, next)) :
    FoundBelow path (· != .duplicateId) issues := by
  obtain ⟨⟨detail, after⟩, hd, h⟩ := bind_eq_ok h
  have name : FoundBelow path (· != .duplicateId) (issueIf s.name.default.isEmpty
    (path ++ ".name.default") (.required "name.default")) := (FoundBelow.issueIf rfl).below
  have detail := foundBelow_detailIssues hd
  cases strict with
  | false =>
    cases h
    exact (name.append detail).append .nil
  | true =>
    obtain ⟨more, hm, h⟩ := bind_eq_ok h
    cases h
    exact (name.append detail).append
      ((foundBelow_strictStatIssues hm).mono fun _ ↦ IssueKind.ne_of_isCommon)

/-! ### Sections -/

theorem foundBelow_previewIssues {t : Token} :
    FoundBelow path IssueKind.isCommon (previewIssues stats sections path t) := by
  unfold previewIssues
  split
  · split <;> exact .issueIf rfl
  · exact .nil

theorem foundBelow_strictSectionIssues {s : SheetSection}
    (h : strictSectionIssues stats sections path s = .ok issues) :
    FoundBelow path IssueKind.isCommon issues := by
  obtain ⟨pages, hp, h⟩ := bind_eq_ok h
  obtain ⟨translations, -, h⟩ := bind_eq_ok h
  obtain ⟨texts, ht, h⟩ := bind_eq_ok h
  cases h
  refine (foundBelow_pageIssues hp).below.append (.flatten_mapM ht fun shown xs hx ↦ ?_)
  obtain ⟨ts, -, rfl⟩ := exists_of_map_eq_ok hx
  exact .flatMap fun t ↦ foundBelow_previewIssues.below.below

/-- What is found of a section stands below its path. -/
theorem foundBelow_sectionIssues {d : Draft} {s : SheetSection}
    (h : sectionIssues d strict path s = .ok issues) :
    FoundBelow path IssueKind.isCommon issues := by
  have name : FoundBelow path IssueKind.isCommon (issueIf s.name.default.isEmpty
    (path ++ ".name.default") (.required "name.default")) := (FoundBelow.issueIf rfl).below
  have kind : FoundBelow path IssueKind.isCommon (issueIf s.preview.kind.isNone
    (path ++ ".preview.type") (.required "preview.type")) := (FoundBelow.issueIf rfl).below
  cases strict with
  | false =>
    cases h
    exact (name.append kind).append .nil
  | true =>
    obtain ⟨more, hm, h⟩ := bind_eq_ok h
    cases h
    exact (name.append kind).append (foundBelow_strictSectionIssues hm)

/-! ### Settings for other programs -/

theorem foundBelow_initiativeIssues {i : Initiative} (h : initiativeIssues stats i = .ok issues) :
    FoundBelow "integrations" IssueKind.isCommon issues := by
  unfold initiativeIssues at h
  split at h
  · cases h
    exact .nil
  · cases h
    exact .nil
  · obtain ⟨named, -, h⟩ := bind_eq_ok h
    exact .of_worded h ((FoundBelow.issueIf rfl).outer (by decide))

theorem foundBelow_strictIntegrationIssues {i : Integrations}
    (h : strictIntegrationIssues stats i = .ok issues) :
    FoundBelow "integrations" IssueKind.isCommon issues := by
  obtain ⟨roll, hr, h⟩ := bind_eq_ok h
  obtain ⟨initiative, hinitiative, h⟩ : ∃ initiative,
      FoundBelow "integrations" IssueKind.isCommon initiative ∧ (do
        let authorized ← (i.schemas.mapIdx fun k s ↦ (k, s)).mapM fun e ↦
          authorizedIssues stats (itemPath "integrations.schemas" e.1) e.2
        return roll ++ initiative ++ authorized.flatten : Findings) = .ok issues := by
    dsimp only at h
    split at h
    · obtain ⟨initiative, hi, h⟩ := bind_eq_ok h
      exact ⟨initiative, foundBelow_initiativeIssues hi, h⟩
    · exact ⟨[], .nil, h⟩
  obtain ⟨authorized, ha, h⟩ := bind_eq_ok h
  cases h
  have roll : FoundBelow "integrations" IssueKind.isCommon roll :=
    (foundBelow_textIssues hr).outer (by decide)
  refine (roll.append hinitiative).append (.flatten_mapM ha fun e xs hx ↦ ?_)
  have schema : FoundBelow "integrations.schemas" IssueKind.isCommon xs :=
    .of_worded hx (.flatten_mapIdx fun _ _ ↦
      (FoundBelow.issueIf rfl).below.below.below.below.below.below)
  exact schema.outer (by decide)

/-- What is found of the settings for other programs stands below their path. -/
theorem foundBelow_integrationIssues {read : Checked (Option Integrations)}
    (h : integrationIssues stats strict read = .ok issues) :
    FoundBelow "integrations" IssueKind.isCommon issues := by
  unfold integrationIssues at h
  split at h
  · cases h
    exact foundBelow_faults _ _
  · cases h
    exact .nil
  · cases strict with
    | false =>
      cases h
      exact .nil
    | true => exact foundBelow_strictIntegrationIssues h

end
end Validation
end CharacterSheet
