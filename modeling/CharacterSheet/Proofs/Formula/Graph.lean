import CharacterSheet.Formula.Dependency
import CharacterSheet.Proofs.Token.References
import Mathlib.Data.List.Chain
import Mathlib.Data.List.Nodup
import Mathlib.Logic.Relation

/-!
# The graph of dependencies

Formulas given for ids make a graph: an id leads to the ids that its formula asks for. From an
id that is grounded every way along the graph ends. A lasso is a way that comes back to itself.
Main statements: no cycle is reached from a grounded id; one is reached along every lasso.
-/

namespace CharacterSheet
open Relation

/-- The formulas of all ids when `target` has a formula of its own: that one there, and the
stored ones elsewhere. -/
def formulaAt (stats : List Stat) (target : Int) (formula : String) (id : Int) : Option String :=
  if id = target then some formula else storedFormula? stats id

/-- The formula of one id asks for the value of another. -/
def DependsOn (formulas : Int → Option String) (a b : Int) : Prop :=
  ∃ f, formulas a = some f ∧ AsksFor f b

/-- The ids in all formulas can be read. -/
def ReadableFormulas (formulas : Int → Option String) : Prop :=
  ∀ id f, formulas id = some f → ReadableIds f

/-- From an id one comes to an id that leads back to itself. -/
def ReachesCycle (r : Int → Int → Prop) (id : Int) : Prop :=
  ∃ v, ReflTransGen r id v ∧ TransGen r v v

/-- A way from `target` that meets no id twice before it ends where it was before. -/
structure IsLasso (r : Int → Int → Prop) (target : Int) (path : List Int) : Prop where
  starts : path.head? = some target
  follows : path.IsChain r
  distinct : path.dropLast.Nodup
  closes : ∃ v ∈ path.dropLast, path.getLast? = some v

/-! ### Dependencies that are read -/

/-- The ids that a formula depends on can be found when they can be read, and are those that it
asks for. -/
theorem exists_dependencies {formula : String} (h : ReadableIds formula) :
    ∃ deps, dependencies formula = .ok deps ∧ deps.Nodup ∧
      ∀ id, id ∈ deps ↔ AsksFor formula id := by
  obtain ⟨ids, he, hn, hm⟩ := exists_statValueIds h
  refine ⟨ids.map Int.ofNat, by rw [dependencies, he]; rfl, hn.map fun _ _ ↦ Int.ofNat.inj, ?_⟩
  intro id
  rw [List.mem_map]
  constructor
  · rintro ⟨n, hi, rfl⟩
    exact (hm n).mp hi
  · intro ha
    obtain ⟨n, rfl⟩ := ha.exists_nat
    exact ⟨n, (hm n).mpr ha, rfl⟩

/-- A formula that is a mention depends on the stat whose value is asked for. -/
theorem dependencies_of_mention {formula : String} {m : Mention}
    (h : Mention.read? formula.toList = some (m, [])) (hv : m.isStatValue = true)
    (hl : formula.length ≤ maxDigits) :
    dependencies formula = .ok [(Text.digitsValue m.digits : Int)] := by
  rw [dependencies, statValueIds_eq (readableIds_of_length_le hl), Mention.readAll_of_read? h,
    Mention.readAll_nil]
  simp [Except.map, Mention.valueId?, hv, List.eraseDups_cons]

/-- An id leads to those that its formula was found to depend on. -/
def LeadsTo (formulas : Int → Option String) (a b : Int) : Prop :=
  ∃ f deps, formulas a = some f ∧ dependencies f = .ok deps ∧ b ∈ deps

/-- Where all ids can be read, an id leads to those that its formula asks for. -/
theorem leadsTo_eq {formulas : Int → Option String} (h : ReadableFormulas formulas) :
    LeadsTo formulas = DependsOn formulas := by
  funext a b
  refine propext ⟨?_, ?_⟩
  · rintro ⟨f, deps, hf, hd, hb⟩
    obtain ⟨_, hd', -, hm⟩ := exists_dependencies (h a f hf)
    cases hd.symm.trans hd'
    exact ⟨f, hf, (hm b).mp hb⟩
  · rintro ⟨f, hf, hb⟩
    obtain ⟨deps, hd, -, hm⟩ := exists_dependencies (h a f hf)
    exact ⟨f, deps, hf, hd, (hm b).mpr hb⟩

/-! ### Grounded ids -/

/-- Every way along dependencies from an id ends, and all formulas on it were read. -/
inductive Grounded (formulas : Int → Option String) : Int → Prop where
  /-- An id without a formula leads nowhere. -/
  | leaf {id : Int} (h : formulas id = none) : Grounded formulas id
  /-- An id that leads to grounded ones is grounded. -/
  | node {id : Int} {f : String} {deps : List Int} (hf : formulas id = some f)
    (hd : dependencies f = .ok deps) (hg : ∀ dep ∈ deps, Grounded formulas dep) :
    Grounded formulas id

namespace Grounded
variable {formulas : Int → Option String} {id : Int}

/-- A grounded id leads to grounded ones. -/
theorem of_leadsTo {dep : Int} (h : Grounded formulas id) (hl : LeadsTo formulas id dep) :
    Grounded formulas dep := by
  obtain ⟨f, deps, hf, hd, hm⟩ := hl
  cases h with
  | leaf hn => simp [hn] at hf
  | node hf' hd' hg =>
    cases hf.symm.trans hf'
    cases hd.symm.trans hd'
    exact hg dep hm

/-- What a grounded id depends on was read. -/
theorem exists_dependencies {f : String} (h : Grounded formulas id) (hf : formulas id = some f) :
    ∃ deps, dependencies f = .ok deps ∧ ∀ dep ∈ deps, Grounded formulas dep := by
  cases h with
  | leaf hn => simp [hn] at hf
  | node hf' hd hg =>
    cases hf.symm.trans hf'
    exact ⟨_, hd, hg⟩

/-- A grounded id does not lead back to itself. -/
theorem not_transGen_self (h : Grounded formulas id) : ¬ TransGen (LeadsTo formulas) id id := by
  induction h with
  | leaf hn =>
    intro hc
    obtain ⟨_, ⟨f, -, hf, -⟩, -⟩ := TransGen.head'_iff.mp hc
    simp [hn] at hf
  | @node a f deps hf hd hg ih =>
    intro hc
    obtain ⟨dep, hl, hback⟩ := TransGen.head'_iff.mp hc
    have hr := TransGen.tail' hback hl
    obtain ⟨_, _, hf', hd', hm⟩ := hl
    cases hf.symm.trans hf'
    cases hd.symm.trans hd'
    exact ih dep hm hr

/-- From a grounded id no cycle is reached. -/
theorem not_reachesCycle (h : Grounded formulas id) : ¬ ReachesCycle (LeadsTo formulas) id := by
  rintro ⟨v, hv, hc⟩
  induction hv using ReflTransGen.head_induction_on with
  | refl => exact h.not_transGen_self hc
  | head hl _ ih => exact ih (h.of_leadsTo hl)

end Grounded

/-! ### Ways along the graph -/

/-- The way from `target` to the first id of a list, which holds the ids innermost first. -/
structure IsTrail (r : Int → Int → Prop) (target : Int) (trail : List Int) : Prop where
  starts : trail.getLast? = some target
  follows : trail.IsChain fun b a ↦ r a b
  distinct : trail.Nodup

namespace IsTrail
variable {r : Int → Int → Prop} {target dep : Int} {trail : List Int}

theorem single (r : Int → Int → Prop) (target : Int) : IsTrail r target [target] :=
  ⟨rfl, List.isChain_singleton _, List.nodup_singleton _⟩

theorem target_mem (h : IsTrail r target trail) : target ∈ trail := List.mem_of_getLast? h.starts

/-- A trail goes on to an id that it has not met. -/
theorem cons (h : IsTrail r target trail) (hr : ∀ v ∈ trail.head?, r v dep) (hn : dep ∉ trail) :
    IsTrail r target (dep :: trail) where
  starts := by
    rw [List.getLast?_cons, h.starts]
    rfl
  follows := List.isChain_cons.mpr ⟨hr, h.follows⟩
  distinct := List.nodup_cons.mpr ⟨hn, h.distinct⟩

/-- What is left of a trail behind its first id is a trail, if anything is left. -/
theorem tail (h : IsTrail r target (dep :: trail)) (hne : trail ≠ []) : IsTrail r target trail where
  starts := by
    rw [← h.starts, List.getLast?_cons, List.getLast?_eq_some_getLast hne]
    rfl
  follows := h.follows.tail
  distinct := (List.nodup_cons.mp h.distinct).2

/-- A trail that comes to an id which it has met is a lasso. -/
theorem lasso (h : IsTrail r target trail) (hr : ∀ v ∈ trail.head?, r v dep) (hd : dep ∈ trail) :
    IsLasso r target (trail.reverse ++ [dep]) where
  starts := by
    rw [List.head?_append, List.head?_reverse, h.starts]
    rfl
  follows := by
    rw [List.isChain_append]
    refine ⟨List.isChain_reverse.mpr h.follows, List.isChain_singleton _, ?_⟩
    simpa [List.getLast?_reverse] using hr
  distinct := by
    rw [List.dropLast_concat]
    exact List.nodup_reverse.mpr h.distinct
  closes := ⟨dep, by rw [List.dropLast_concat]; exact List.mem_reverse.mpr hd, List.getLast?_concat⟩

/-- Along a chain, which is given backwards, one comes from every id to the last one. -/
theorem reflTransGen_of_isChain {v u : Int} {below : List Int}
    (h : (v :: below).IsChain fun b a ↦ r a b) (hu : u ∈ v :: below) : ReflTransGen r u v := by
  induction below generalizing v with
  | nil => rw [List.mem_singleton.mp hu]
  | cons b below ih =>
    obtain ⟨hr, hc⟩ := List.isChain_cons_cons.mp h
    rcases List.mem_cons.mp hu with rfl | hu
    · exact .refl
    · exact (ih hc hu).tail hr

/-- Every id of a trail leads on to what its first one leads to. -/
theorem transGen (h : IsTrail r target trail) (hr : ∀ v ∈ trail.head?, r v dep) {u : Int}
    (hu : u ∈ trail) : TransGen r u dep := by
  cases trail with
  | nil => simp at hu
  | cons v below => exact TransGen.tail' (reflTransGen_of_isChain h.follows hu) (hr v rfl)

end IsTrail

/-- Along a chain one comes from its first id to its last. -/
theorem transGen_of_isChain {r : Int → Int → Prop} {a b : Int} {between : List Int}
    (h : (a :: (between ++ [b])).IsChain r) : TransGen r a b := by
  induction between generalizing a with
  | nil => exact .single (List.isChain_pair.mp h)
  | cons c between ih =>
    obtain ⟨hr, hc⟩ := List.isChain_cons_cons.mp h
    exact (ih hc).head hr

/-- Along a lasso a cycle is reached. -/
theorem IsLasso.reachesCycle {r : Int → Int → Prop} {target : Int} {path : List Int}
    (h : IsLasso r target path) : ReachesCycle r target := by
  obtain ⟨v, hv, hl⟩ := h.closes
  obtain ⟨front, back, hb⟩ := List.append_of_mem hv
  have he : path = front ++ (v :: (back ++ [v])) := by
    rw [← List.dropLast_append_getLast? v hl, hb, List.append_assoc, List.cons_append]
  have hf := h.follows
  have hs := h.starts
  rw [he] at hf hs
  have hc : TransGen r v v := transGen_of_isChain hf.right_of_append
  cases front with
  | nil =>
    obtain rfl : v = target := by simpa using hs
    exact ⟨v, .refl, hc⟩
  | cons a front =>
    obtain rfl : a = target := by simpa using hs
    rw [List.append_cons] at hf
    have hto : (a :: (front ++ [v])).IsChain r := hf.left_of_append
    exact ⟨v, (transGen_of_isChain hto).to_reflTransGen, hc⟩

end CharacterSheet
