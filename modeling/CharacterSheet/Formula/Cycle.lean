import CharacterSheet.Formula.Dependency

/-!
# Cycles among formulas

The walk starts at a stat and follows dependencies depth first. It holds the path from the
start to the stat it is at, and for each stat on the path the dependencies that are still to be
followed. A stat whose dependencies were all followed is cleared: no cycle is reached from it,
so it need not be entered again. Main statement: every step brings the walk closer to its end.
-/

namespace CharacterSheet

/-- What a search for a cycle comes to: the path of one, if there is any. The search fails when
an id has too many digits. -/
abbrev CycleAnswer := Except NumeralError (Option (List Int))

/-- A walk over the dependencies of stats. -/
structure Walk where
  /-- The stats from the start to the one that the walk is at, innermost first. -/
  path : List Int
  /-- The stats of the path as a set. -/
  onPath : List Int
  /-- For every stat of the path, the dependencies that are still to be followed. -/
  pending : List (List Int)
  /-- The stats that are cleared. -/
  cleared : List Int
  /-- The dependencies of stored formulas that were read. -/
  known : List (Int × List Int)
  deriving Repr, DecidableEq

/-- What a step of a walk leads to. -/
inductive Walk.Outcome where
  /-- The walk goes on. -/
  | next (w : Walk)
  /-- The walk is over. -/
  | ended (answer : CycleAnswer)

namespace Walk

/-- The walk that sets out from a stat with the dependencies of its formula. -/
def start (target : Int) (deps cleared : List Int) (known : List (Int × List Int)) : Walk where
  path := [target]
  onPath := [target]
  pending := [deps]
  cleared
  known

/-- The walk behind the innermost stat, which is cleared; `outer` is to be followed on the
rest of the path. -/
def leave (w : Walk) (outer : List (List Int)) : Walk :=
  match w.path with
  | [] => { w with pending := outer }
  | id :: path =>
    { w with
      path
      onPath := w.onPath.filter (· != id)
      pending := outer
      cleared := id :: w.cleared }

/-- The walk at a stat that it has entered. -/
def enter (w : Walk) (id : Int) (deps : List Int) (outer : List (List Int)) : Walk :=
  { w with
    path := id :: w.path
    onPath := id :: w.onPath
    pending := deps :: outer
    known := if (w.known.lookup id).isSome then w.known else (id, deps) :: w.known }

/-- The dependencies of a stored formula: those that were read, or else those it is found to
have. -/
def storedDependencies (w : Walk) (id : Int) (formula : String) :
    Except NumeralError (List Int) :=
  match w.known.lookup id with
  | some deps => .ok deps
  | none => dependencies formula

/-- The path of the cycle that is closed by a stat which is met again. -/
def closedBy (w : Walk) (id : Int) : List Int := w.path.reverse ++ [id]

/-- One step of the walk from `target`. -/
def step (stats : List Stat) (target : Int) (w : Walk) : Outcome :=
  match w.pending with
  | [] => .ended (.ok none)
  | [] :: outer => .next (w.leave outer)
  | (dep :: rest) :: outer =>
    if dep = target then .ended (.ok (some (w.closedBy dep)))
    else
      match storedFormula? stats dep with
      | none => .next { w with pending := rest :: outer }
      | some f =>
        if w.cleared.contains dep then .next { w with pending := rest :: outer }
        else if w.onPath.contains dep then .ended (.ok (some (w.closedBy dep)))
        else
          match w.storedDependencies dep f with
          | .ok deps => .next (w.enter dep deps (rest :: outer))
          | .error e => .ended (.error e)

/-- Everything that a step can do. -/
inductive Step (stats : List Stat) (target : Int) (w : Walk) : Outcome → Prop where
  | finish (hp : w.pending = []) : Step stats target w (.ended (.ok none))
  | leave {outer : List (List Int)} (hp : w.pending = [] :: outer) :
    Step stats target w (.next (w.leave outer))
  | returns {rest : List Int} {outer : List (List Int)}
    (hp : w.pending = (target :: rest) :: outer) :
    Step stats target w (.ended (.ok (some (w.closedBy target))))
  | skip {dep : Int} {rest : List Int} {outer : List (List Int)}
    (hp : w.pending = (dep :: rest) :: outer) (ht : dep ≠ target)
    (hs : storedFormula? stats dep = none ∨ dep ∈ w.cleared) :
    Step stats target w (.next { w with pending := rest :: outer })
  | meets {dep : Int} {rest : List Int} {outer : List (List Int)} {f : String}
    (hp : w.pending = (dep :: rest) :: outer) (ht : dep ≠ target)
    (hf : storedFormula? stats dep = some f) (hc : dep ∉ w.cleared) (ho : dep ∈ w.onPath) :
    Step stats target w (.ended (.ok (some (w.closedBy dep))))
  | enter {dep : Int} {rest deps : List Int} {outer : List (List Int)} {f : String}
    (hp : w.pending = (dep :: rest) :: outer) (ht : dep ≠ target)
    (hf : storedFormula? stats dep = some f) (hc : dep ∉ w.cleared) (ho : dep ∉ w.onPath)
    (hd : w.storedDependencies dep f = .ok deps) :
    Step stats target w (.next (w.enter dep deps (rest :: outer)))
  | fail {dep : Int} {rest : List Int} {outer : List (List Int)} {f : String} {e : NumeralError}
    (hp : w.pending = (dep :: rest) :: outer) (ht : dep ≠ target)
    (hf : storedFormula? stats dep = some f) (hc : dep ∉ w.cleared) (ho : dep ∉ w.onPath)
    (hd : w.storedDependencies dep f = .error e) : Step stats target w (.ended (.error e))

/-- A step does one of the things that it can do. -/
theorem step_cases (stats : List Stat) (target : Int) (w : Walk) :
    Step stats target w (step stats target w) := by
  unfold step
  split
  · next hp => exact .finish hp
  · next outer hp => exact .leave hp
  · next dep rest outer hp =>
    split
    · next ht =>
      subst ht
      exact .returns hp
    · next ht =>
      split
      · next hf => exact .skip hp ht (.inl hf)
      · next f hf =>
        split
        · next hc => exact .skip hp ht (.inr (by simpa using hc))
        · next hc =>
          have hc : dep ∉ w.cleared := by simpa using hc
          split
          · next ho => exact .meets hp ht hf hc (by simpa using ho)
          · next ho =>
            have ho : dep ∉ w.onPath := by simpa using ho
            split
            · next deps hd => exact .enter hp ht hf hc ho hd
            · next e hd => exact .fail hp ht hf hc ho hd

/-- The stats of a list that a walk has neither on its path nor cleared. -/
def unvisited (ids : List Int) (w : Walk) : List Int :=
  ids.filter fun i ↦ !w.onPath.contains i && !w.cleared.contains i

/-- How much is left to do on the path. -/
def pendingSize (w : Walk) : Nat := w.pending.flatten.length + w.pending.length

theorem length_filter_lt {α : Type} {p q : α → Bool} {xs : List α} {a : α} (ha : a ∈ xs)
    (hq : q a = false) (hp : p a = true) (h : ∀ x, q x = true → p x = true) :
    (xs.filter q).length < (xs.filter p).length := by
  rw [← List.countP_eq_length_filter, ← List.countP_eq_length_filter]
  induction xs with
  | nil => simp at ha
  | cons x xs ih =>
    rcases List.mem_cons.mp ha with rfl | ha
    · have := List.countP_mono_left (l := xs) fun y _ ↦ h y
      simp only [List.countP_cons, hq, hp]
      simp
      omega
    · have := ih ha
      have hx := h x
      simp only [List.countP_cons]
      cases hqx : q x <;> cases hpx : p x <;> simp_all
      omega

/-- Leaving a stat forgets no visit. -/
theorem length_unvisited_leave (ids : List Int) (w : Walk) (outer : List (List Int)) :
    ((w.leave outer).unvisited ids).length ≤ (w.unvisited ids).length := by
  obtain ⟨path, onPath, pending, cleared, known⟩ := w
  cases path with
  | nil => exact Nat.le_refl _
  | cons id path =>
    simp only [unvisited, leave, ← List.countP_eq_length_filter]
    apply List.countP_mono_left
    intro i _ hi
    simp only [Bool.and_eq_true, Bool.not_eq_true', List.contains_eq_mem,
      decide_eq_false_iff_not, List.mem_filter, List.mem_cons, not_or] at hi ⊢
    exact ⟨fun ho ↦ hi.1 ⟨ho, by simpa using hi.2.1⟩, hi.2.2⟩

/-- Leaving a stat takes it from what is left to do. -/
theorem pendingSize_leave {w : Walk} {outer : List (List Int)} (hp : w.pending = [] :: outer) :
    (w.leave outer).pendingSize < w.pendingSize := by
  have : (w.leave outer).pending = outer := by
    unfold leave
    split <;> rfl
  simp [pendingSize, this, hp]

/-- A step either enters a stat that was not visited, or takes from what is left to do on the
path without forgetting a visit. -/
theorem step_decreases {stats : List Stat} {target : Int} {w next : Walk}
    (h : step stats target w = .next next) :
    (next.unvisited (stats.map (·.id))).length < (w.unvisited (stats.map (·.id))).length ∨
      (next.unvisited (stats.map (·.id))).length ≤ (w.unvisited (stats.map (·.id))).length ∧
        next.pendingSize < w.pendingSize := by
  have hs := step_cases stats target w
  rw [h] at hs
  cases hs with
  | leave hp => exact .inr ⟨length_unvisited_leave .., pendingSize_leave hp⟩
  | skip hp ht hs => exact .inr ⟨Nat.le_refl _, by simp [pendingSize, hp]⟩
  | @enter dep rest deps outer f hp ht hf hc ho hd =>
    left
    apply length_filter_lt (a := dep) (mem_of_storedFormula? hf)
    · simp [Walk.enter]
    · simpa using ⟨ho, hc⟩
    · intro i hi
      simp only [Walk.enter, List.contains_cons, Bool.not_or, Bool.and_eq_true] at hi ⊢
      exact ⟨hi.1.2, hi.2⟩

/-- Follow the walk from `target` to its end: what it comes to, and the walk as it was then. -/
def run (stats : List Stat) (target : Int) (w : Walk) : CycleAnswer × Walk :=
  match _h : step stats target w with
  | .ended answer => (answer, w)
  | .next next => run stats target next
termination_by ((w.unvisited (stats.map (·.id))).length, w.pendingSize)
decreasing_by
  rcases step_decreases _h with h | ⟨h, hp⟩
  · exact Prod.Lex.left _ _ h
  · exact Prod.Lex.right' _ h hp

end Walk

/-- A system's stats together with what earlier walks found out: the stats that they cleared,
and the dependencies of stored formulas that they read. -/
structure CycleChecker where
  stats : List Stat
  cleared : List Int := []
  known : List (Int × List Int) := []

namespace CycleChecker

/-- Whether a formula is the stored one of a stat. -/
def isStored (c : CycleChecker) (target : Int) (formula : String) : Bool :=
  storedFormula? c.stats target == some formula

/-- The cycle that a formula of a stat leads to, if any, as a path from the stat. What a walk
clears is kept when it walked the stored formulas only. -/
def find (c : CycleChecker) (target : Int) (formula : String) : CycleAnswer × CycleChecker :=
  match dependencies formula with
  | .error e => (.error e, c)
  | .ok deps =>
    let cleared := if c.isStored target formula then c.cleared else []
    let (answer, w) := Walk.run c.stats target (.start target deps cleared c.known)
    (answer, { c with
      cleared := if c.isStored target formula then w.cleared else c.cleared
      known := w.known })

end CycleChecker

/-- The cycle that a formula of a stat leads to, if any. -/
def findCycle (stats : List Stat) (target : Int) (formula : String) : CycleAnswer :=
  (CycleChecker.find ⟨stats, [], []⟩ target formula).1

/-- Whether a formula of a stat leads to a cycle. -/
def hasCycle (stats : List Stat) (target : Int) (formula : String) : Except NumeralError Bool :=
  (findCycle stats target formula).map Option.isSome

end CharacterSheet
