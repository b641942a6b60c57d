/-!
# Places in lists

An index below nought counts from the end of a list. Items move by swapping places with
another, and only between places that are counted from the front.
-/

namespace CharacterSheet

/-- The place that an index means in a list of some length. -/
def placeOf? (length : Nat) (index : Int) : Option Nat :=
  if 0 ≤ index then
    if index < length then some index.toNat else none
  else if 0 ≤ index + length then some (index + length).toNat
  else none

/-- The place behind an index. Behind the last item counted from the end lies nought, which is
the front. -/
def placeBehind (length : Nat) (index : Int) : Nat :=
  let next := index + 1
  if 0 ≤ next then next.toNat else (next + length).toNat

/-- A list in which the items at two places are swapped. -/
def swapItems {α : Type} (i j : Nat) (xs : List α) : List α :=
  match xs[i]?, xs[j]? with
  | some a, some b => (xs.set i b).set j a
  | _, _ => xs

/-- A list in which an item changes places with the one some steps further; the list as it is
when either lies outside. -/
def moveItem {α : Type} (index steps : Int) (xs : List α) : List α :=
  if 0 ≤ index && 0 ≤ index + steps then swapItems index.toNat (index + steps).toNat xs else xs

/-- A place lies inside its list. -/
theorem placeOf?_lt {length place : Nat} {index : Int} (h : placeOf? length index = some place) :
    place < length := by
  unfold placeOf? at h
  split at h <;> split at h <;> simp_all <;> omega

/-- Swapping keeps the length. -/
@[simp]
theorem length_swapItems {α : Type} (i j : Nat) (xs : List α) :
    (swapItems i j xs).length = xs.length := by
  unfold swapItems
  split <;> simp

/-- Moving keeps the length. -/
@[simp]
theorem length_moveItem {α : Type} (index steps : Int) (xs : List α) :
    (moveItem index steps xs).length = xs.length := by
  unfold moveItem
  split <;> simp

end CharacterSheet
