import CharacterSheet.Proofs.Schema.Reading
import CharacterSheet.Proofs.Schema.Values
import Mathlib.Data.List.TakeWhile

/-!
# Entries by number

Entries of a document may spell their numbers in many ways, and the last entry for a number counts.
They are written in decimal, each number once. Main statement: entries that were read are read again
from what they are written as.
-/

namespace CharacterSheet

/-! ### Integers as texts -/

namespace LenientText

/-- The decimal text of a number other than nought does not start with a nought. -/
theorem head?_toDigits {n : Nat} (hn : n ≠ 0) : (Nat.toDigits 10 n).head? ≠ some '0' := by
  intro h
  obtain ⟨rest, hr⟩ : ∃ rest, Nat.toDigits 10 n = '0' :: rest := by
    cases hd : Nat.toDigits 10 n with
    | nil => exact absurd hd Nat.toDigits_ne_nil
    | cons c rest =>
      rw [hd] at h
      cases h
      exact ⟨rest, rfl⟩
  -- without its nought the text would still denote the number, with too few digits
  have hv : Text.digitsValue rest = n := by
    rw [← Text.digitsValue_toDigits n, hr]
    rfl
  have hlt : n < 10 ^ rest.length := hv ▸ Numeral.digitsValue_lt rest
  cases hl : rest.length with
  | zero =>
    rw [hl] at hlt
    omega
  | succ k =>
    have := (Nat.length_toDigits_le_iff (by decide) (by omega)).mpr hlt
    rw [hr, List.length_cons] at this
    omega

section
variable {ds : List Char} (hd : ∀ c ∈ ds, c.isDigit = true) (hn : ds ≠ [])
  (hz : ds.head? ≠ some '0')
include hd hn hz

/-- Digits without a nought in front are an integer. -/
theorem plainInteger_digits (hl : ds.length ≤ maxDigits) :
    plainInteger ds = .ok (Text.digitsValue ds) := by
  have ht : ds.takeWhile Char.isDigit = ds := List.takeWhile_eq_self_iff.mpr hd
  obtain ⟨c, cs, rfl⟩ := List.exists_cons_of_ne_nil hn
  have hc : c ≠ '-' := by
    rintro rfl
    cases hd '-' List.mem_cons_self
  have hl : ¬ maxDigits < (c :: cs).length + (c :: cs).length - (c :: cs).length := by omega
  unfold plainInteger
  split
  next negative body hm =>
    split at hm
    · next h => exact absurd (List.cons.inj h).1 hc
    · cases hm
      simp only [ht, if_neg hz, if_neg hl]
      simp [Numeral.withSign]

/-- A minus and digits without a nought in front are an integer. -/
theorem plainInteger_minus (hl : ds.length + 1 ≤ maxDigits) :
    plainInteger ('-' :: ds) = .ok (-Text.digitsValue ds) := by
  have ht : ds.takeWhile Char.isDigit = ds := List.takeWhile_eq_self_iff.mpr hd
  have hl : ¬ maxDigits < ds.length + ('-' :: ds).length - ds.length := by
    rw [List.length_cons]
    omega
  unfold plainInteger
  simp only [ht, if_neg hz, if_neg hl]
  simp [Numeral.withSign, hn]

end

/-- An integer that is written with few characters is read again. -/
theorem plainInteger_toString {n : Int} (h : (toString n).toList.length ≤ maxDigits) :
    plainInteger (toString n).toList = .ok n := by
  have hd : ∀ c ∈ Nat.toDigits 10 n.natAbs, c.isDigit = true :=
    fun _ hc ↦ Nat.isDigit_of_mem_toDigits (by decide) (by decide) hc
  by_cases hz : n = 0
  · rw [hz]
    rfl
  · have hz : (Nat.toDigits 10 n.natAbs).head? ≠ some '0' := head?_toDigits (by omega)
    rw [Text.toList_toString] at h ⊢
    split at h
    · next hs =>
      rw [if_pos hs, List.singleton_append, plainInteger_minus hd Nat.toDigits_ne_nil hz
        (by simpa [Nat.add_comm] using h), Text.digitsValue_toDigits]
      congr 1
      omega
    · next hs =>
      rw [if_neg hs, List.nil_append, plainInteger_digits hd Nat.toDigits_ne_nil hz h,
        Text.digitsValue_toDigits]
      congr 1
      omega

/-- The text of the value of digits is no longer than the digits are. -/
theorem length_toDigits_digitsValue_le {ds : List Char} (hn : ds ≠ []) :
    (Nat.toDigits 10 (Text.digitsValue ds)).length ≤ ds.length :=
  (Nat.length_toDigits_le_iff (by decide) (List.length_pos_iff.mpr hn)).mpr
    (Numeral.digitsValue_lt ds)

/-- An integer under a sign has one character more than its magnitude, at most. -/
theorem length_toString_withSign_le (negative : Bool) (k : Nat) :
    (toString (Numeral.withSign negative k)).toList.length ≤
      (if negative then 1 else 0) + (Nat.toDigits 10 k).length := by
  rw [Text.toList_toString, List.length_append]
  cases negative with
  | true =>
    have ha : (Numeral.withSign true k).natAbs = k := by simp [Numeral.withSign]
    rw [ha]
    split <;> simp
  | false =>
    have ha : (Numeral.withSign false k).natAbs = k := rfl
    have hs : ¬ Numeral.withSign false k < 0 := Int.not_lt.mpr (Int.natCast_nonneg k)
    rw [ha, if_neg hs]
    simp

/-- An integer that was read in plain form is written with few characters. -/
theorem length_toString_of_plainInteger {cs : List Char} {n : Int}
    (h : plainInteger cs = .ok n) : (toString n).toList.length ≤ maxDigits := by
  unfold plainInteger at h
  split at h
  next negative body hm =>
    have hsign : cs.length = (if negative then 1 else 0) + body.length := by
      split at hm
      all_goals
        cases hm
        simp [Nat.add_comm]
    simp only at h
    split at h
    · split at h
      · cases h
        decide
      · cases h
    · split at h
      · cases h
      · next hs =>
        split at h
        · cases h
        · next he =>
          cases h
          have hn : body.takeWhile Char.isDigit ≠ [] := by
            intro h0
            simp [h0] at he
          have hl := length_toDigits_digitsValue_le hn
          have := length_toString_withSign_le negative
            (Text.digitsValue (body.takeWhile Char.isDigit))
          omega

/-- An integer that was read from a text is read again from its decimal text. -/
theorem readInteger_toString {s : String} {n : Int} (h : readInteger s = .ok n) :
    readInteger (toString n) = .ok n := by
  obtain ⟨cs, hc⟩ : ∃ cs, plainInteger cs = .ok n := by
    unfold readInteger at h
    split at h
    · next hp =>
      cases h
      exact ⟨_, hp⟩
    · cases h
    · split at h
      · next cs _ =>
        refine ⟨cs, ?_⟩
        cases hp : plainInteger cs with
        | ok m =>
          rw [hp] at h
          exact h
        | error e =>
          rw [hp] at h
          cases h
      · cases h
  rw [readInteger, plainInteger_toString (length_toString_of_plainInteger hc)]

end LenientText

/-! ### Entries that override earlier ones -/

section
variable {α : Type}

/-- Entries in which every later one overrides an earlier one for its number. -/
def insertEntries (found entries : List (Int × α)) : List (Int × α) :=
  entries.foldl (fun found (k, a) ↦ insertEntry k a found) found

theorem insertEntry_of_notMem {key : Int} {a : α} {found : List (Int × α)}
    (h : key ∉ found.map (·.1)) : insertEntry key a found = found ++ [(key, a)] := by
  induction found with
  | nil => rfl
  | cons e found ih =>
    obtain ⟨hne, h⟩ := not_or.mp fun hk ↦ h (List.mem_cons.mpr hk)
    rw [insertEntry, if_neg (Ne.symm hne), ih h, List.cons_append]

theorem mem_keys_insertEntry {key k : Int} {a : α} {found : List (Int × α)} :
    k ∈ (insertEntry key a found).map (·.1) ↔ k = key ∨ k ∈ found.map (·.1) := by
  induction found with
  | nil => simp [insertEntry]
  | cons e found ih =>
    rw [insertEntry]
    split
    · next he => simp [he]
    · simp only [List.map_cons, List.mem_cons, ih]
      tauto

theorem nodup_insertEntry {key : Int} {a : α} {found : List (Int × α)}
    (h : (found.map (·.1)).Nodup) : ((insertEntry key a found).map (·.1)).Nodup := by
  induction found with
  | nil => simp [insertEntry]
  | cons e found ih =>
    obtain ⟨hm, hn⟩ := List.nodup_cons.mp h
    rw [insertEntry]
    split
    · exact h
    · next hne =>
      refine List.nodup_cons.mpr ⟨fun hk ↦ ?_, ih hn⟩
      exact (mem_keys_insertEntry.mp hk).elim hne hm

/-- Entries that override one another end up with one for each of their numbers. -/
theorem nodup_insertEntries {found entries : List (Int × α)} (h : (found.map (·.1)).Nodup) :
    ((insertEntries found entries).map (·.1)).Nodup := by
  induction entries generalizing found with
  | nil => exact h
  | cons e entries ih => exact ih (nodup_insertEntry h)

theorem mem_keys_insertEntries {k : Int} {found entries : List (Int × α)}
    (h : k ∈ (insertEntries found entries).map (·.1)) :
    k ∈ found.map (·.1) ∨ k ∈ entries.map (·.1) := by
  induction entries generalizing found with
  | nil => exact .inl h
  | cons e entries ih =>
    rcases ih h with h | h
    · rcases mem_keys_insertEntry.mp h with rfl | h
      · exact .inr List.mem_cons_self
      · exact .inl h
    · exact .inr (List.mem_cons_of_mem _ h)

/-- Nothing is overridden by entries for other numbers. -/
theorem insertEntries_of_nodup (found entries : List (Int × α))
    (h : ((found ++ entries).map (·.1)).Nodup) :
    insertEntries found entries = found ++ entries := by
  induction entries generalizing found with
  | nil => exact (List.append_nil _).symm
  | cons e entries ih =>
    have hm : e.1 ∉ found.map (·.1) := by
      rw [List.map_append, List.map_cons] at h
      exact fun hf ↦ (List.nodup_append.mp h).2.2 _ hf _ List.mem_cons_self rfl
    rw [List.append_cons] at h ⊢
    exact (congrArg (insertEntries · entries) (insertEntry_of_notMem hm)).trans (ih _ h)

/-! ### Entries of a document -/

open Checked

/-- Entries are read exactly when all their keys are integers and all their values are read. -/
theorem entries_eq_ok_iff {read : Json → Checked α} {v : Json} {found : List (Int × α)} :
    entries read v = .ok found ↔ ∃ given pairs, v.entries? = some given ∧
      List.Forall₂ (fun e p ↦ integer (.ofKey e.1) = .ok p.1 ∧ read e.2 = .ok p.2) given pairs ∧
      found = insertEntries [] pairs := by
  unfold entries
  cases hv : v.entries? with
  | none => simp [fail]
  | some given =>
    change insertEntries [] <$> all _ = .ok found ↔ _
    simp only [map_eq_ok_iff, all_eq_ok_iff, List.forall₂_map_left_iff, seq_eq_ok_iff,
      inside_eq_ok_iff]
    constructor
    · rintro ⟨pairs, hr, rfl⟩
      refine ⟨given, pairs, rfl, hr.imp ?_, rfl⟩
      rintro e p ⟨_, ⟨k, hk, rfl⟩, a, ha, rfl⟩
      exact ⟨hk, ha⟩
    · rintro ⟨_, pairs, hg, hr, rfl⟩
      cases hg
      refine ⟨pairs, hr.imp ?_, rfl⟩
      rintro e p ⟨hk, ha⟩
      exact ⟨_, ⟨p.1, hk, rfl⟩, p.2, ha, rfl⟩

/-- Entries that were read from a document are read again from the object that has their numbers in
decimal. -/
theorem entries_read_again {read : Json → Checked α} {write : α → Json} {v : Json}
    {found : List (Int × α)} (hv : v.isPlain = true) (h : entries read v = .ok found)
    (hw : ∀ a, read (write a) = .ok a) :
    entries read (.object (found.map fun (k, a) ↦ (toString k, write a))) = .ok found := by
  obtain ⟨given, pairs, hg, hr, rfl⟩ := entries_eq_ok_iff.mp h
  -- every number was read from a text
  have hkeys : ∀ k ∈ (insertEntries [] pairs).map (·.1),
      LenientText.readInteger (toString k) = .ok k := by
    intro k hk
    obtain ⟨p, hp, rfl⟩ := List.mem_map.mp ((mem_keys_insertEntries hk).resolve_left nofun)
    obtain ⟨e, he, hi, -⟩ := exists_mem_of_forall₂ hr hp
    obtain ⟨key, hkey⟩ : ∃ key, e.1 = .text key := by
      cases v with
      | object fs =>
        cases hg
        obtain ⟨f, -, rfl⟩ := List.mem_map.mp he
        exact ⟨f.1, rfl⟩
      | table _ => cases hv
      | _ => cases hg
    rw [hkey] at hi
    cases hs : LenientText.readInteger key with
    | ok n =>
      rw [Json.ofKey, integer, hs] at hi
      cases hi
      exact LenientText.readInteger_toString hs
    | error e =>
      rw [Json.ofKey, integer, hs] at hi
      cases hi
  have hn : ((insertEntries [] pairs).map (·.1)).Nodup := nodup_insertEntries List.nodup_nil
  refine entries_eq_ok_iff.mpr ⟨_, insertEntries [] pairs, rfl, ?_, ?_⟩
  · simp only [List.map_map, List.forall₂_map_left_iff]
    refine List.forall₂_same.mpr fun p hp ↦ ⟨?_, hw p.2⟩
    have hk := hkeys p.1 (List.mem_map_of_mem hp)
    change ofExcept (LenientText.readInteger (toString p.1)) = .ok p.1
    rw [hk]
    rfl
  · exact (insertEntries_of_nodup [] _ hn).symm

end
end CharacterSheet
