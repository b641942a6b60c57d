import CharacterSheet.Proofs.Preview.Initiative
import CharacterSheet.Proofs.Validation.Clean
import CharacterSheet.Proofs.Validation.IssuePaths
import CharacterSheet.Proofs.Validation.Totality

/-!
# Repeated ids in documents

The ids of the items of a list are compared before the items are looked at, and an item that cannot
be read takes part with the id that it shows. Main statement: the issues of a document that tell of
repeated ids of stats are those of the indexes whose id stands at an index before, in order, and of
an item that cannot be read nothing else is told but its faults.
-/

namespace CharacterSheet
open Validation

open Arithmetic.Template (bind_eq_ok)

/-! ### Ids and their first places -/

/-- The id of an item of the list of stats: that of the stat, and of an item that cannot be read the
one that it shows. -/
def Json.statId? (item : Json) : Option Int :=
  match Stat.read item with
  | .ok s => some s.id
  | .bad _ => Entry.rawId? item

theorem Json.id_read_eq_statId? (item : Json) :
    (Entry.read Stat.id Stat.read item).id = item.statId? := by
  unfold Entry.read statId?
  cases Stat.read item <;> rfl

namespace Validation

/-- The issue of the id at an index when an index before has the same id: it tells of the first such
index and of this one. -/
def repeatedAt? (collection : String) (ids : List (Option Int)) (i : Nat) : Option Issue :=
  match ids[i]? with
  | some (some n) =>
    let first := ids.idxOf (some n)
    if first < i then some ⟨itemPath collection i ++ ".id", .duplicateId collection n first i⟩
    else none
  | _ => none

example : (repeatedAt? "stats" [some 1, none, some 1] 2).map
    (fun x ↦ (x.path, x.cause.context)) =
      some ("stats[2].id", [("id", .int 1), ("indexes", .ofInts [0, 2])]) := rfl

theorem kind_of_repeatedAt? {collection : String} {ids : List (Option Int)} {i : Nat} {x : Issue}
    (h : repeatedAt? collection ids i = some x) : x.cause.kind = .duplicateId := by
  unfold repeatedAt? at h
  split at h
  · obtain ⟨-, hx⟩ := Option.ite_none_right_eq_some.mp h
    obtain rfl := Option.some.inj hx
    rfl
  · contradiction

/-- An id is compared with those before it, whatever comes behind. -/
theorem duplicateIssues_eq (collection : String) (before rest : List (Option Int))
    (id : Option Int) : duplicateIssues collection before id =
      (repeatedAt? collection (before ++ id :: rest) before.length).toList := by
  unfold repeatedAt? duplicateIssues
  rw [List.getElem?_append_right le_rfl, Nat.sub_self, List.getElem?_cons_zero]
  cases id with
  | none => rfl
  | some n =>
    dsimp only
    -- what comes behind counts only for an id that is not among those before it, and then it is
    -- found at its own index at the earliest
    by_cases hm : some n ∈ before
    · have hfirst : before.idxOf? (some n) = some (before.idxOf (some n)) := by
        rw [List.idxOf_eq_getD_idxOf?]
        obtain ⟨k, hk⟩ := Option.isSome_iff_exists.mp (List.isSome_idxOf?.mpr hm)
        rw [hk, Option.getD_some]
      rw [hfirst, List.idxOf_append_of_mem hm, if_pos (List.idxOf_lt_length_of_mem hm)]
      rfl
    · have hfirst : ¬ (before ++ some n :: rest).idxOf (some n) < before.length := by
        rw [List.idxOf_append_of_notMem hm]
        omega
      rw [List.idxOf?_eq_none_iff.mpr hm, if_neg hfirst]
      rfl

/-! ### The issues of a list -/

/-- The issues of the entries of a list that come behind others: of each entry those that it has
before its item is looked at, and then those that are found of the item, if it could be read. -/
inductive Listed {α : Type} (collection : String) :
    List (Option Int) → List (Entry α) → List Issue → Prop where
  | nil {before : List (Option Int)} : Listed collection before [] []
  | cons {before : List (Option Int)} {e : Entry α} {rest : List (Entry α)}
      {own others : List Issue}
      (own_below : FoundBelow (itemPath collection before.length) (· != .duplicateId) own)
      (own_eq_nil : e.item = none → own = [])
      (others_listed : Listed collection (before ++ [e.id]) rest others) :
      Listed collection before (e :: rest) (entryIssues collection before e ++ own ++ others)

/-- Whatever an item is, the items behind it are looked at, and their issues put behind its own. -/
theorem listed_of_allStatIssues {d : Draft} {strict : Bool} {before : List (Option Int)}
    {checker : CycleChecker} {entries : List (Entry Stat)} {found : List Issue}
    (h : allStatIssues d strict before checker entries = .ok found) :
    Listed "stats" before entries found := by
  induction entries generalizing before checker found with
  | nil =>
    cases h
    exact .nil
  | cons e rest ih =>
    obtain ⟨entry, he, h⟩ := bind_eq_ok h
    obtain rfl := eq_of_worded he
    dsimp only at h
    split at h
    · next s hs =>
      obtain ⟨⟨own, next⟩, ho, h⟩ := bind_eq_ok h
      obtain ⟨others, hr, h⟩ := bind_eq_ok h
      cases h
      exact .cons (foundBelow_statIssues ho) (by simp [hs]) (ih hr)
    · obtain ⟨_, ho, h⟩ := bind_eq_ok h
      cases ho
      obtain ⟨others, hr, h⟩ := bind_eq_ok h
      cases h
      exact .cons .nil (fun _ ↦ rfl) (ih hr)

theorem listed_of_allSectionIssues {d : Draft} {strict : Bool} {before : List (Option Int)}
    {entries : List (Entry SheetSection)} {found : List Issue}
    (h : allSectionIssues d strict before entries = .ok found) :
    Listed "sections" before entries found := by
  induction entries generalizing before found with
  | nil =>
    cases h
    exact .nil
  | cons e rest ih =>
    obtain ⟨entry, he, h⟩ := bind_eq_ok h
    obtain rfl := eq_of_worded he
    dsimp only at h
    split at h
    · next s hs =>
      obtain ⟨own, ho, h⟩ := bind_eq_ok h
      obtain ⟨others, hr, h⟩ := bind_eq_ok h
      cases h
      exact .cons ((foundBelow_sectionIssues ho).mono fun _ ↦ IssueKind.ne_of_isCommon)
        (by simp [hs]) (ih hr)
    · obtain ⟨own, ho, h⟩ := bind_eq_ok h
      cases ho
      obtain ⟨others, hr, h⟩ := bind_eq_ok h
      cases h
      exact .cons .nil (fun _ ↦ rfl) (ih hr)

/-- What an entry has before its item is looked at stands below its path, as what is found of the
item does. -/
theorem isBelow_of_mem_entry {α : Type} {collection : String} {before : List (Option Int)}
    {e : Entry α} {own : List Issue} {p : IssueKind → Bool}
    (own_below : FoundBelow (itemPath collection before.length) p own) {x : Issue}
    (h : x ∈ entryIssues collection before e ++ own) :
    x.IsBelow (itemPath collection before.length) := by
  rcases List.mem_append.mp h with h | h
  · rcases List.mem_append.mp h with h | h
    · exact (foundBelow_faults _ e.faults x h).1
    · exact (foundBelow_duplicateIssues x h).1
  · exact (own_below x h).1

/-- Of what an entry has before its item is looked at, that its id stands at an index before is what
tells of repeated ids. -/
theorem filter_duplicateId_entryIssues {α : Type} (collection : String)
    (before rest : List (Option Int)) (e : Entry α) :
    (entryIssues collection before e).filter (·.cause.kind = .duplicateId) =
      (repeatedAt? collection (before ++ e.id :: rest) before.length).toList := by
  have faults : (e.faults.map (Issue.ofFault (itemPath collection before.length))).filter
      (·.cause.kind = .duplicateId) = [] := by
    refine List.filter_eq_nil_iff.mpr fun x hx ↦ ?_
    obtain ⟨fault, -, rfl⟩ := List.mem_map.mp hx
    simp [Issue.ofFault, IssueCause.kind]
  have repeated : ∀ x ∈ (repeatedAt? collection (before ++ e.id :: rest) before.length).toList,
      decide (x.cause.kind = .duplicateId) = true := fun x hx ↦
    decide_eq_true (kind_of_repeatedAt? (Option.mem_toList.mp hx))
  rw [entryIssues, List.filter_append, faults, List.nil_append,
    duplicateIssues_eq collection before rest, List.filter_eq_self.mpr repeated]

namespace Listed
variable {α : Type} {collection : String} {before : List (Option Int)} {entries : List (Entry α)}
  {found : List Issue}

/-- Each issue of a list stands below the path of an item. -/
theorem exists_isBelow (h : Listed collection before entries found) {x : Issue} (hx : x ∈ found) :
    ∃ i, before.length ≤ i ∧ x.IsBelow (itemPath collection i) := by
  induction h with
  | nil => cases hx
  | @cons before e rest own others own_below _ _ ih =>
    rcases List.mem_append.mp hx with hx | hx
    · exact ⟨before.length, le_rfl, isBelow_of_mem_entry own_below hx⟩
    · obtain ⟨i, hi, hx⟩ := ih hx
      rw [List.length_append, List.length_singleton] at hi
      exact ⟨i, Nat.le_of_succ_le hi, hx⟩

/-- The issues of a list that tell of repeated ids are those of the indexes whose id stands at an
index before, in order. -/
theorem filter_duplicateId (h : Listed collection before entries found) :
    found.filter (·.cause.kind = .duplicateId) =
      (List.range' before.length entries.length).filterMap
        (repeatedAt? collection (before ++ entries.map (·.id))) := by
  induction h with
  | nil => rfl
  | @cons before e rest own others own_below _ _ ih =>
    have own : own.filter (·.cause.kind = .duplicateId) = [] :=
      List.filter_eq_nil_iff.mpr fun x hx ↦ by simpa using (own_below x hx).2
    rw [List.filter_append, List.filter_append, own, List.append_nil, ih,
      filter_duplicateId_entryIssues collection before (rest.map (·.id)), List.length_append,
      List.length_singleton, List.append_assoc, List.singleton_append, List.map_cons,
      List.length_cons, List.range'_succ, List.filterMap_cons]
    cases repeatedAt? collection (before ++ e.id :: rest.map (·.id)) before.length <;> rfl

/-- Of an item that could not be read all faults are told, and nothing else but that its id stands
at an index before. -/
theorem unread (h : Listed collection before entries found) {i : Nat} {e : Entry α}
    (he : entries[i]? = some e) (hn : e.item = none) :
    (∀ fault ∈ e.faults, Issue.ofFault (itemPath collection (before.length + i)) fault ∈ found) ∧
      ∀ x ∈ found, x.IsBelow (itemPath collection (before.length + i)) →
        x.cause.kind = .structural ∨
          repeatedAt? collection (before ++ entries.map (·.id)) (before.length + i) = some x := by
  induction h generalizing i with
  | nil => cases he
  | @cons before first rest own others own_below own_eq_nil others_listed ih =>
    have ids : before ++ (first :: rest).map (·.id) = before ++ [first.id] ++ rest.map (·.id) := by
      rw [List.append_assoc, List.map_cons, List.singleton_append]
    cases i with
    | zero =>
      obtain rfl := Option.some.inj he
      obtain rfl := own_eq_nil hn
      refine ⟨fun fault hf ↦ ?_, fun x hx hb ↦ ?_⟩
      · exact List.mem_append_left _ (List.mem_append_left _
          (List.mem_append_left _ (List.mem_map_of_mem hf)))
      · rw [List.append_nil] at hx
        rcases List.mem_append.mp hx with hx | hx
        · rcases List.mem_append.mp hx with hx | hx
          · obtain ⟨fault, -, rfl⟩ := List.mem_map.mp hx
            exact .inl rfl
          · rw [duplicateIssues_eq collection before (rest.map (·.id)), Option.mem_toList] at hx
            exact .inr hx
        · -- the items behind have greater indexes, so their issues stand elsewhere
          obtain ⟨k, hk, hb'⟩ := others_listed.exists_isBelow hx
          rw [List.length_append, List.length_singleton, hb'.index_eq hb] at hk
          omega
    | succ i =>
      have hlength : before.length + (i + 1) = (before ++ [first.id]).length + i := by
        rw [List.length_append, List.length_singleton]
        omega
      obtain ⟨hfaults, honly⟩ := ih he
      rw [hlength, ids]
      refine ⟨fun fault hf ↦ List.mem_append_right _ (hfaults fault hf), fun x hx hb ↦ ?_⟩
      rcases List.mem_append.mp hx with hx | hx
      · have := hb.index_eq (isBelow_of_mem_entry own_below hx)
        omega
      · exact honly x hx hb

end Listed
end Validation

/-! ### The issues of a document -/

/-- The draft in a document whose stats are a list. -/
theorem Draft.exists_read {v : Json} {items : List Json}
    (h : v.get? "stats" = some (.array items)) :
    ∃ d, Draft.read v = some d ∧ d.stats = some (items.map (Entry.read Stat.id Stat.read)) := by
  obtain ⟨fs, hfs, hs⟩ := Option.bind_eq_some_iff.mp h
  refine ⟨_, by rw [Draft.read, hfs]; rfl, ?_⟩
  dsimp only
  rw [hs]
  rfl

namespace Validation

/-- What stands below one of two paths, neither of which starts with the other, does not stand below
the other. -/
theorem FoundBelow.not_isBelow {path place : String} {p : IssueKind → Bool} {issues : List Issue}
    (h : FoundBelow path p issues)
    (hp : ¬ path.toList <+: place.toList ∧ ¬ place.toList <+: path.toList) :
    ∀ x ∈ issues, ¬ x.IsBelow place := fun x hx hb ↦
  ((h x hx).1.comparable hb).elim hp.1 hp.2

/-- The issues of a draft whose stats are a list: those of the list, and before and behind them some
that do not stand below its path. -/
theorem exists_listed {d : Draft} {strict : Bool} {entries : List (Entry Stat)}
    {found : List Issue} (hs : d.stats = some entries) (h : draftIssues d strict = .ok found) :
    ∃ front stats rest, found = front ++ stats ++ rest ∧ Listed "stats" [] entries stats ∧
      (∀ x ∈ front, ¬ x.IsBelow "stats") ∧ ∀ x ∈ rest, ¬ x.IsBelow "stats" := by
  obtain ⟨stats, hstats, h⟩ := bind_eq_ok h
  obtain ⟨sections, hsections, h⟩ := bind_eq_ok h
  obtain ⟨integrations, hintegrations, h⟩ := bind_eq_ok h
  cases h
  rw [hs] at hstats
  have aList : issueIf d.stats.isNone "stats" (.notAList "stats") = [] := by rw [hs]; rfl
  have head : ∀ x ∈ headIssues d.head, ¬ x.IsBelow "stats" :=
    (foundBelow_headIssues d.head).not_isBelow (by decide)
  have noList : ∀ x ∈ issueIf d.sections.isNone "sections" (.notAList "sections"),
      ¬ x.IsBelow "stats" :=
    (FoundBelow.issueIf (p := IssueKind.isCommon) rfl).not_isBelow (by decide)
  have others : ∀ x ∈ sections, ¬ x.IsBelow "stats" := by
    intro x hx hb
    obtain ⟨i, -, hi⟩ := (listed_of_allSectionIssues hsections).exists_isBelow hx
    exact (hi.of_itemPath.comparable hb).elim (by decide) (by decide)
  have settings : ∀ x ∈ integrations, ¬ x.IsBelow "stats" :=
    (foundBelow_integrationIssues hintegrations).not_isBelow (by decide)
  refine ⟨_, stats, sections ++ integrations, (List.append_assoc ..),
    listed_of_allStatIssues hstats, ?_, List.forall_mem_append.mpr ⟨others, settings⟩⟩
  rw [aList, List.append_nil]
  exact List.forall_mem_append.mpr ⟨head, noList⟩

section
variable {d : Draft} {strict : Bool} {entries : List (Entry Stat)} {found : List Issue}
  (hs : d.stats = some entries) (h : draftIssues d strict = .ok found)
include hs h

/-- The issues of a draft that tell of repeated ids of stats are those of the indexes whose id
stands at an index before, in order. -/
theorem filter_duplicateId_of_draftIssues :
    found.filter (fun x ↦ x.cause.kind = .duplicateId ∧ x.IsBelow "stats") =
      (List.range entries.length).filterMap (repeatedAt? "stats" (entries.map (·.id))) := by
  obtain ⟨front, stats, rest, rfl, hstats, hfront, hrest⟩ := exists_listed hs h
  have outside {xs : List Issue} (hx : ∀ x ∈ xs, ¬ x.IsBelow "stats") :
      xs.filter (fun x ↦ x.cause.kind = .duplicateId ∧ x.IsBelow "stats") = [] :=
    List.filter_eq_nil_iff.mpr fun x hm ↦ by simp [hx x hm]
  have inside : stats.filter (fun x ↦ x.cause.kind = .duplicateId ∧ x.IsBelow "stats") =
      stats.filter (·.cause.kind = .duplicateId) := by
    refine List.filter_congr fun x hm ↦ ?_
    obtain ⟨i, -, hi⟩ := hstats.exists_isBelow hm
    simp [hi.of_itemPath]
  rw [List.filter_append, List.filter_append, outside hfront, outside hrest, inside,
    List.nil_append, List.append_nil, hstats.filter_duplicateId, List.length_nil,
    List.nil_append, List.range_eq_range']

/-- Of a stat that could not be read all faults are among the issues of a draft, and nothing else
but that its id stands at an index before. -/
theorem unread_of_draftIssues {i : Nat} {e : Entry Stat} (he : entries[i]? = some e)
    (hn : e.item = none) :
    (∀ fault ∈ e.faults, Issue.ofFault (itemPath "stats" i) fault ∈ found) ∧
      ∀ x ∈ found, x.IsBelow (itemPath "stats" i) → x.cause.kind = .structural ∨
        repeatedAt? "stats" (entries.map (·.id)) i = some x := by
  obtain ⟨front, stats, rest, rfl, hstats, hfront, hrest⟩ := exists_listed hs h
  have hunread := hstats.unread he hn
  simp only [List.length_nil, Nat.zero_add, List.nil_append] at hunread
  obtain ⟨hfaults, honly⟩ := hunread
  refine ⟨fun fault hf ↦ List.mem_append_left _ (List.mem_append_right _ (hfaults fault hf)),
    fun x hx hb ↦ ?_⟩
  rcases List.mem_append.mp hx with hx | hx
  · rcases List.mem_append.mp hx with hx | hx
    · exact absurd hb.of_itemPath (hfront x hx)
    · exact honly x hx hb
  · exact absurd hb.of_itemPath (hrest x hx)

end
end Validation

/-- Where a document whose stats are a list is validated, the issues that tell of repeated ids of
stats are those of the indexes whose id stands at an index before, in order; and of an item that
cannot be read faults are told and nothing else but that its id stands at an index before. A legible
document is always validated, unless the validation is strict and the text that names the stat for
initiative is taken for an id and cannot be read. -/
theorem Json.repeated_ids_of_stats {v : Json} {items : List Json}
    (h : v.get? "stats" = some (.array items)) (strict : Bool) :
    (∀ found, v.schemaIssues strict = .ok found →
      found.filter (fun x ↦ x.cause.kind = .duplicateId ∧ x.IsBelow "stats") =
        (List.range items.length).filterMap (repeatedAt? "stats" (items.map Json.statId?)) ∧
      ∀ i item faults, items[i]? = some item → Stat.read item = .bad faults →
        (∃ x ∈ found, x.cause.kind = .structural ∧ x.IsBelow (itemPath "stats" i)) ∧
        ∀ x ∈ found, x.IsBelow (itemPath "stats" i) → x.cause.kind = .structural ∨
          repeatedAt? "stats" (items.map Json.statId?) i = some x) ∧
    (v.IsLegible → ((∃ found, v.schemaIssues strict = .ok found) ↔
      (strict = true → ∀ d, Draft.read v = some d → d.InitiativeIsReadable))) := by
  obtain ⟨d, hd, hs⟩ := Draft.exists_read h
  have hv : v.schemaIssues strict = draftIssues d strict := by rw [Json.schemaIssues, hd]
  rw [hv]
  refine ⟨fun found hfound ↦ ?_, fun hl ↦ ?_⟩
  · have ids : (items.map (Entry.read Stat.id Stat.read)).map (·.id) = items.map Json.statId? := by
      rw [List.map_map]
      exact List.map_congr_left fun item _ ↦ Json.id_read_eq_statId? item
    have repeated := filter_duplicateId_of_draftIssues hs hfound
    rw [ids, List.length_map] at repeated
    refine ⟨repeated, fun i item faults hi hb ↦ ?_⟩
    have he : (items.map (Entry.read Stat.id Stat.read))[i]? =
        some ⟨none, Entry.rawId? item, faults⟩ := by
      rw [List.getElem?_map, hi, Option.map_some, Entry.read, hb]
    obtain ⟨hfaults, honly⟩ := unread_of_draftIssues hs hfound he rfl
    rw [ids] at honly
    obtain ⟨fault, hf⟩ := List.exists_mem_of_ne_nil faults fun hn ↦
      Stat.explained_read item (hn ▸ hb)
    exact ⟨⟨_, hfaults fault hf, rfl, (foundBelow_faults _ faults _ (List.mem_map_of_mem hf)).1⟩,
      honly⟩
  · rw [exists_draftIssues_iff (Draft.isLegible_of_read hl hd)]
    simp [hd]

/-- Stats of which the first has a text of digits for its id, the second has no type, and the third
has a truth value for its id. -/
def repeatingItems : List Json :=
  [.object [("id", .string "1"), ("type", .string "boolean")], .object [("id", .int 1)],
    .object [("id", .bool true), ("type", .string "boolean")]]

/-- A document with these stats. -/
def repeatingDocument : Json := .object [("stats", .array repeatingItems)]

theorem isLegible_repeatingDocument : repeatingDocument.IsLegible where
  plain := rfl
  readable := Json.hasReadableIds_of_length_le (by decide)
  writable := by
    refine List.forall_mem_singleton.mpr ?_
    rintro n ⟨⟩
    exact Numeral.isWritable_of_lt (k := 1) (by decide) (by decide)

/-- All three show the same id, whether they can be read or not. -/
theorem Json.repeated_ids_of_stats_coerced :
    repeatingDocument.get? "stats" = some (.array repeatingItems) ∧ repeatingDocument.IsLegible ∧
      ∃ found, repeatingDocument.schemaIssues true = .ok found ∧
        found.filter (fun x ↦ x.cause.kind = .duplicateId ∧ x.IsBelow "stats") =
          [⟨"stats[1].id", .duplicateId "stats" 1 0 1⟩,
            ⟨"stats[2].id", .duplicateId "stats" 1 0 2⟩] ∧
        Stat.read (.object [("id", .int 1)]) = .bad [⟨[], .missingTag "type"⟩] ∧
        (∃ x ∈ found, x.cause.kind = .structural ∧ x.IsBelow "stats[1]") ∧
        ∀ x ∈ found, x.IsBelow "stats[1]" → x.cause.kind = .structural ∨
          some ⟨"stats[1].id", .duplicateId "stats" 1 0 1⟩ = some x := by
  have h : repeatingDocument.get? "stats" = some (.array repeatingItems) := rfl
  have hread : Stat.read (.object [("id", .int 1)]) = .bad [⟨[], .missingTag "type"⟩] := rfl
  obtain ⟨hissues, hends⟩ := Json.repeated_ids_of_stats h true
  obtain ⟨found, hfound⟩ := (hends isLegible_repeatingDocument).mpr <| by
    rintro - d ⟨⟩ i ⟨⟩
  obtain ⟨hrepeated, hunread⟩ := hissues found hfound
  obtain ⟨hfault, honly⟩ := hunread 1 _ _ rfl hread
  exact ⟨h, isLegible_repeatingDocument, found, hfound, hrepeated, hread, hfault, honly⟩

/-! ### Documents that are not validated -/

/-- Where a document whose stats are a list is validated, the ids in the formulas of the stats that
could be read can be read. -/
theorem Json.readableIds_of_schemaIssues {v : Json} {items : List Json} {strict : Bool}
    {found : List Issue} (h : v.get? "stats" = some (.array items))
    (hf : v.schemaIssues strict = .ok found) {item : Json} (hm : item ∈ items) {s : Stat}
    (hs : Stat.read item = .ok s) {formula : String} (hc : s.formula? = some formula) :
    ReadableIds formula := by
  obtain ⟨d, hd, hstats⟩ := Draft.exists_read h
  rw [Json.schemaIssues, hd] at hf
  obtain ⟨stats, ha, -⟩ := bind_eq_ok hf
  rw [hstats] at ha
  refine readableIds_of_allStatIssues ha _ (List.mem_map_of_mem hm) s ?_ formula hc
  rw [Entry.read, hs]
  rfl

/-- A stat without a type, and a calculated stat that shows the same id and has a given formula. -/
def repeatingWithFormula (formula : String) : List Json :=
  [.object [("id", .int 1)],
    .object [("id", .int 1), ("type", .string "calculated"),
      ("name", .object [("default", .string "A")]), ("formula", .string formula)]]

/-- A document with these stats, and a formula in which an id has too many digits. -/
def unscannedDocument : Json :=
  .object [("config", .object [("id", .int 1), ("name", .object [("default", .string "S")])]),
    ("stats", .array (repeatingWithFormula (String.ofList Mention.ofZeros.source))),
    ("sections", .array [])]

/-- This document is not validated, so nothing is told of the repeated id in it. -/
theorem Json.repeated_ids_of_stats_fail :
    unscannedDocument.get? "stats" =
        some (.array (repeatingWithFormula (String.ofList Mention.ofZeros.source))) ∧
      repeatedAt? "stats"
          ((repeatingWithFormula (String.ofList Mention.ofZeros.source)).map Json.statId?) 1 =
        some ⟨"stats[1].id", .duplicateId "stats" 1 0 1⟩ ∧
      ∀ strict, ¬ ∃ found, unscannedDocument.schemaIssues strict = .ok found := by
  refine ⟨rfl, rfl, ?_⟩
  rintro strict ⟨found, hf⟩
  exact not_readableIds_ofZeros (Json.readableIds_of_schemaIssues rfl hf
    (List.mem_cons_of_mem _ List.mem_cons_self) rfl rfl)

end CharacterSheet
