import CharacterSheet.Proofs.Schema.Reading
import CharacterSheet.Validation

/-!
# Drafts of documents and of systems

A document that loads may spell its values in many ways: ids as texts or truth values, names left
out. What validation looks at is the same as in the system that it loads as. Main statement: a
document with a head and both lists has the issues of that system.
-/

namespace CharacterSheet
open Checked

/-! ### The head -/

/-- A localized text that was read has a default when its field is present. -/
theorem Draft.hasField_default {v : Json} {l : Localization} (h : Localization.read v = .ok l) :
    hasField "default" v = !l.default.isEmpty := by
  obtain ⟨fs, hfs, -, hd, -⟩ := Localization.read_eq_ok_iff.mp h
  rw [hasField, Json.get?, hfs, Option.bind_some]
  rcases fieldOr_eq_ok_iff.mp hd with ⟨w, hw, ht⟩ | ⟨hn, he⟩
  · rw [hw]
    cases w with
    | string d =>
      rw [← Checked.ok.inj ht]
      rfl
    | _ => simp [text, fail] at ht
  · rw [hn, he]
    rfl

/-- A head that was read has the id and the name that count in a draft. -/
theorem Draft.readHead_eq {v : Json} {c : SystemConfig} (h : SystemConfig.read v = .ok c) :
    readHead v = some ⟨c.id.isSome, !c.name.default.isEmpty⟩ := by
  obtain ⟨fs, hfs, hi, hn, -⟩ := SystemConfig.read_eq_ok_iff.mp h
  have hid : ((Json.Fields.get? "id" fs).map (!·.isNull)).getD false = c.id.isSome := by
    rcases fieldOr_eq_ok_iff.mp hi with ⟨w, hw, hr⟩ | ⟨hm, he⟩
    · rw [hw]
      rcases nullable_eq_ok_iff.mp hr with ⟨rfl, he⟩ | ⟨hne, n, -, he⟩
      · rw [he]
        rfl
      · rw [he]
        cases w with
        | null => contradiction
        | _ => rfl
    · rw [hm, he]
      rfl
  have hname : ((Json.Fields.get? "name" fs).map (hasField "default")).getD false =
      !c.name.default.isEmpty := by
    rcases fieldOr_eq_ok_iff.mp hn with ⟨w, hw, hr⟩ | ⟨hm, he⟩
    · rw [hw, Option.map_some, Option.getD_some, hasField_default hr]
    · rw [hm, he]
      rfl
  rw [readHead, hfs, Option.map_some, hid, hname]

/-! ### Lists -/

/-- The entries of a list that was read are those of its items. -/
theorem Draft.readEntries_eq {α : Type} {id : α → Int} {read : Json → Checked α} {v : Json}
    {as : List α} (h : Checked.list read v = .ok as) :
    readEntries id read v = some (as.map (Entry.ofItem id)) := by
  obtain ⟨items, rfl, hr⟩ := list_eq_ok_iff.mp h
  rw [readEntries, Option.some_inj]
  induction hr with
  | nil => rfl
  | @cons v a items as hv hs ih =>
    rw [List.map_cons, List.map_cons, ih (list_eq_ok_iff.mpr ⟨items, rfl, hs⟩), Entry.read, hv]

/-! ### Main statement -/

/-- A field that is there was read from its value. -/
theorem Checked.exists_of_fieldOr {α : Type} {fs : Json.Fields} {key : String} {default a : α}
    {read : Json → Checked α} (h : fieldOr fs key default read = .ok a)
    (hk : (Json.Fields.get? key fs).isSome) :
    ∃ v, (Json.Fields.get? key fs).getD .null = v ∧ read v = .ok a := by
  rcases fieldOr_eq_ok_iff.mp h with ⟨v, hv, hr⟩ | ⟨hn, -⟩
  · exact ⟨v, by rw [hv]; rfl, hr⟩
  · rw [hn] at hk
    contradiction

/-- The draft in a document that has a head and both lists is the draft of the system that the
document loads as. -/
theorem Draft.read_eq_ofSystem {v : Json} {s : GameSystem} (h : GameSystem.read v = .ok s)
    (hc : (v.get? "config").isSome) (hs : (v.get? "stats").isSome)
    (ht : (v.get? "sections").isSome) : Draft.read v = some (.ofSystem s) := by
  obtain ⟨fs, hfs, hconfig, hstats, hsections, hintegrations⟩ := GameSystem.read_eq_ok_iff.mp h
  have hget (key : String) : v.get? key = Json.Fields.get? key fs := by
    rw [Json.get?, hfs, Option.bind_some]
  rw [hget] at hc hs ht
  obtain ⟨config, hvc, hconfig⟩ := exists_of_fieldOr hconfig hc
  obtain ⟨stats, hvs, hstats⟩ := exists_of_fieldOr hstats hs
  obtain ⟨sections, hvt, hsections⟩ := exists_of_fieldOr hsections ht
  have hi : Checked.nullable Integrations.read
      ((Json.Fields.get? "integrations" fs).getD .null) = .ok s.integrations := by
    rcases fieldOr_eq_ok_iff.mp hintegrations with ⟨w, hw, hr⟩ | ⟨hn, he⟩
    · rwa [hw]
    · rw [hn, he]
      rfl
  rw [Draft.read, hfs, Option.map_some]
  simp only [hvc, hvs, hvt, hi, readHead_eq hconfig, readEntries_eq hstats,
    readEntries_eq hsections]
  rfl

/-- A document that has a head and both lists has the issues of the system that it loads as, in the
same order, and validation fails on both or on none. -/
theorem Json.schemaIssues_eq_issues {v : Json} {s : GameSystem} (h : GameSystem.read v = .ok s)
    (hc : (v.get? "config").isSome) (hs : (v.get? "stats").isSome)
    (ht : (v.get? "sections").isSome) (strict : Bool) :
    v.schemaIssues strict = s.issues strict := by
  rw [Json.schemaIssues, Draft.read_eq_ofSystem h hc hs ht]
  rfl

/-- A document whose ids are a text, a truth value, a double and a text once more, and whose stats
have no names. -/
def looseDocument : Json :=
  .object [("config", .object [("id", .string "7")]),
    ("stats", .array [
      .object [("id", .bool true), ("type", .string "numeric"), ("min", .string "2"),
        ("max", .bool true)],
      .object [("id", .string "1"), ("type", .string "calculated"),
        ("formula", .string "<stat:1:value>+<stat:3:value>")]]),
    ("sections", .array [.object [("id", .string "4")]])]

/-- The issues of a document that is spelled loosely. -/
theorem Json.schemaIssues_eq_issues_loose :
    ∃ s, GameSystem.read looseDocument = .ok s ∧
      looseDocument.schemaIssues true = s.issues true :=
  ⟨_, rfl, Json.schemaIssues_eq_issues rfl rfl rfl rfl true⟩

end CharacterSheet
