import CharacterSheet.Proofs.Command.Failures
import CharacterSheet.Proofs.Command.Reports
import CharacterSheet.Proofs.Yaml.Scans
import Mathlib.Data.List.Forall2

/-!
# Validated documents

Validation is asked to look at paths. It looks at the paths that have the ending of a document and
lead to no directory, and at the files with such an ending below those that do. A path of any other
kind is passed over. Main statement: the exit status is zero exactly when every document that is
looked at passes; and as long as documents can be told about, each of them is told about, whatever
is wrong with those before it.
-/

namespace CharacterSheet
open Report (lead)

/-! ### Texts without a document -/

namespace DocumentFormat
variable {text : String}

/-- A text whose value counts as nothing is read as an empty object. -/
theorem read_yaml_of_not_isTruthy
    (h : (Yaml.read text).toOption.any (!·.isTruthy) = true) :
    yaml.read text = .ok (.object []) := by
  rw [read]
  cases hv : Yaml.read text with
  | error e =>
    rw [hv] at h
    cases h
  | ok v =>
    rw [hv] at h
    exact congrArg Except.ok (if_neg (by simpa [Except.toOption] using h))

end DocumentFormat

namespace FileStore
variable {s : FileStore} {strict : Bool} {p : Path} {found : List Notice}

/-! ### What is looked at -/

/-- Paths name those among them that lead to no directory, and every file below the others. -/
inductive Names (s : FileStore) (sources : List Path) : Path → Prop where
  | source {p : Path} (hm : p ∈ sources) (hd : s.isDirectory p = false) : s.Names sources p
  | below {source : Path} {l rest : Location} {text : String} (hm : source ∈ sources)
      (hl : s.locate source = .ok l) (hd : s.isDirectoryAt l = true) (hr : rest ≠ [])
      (hf : (l ++ rest, text) ∈ s.files) : s.Names sources (source.below rest)

/-- The files below a directory are those whose locations go on from it. -/
theorem mem_filesBelow_iff {directory : Path} {l : Location} (hl : s.locate directory = .ok l) :
    p ∈ s.filesBelow directory ↔
      ∃ rest text, rest ≠ [] ∧ (l ++ rest, text) ∈ s.files ∧ p = directory.below rest := by
  simp only [filesBelow, hl, List.mem_mergeSort, List.mem_filterMap]
  constructor
  · rintro ⟨⟨other, text⟩, hm, hp⟩
    obtain ⟨hb, rfl⟩ : (l.isPrefixOf other ∧ l.length < other.length) ∧
        directory.below (other.drop l.length) = p := by simpa using hp
    obtain ⟨rest, rfl⟩ := List.isPrefixOf_iff_prefix.mp hb.1
    rw [List.drop_left]
    exact ⟨rest, text, List.length_pos_iff.mp (by simpa using hb.2), hm, rfl⟩
  · rintro ⟨rest, text, hr, hm, rfl⟩
    have hlong : 0 < rest.length := List.length_pos_iff.mpr hr
    exact ⟨(l ++ rest, text), hm, by simp [hlong]⟩

/-- Validation looks at what is named and has the ending of a document. -/
theorem mem_documents_iff {sources : List Path} :
    p ∈ sources.flatMap s.documentsAt ↔
      s.Names sources p ∧ DocumentFormat.isDocument p = true := by
  simp only [List.mem_flatMap, documentsAt, List.mem_filter]
  constructor
  · rintro ⟨source, hm, hp, he⟩
    refine ⟨?_, he⟩
    split at hp
    · next hd =>
      unfold isDirectory at hd
      split at hd
      · next l hl =>
        obtain ⟨rest, text, hr, hf, rfl⟩ := (mem_filesBelow_iff hl).mp hp
        exact .below hm hl hd hr hf
      · cases hd
    · next hd =>
      obtain rfl := List.mem_singleton.mp hp
      exact .source hm (by simpa using hd)
  · rintro ⟨hn, he⟩
    cases hn with
    | source hm hd => exact ⟨p, hm, by simp [hd], he⟩
    | @below source l rest text hm hl hd hr hf =>
      have hd : s.isDirectory source = true := by simp only [isDirectory, hl, hd]
      refine ⟨source, hm, ?_, he⟩
      rw [if_pos hd]
      exact (mem_filesBelow_iff hl).mpr ⟨rest, text, hr, hf, rfl⟩

/-! ### What is told about a document -/

/-- The document in a file whose text can be had. -/
theorem readDocument_of_read {text : String} {format : DocumentFormat}
    {r : Except DocumentError Json} (ht : s.read p = .ok text)
    (hf : DocumentFormat.ofPath p = format) (hr : format.read text = r) :
    s.readDocument p = r.mapError .document := by
  simp only [readDocument, ht, hf, hr, mapError_ok, bind, Except.bind]

/-- A document that can be read and has no issues. -/
def Passes (s : FileStore) (strict : Bool) (p : Path) : Prop :=
  ∃ v, s.readDocument p = .ok v ∧ v.schemaIssues strict = .ok []

/-- The notices on a document: that it cannot be read, or one for each of its issues. -/
inductive Notes (s : FileStore) (strict : Bool) (p : Path) : List Notice → Prop where
  | unreadable {cause : Failure} (hp : s.readDocument p = .error cause)
      (hu : cause.isUnreadable = true) : s.Notes strict p [.failure (lead p) cause]
  | issues {v : Json} {issues : List Issue} (hp : s.readDocument p = .ok v)
      (hi : v.schemaIssues strict = .ok issues) :
      s.Notes strict p (issues.map fun i ↦ .line (lead p ++ i.line))

theorem Notes.onDocument_eq (h : s.Notes strict p found) :
    Report.onDocument s strict p = { notices := found } := by
  unfold Report.onDocument
  cases h with
  | unreadable hp hu => simp only [hp, hu, if_true]
  | issues hp hi => simp only [hp, hi]

/-- The report on a document is clean exactly when the document passes. -/
theorem isClean_onDocument_iff : (Report.onDocument s strict p).IsClean ↔ s.Passes strict p := by
  constructor
  · rintro ⟨hd, hs⟩
    unfold Report.onDocument at hd hs
    split at hd
    · next cause hp =>
      -- a document that is not read has a notice, or ends the run
      split at hd
      · next hu => simp [hp, hu] at hs
      · cases hd
    · next v hp =>
      split at hd
      · next issues hi =>
        obtain rfl : issues = [] := by simpa [hp, hi] using hs
        exact ⟨v, hp, hi⟩
      · cases hd
  · rintro ⟨v, hp, hi⟩
    rw [(Notes.issues hp hi).onDocument_eq]
    exact ⟨rfl, rfl⟩

/-- There is nothing to tell about a document that passes. -/
theorem Passes.notes_eq_nil (h : s.Passes strict p) (hn : s.Notes strict p found) : found = [] := by
  have hs := (isClean_onDocument_iff.mpr h).silent
  rwa [hn.onDocument_eq] at hs

end FileStore

namespace Report
variable {s : FileStore} {strict : Bool} {sources : List Path}

theorem notices_onDocuments :
    (onDocuments s strict sources).notices =
      (join ((sources.flatMap s.documentsAt).map (onDocument s strict))).notices := by
  rw [onDocuments]
  refine notices_append_of_nil ?_
  split <;> rfl

/-- Validation ends well exactly when every document passes. -/
theorem status_onDocuments_eq_zero_iff :
    (onDocuments s strict sources).ending.status = 0 ↔
      ∀ p ∈ sources.flatMap s.documentsAt, s.Passes strict p := by
  simp only [← FileStore.isClean_onDocument_iff]
  rw [← List.forall_mem_map (P := IsClean), ← isClean_join_iff, Ending.status_eq_zero_iff]
  generalize hr : join ((sources.flatMap s.documentsAt).map (onDocument s strict)) = r
  have hdocuments : onDocuments s strict sources = r ++ if r.notices.isEmpty then
      line (toString (sources.flatMap s.documentsAt).length ++
        " schema file(s) validated successfully.")
    else { ending := .failed } := by rw [← hr, onDocuments]
  rw [hdocuments]
  by_cases hd : r.ending = .done
  · rw [append_of_done hd]
    cases hn : r.notices with
    | nil => exact ⟨fun _ ↦ ⟨hd, hn⟩, fun _ ↦ rfl⟩
    | cons n ns => exact ⟨nofun, fun h ↦ absurd h.silent (by simp [hn])⟩
  · rw [append_of_not_done hd]
    exact ⟨fun h ↦ absurd h hd, fun h ↦ h.done⟩

/-- The reports on documents that can be told about. -/
theorem map_onDocument {documents : List Path} {found : List (List Notice)}
    (h : List.Forall₂ (s.Notes strict) documents found) :
    documents.map (onDocument s strict) = found.map fun notices ↦ { notices } := by
  induction h with
  | nil => rfl
  | cons h _ ih => rw [List.map_cons, List.map_cons, h.onDocument_eq, ih]

/-- Documents that can be told about are told about in order, before anything that follows. -/
theorem notices_onDocuments_of_notes {before after : List Path} {found : List (List Notice)}
    (hs : sources.flatMap s.documentsAt = before ++ after)
    (hn : List.Forall₂ (s.Notes strict) before found) :
    (onDocuments s strict sources).notices =
      found.flatten ++ (join (after.map (onDocument s strict))).notices := by
  have hdone : ∀ r ∈ before.map (onDocument s strict), r.ending = .done := by
    rw [map_onDocument hn]
    exact List.forall_mem_map.mpr fun _ _ ↦ rfl
  rw [notices_onDocuments, hs, List.map_append, notices_join_append hdone, map_onDocument hn,
    List.flatMap_map]
  simp

end Report

/-! ### Runs of validation -/

namespace Workspace
variable {w : Workspace} {sources : List Path} {strict : Option Bool} {b : Bool}

/-- How strict validation is: as it is asked to be, or else as the settings say. -/
inductive InForce (w : Workspace) : Option Bool → Bool → Prop where
  | asked (b : Bool) : w.InForce (some b) b
  | kept {settings : Settings} {after : Workspace}
      (h : w.loadSettings = .ok (settings, after)) : w.InForce none settings.strictValidation

/-- Validation looks at documents as strictly as is in force. -/
theorem InForce.report_eq (h : w.InForce strict b) :
    (w.runValidate sources strict).1 = Report.onDocuments w.store b sources := by
  cases h with
  | asked b => rfl
  | kept h => simp only [runValidate, withSettings, h, store_of_loadSettings h]

/-- Validation without settings that can be read ends badly. -/
theorem status_runValidate (h : ∀ b, ¬ w.InForce strict b) :
    (w.runValidate sources strict).1.ending.status = 1 := by
  cases strict with
  | some b => exact absurd (.asked b) (h b)
  | none =>
    rw [runValidate, withSettings]
    split
    · next settings after hs => exact absurd (.kept hs) (h _)
    · rfl

/-- Only one strictness is in force. -/
theorem InForce.unique {c : Bool} (h : w.InForce strict b) (h' : w.InForce strict c) : b = c := by
  cases h with
  | asked => cases h'; rfl
  | kept h =>
    cases h' with
    | kept h' => rw [h] at h'; cases h'; rfl

/-- Validation ends well exactly when some strictness is in force and every document that the paths
name passes at it. -/
theorem status_runValidate_eq_zero_iff :
    (w.runValidate sources strict).1.ending.status = 0 ↔
      ∃ b, w.InForce strict b ∧
        ∀ q, w.store.Names sources q → DocumentFormat.isDocument q = true →
          w.store.Passes b q := by
  by_cases hb : ∃ b, w.InForce strict b
  · obtain ⟨b, hb⟩ := hb
    rw [hb.report_eq, Report.status_onDocuments_eq_zero_iff]
    simp only [FileStore.mem_documents_iff, and_imp]
    constructor
    · intro h
      exact ⟨b, hb, h⟩
    · rintro ⟨c, hc, h⟩
      obtain rfl := hb.unique hc
      exact h
  · rw [status_runValidate (not_exists.mp hb)]
    constructor
    · intro h
      exact absurd h Nat.one_ne_zero
    · rintro ⟨b, hc, -⟩
      exact absurd ⟨b, hc⟩ hb

end Workspace

namespace Program

/-- Validation that is asked how strict to be. -/
theorem run_of_read_validate {p : Program} {arguments : List String} {sources : List Path}
    {b : Bool} (hp : p.read arguments = .ok (.validate sources (some b))) (w : Workspace)
    (dice : Nat → Nat) :
    p.run w dice arguments = (.ok (Report.onDocuments w.store b sources), w) :=
  run_of_read hp w dice

/-- Validation comes to an exit status of zero exactly when every document that the paths name
passes, as strictly as is in force, and to one otherwise. The notices tell about the documents in
order, as far as they can be told about. -/
theorem exitStatus_validate {p : Program} {w : Workspace} {dice : Nat → Nat}
    {arguments : List String} {sources : List Path} {strict : Option Bool}
    (hp : p.read arguments = .ok (.validate sources strict)) :
    ∃ (report : Report) (after : Workspace), p.run w dice arguments = (.ok report, after) ∧
      (exitStatus (.ok report) = 0 ↔ ∃ b, w.InForce strict b ∧
        ∀ q, w.store.Names sources q → DocumentFormat.isDocument q = true →
          w.store.Passes b q) ∧
      (exitStatus (.ok report) ≠ 0 → exitStatus (.ok report) = 1) ∧
      ∀ b first rest found, w.InForce strict b →
        sources.flatMap w.store.documentsAt = first ++ rest →
        List.Forall₂ (w.store.Notes b) first found →
        found.flatten <+: report.notices ∧ (rest = [] → report.notices = found.flatten) := by
  refine ⟨_, _, run_of_read hp w dice, ?_, ?_, ?_⟩
  · rw [exitStatus, Workspace.run]
    exact Workspace.status_runValidate_eq_zero_iff
  · exact Ending.status_eq_one
  · intro b first rest found hb hs hn
    have hnotices := Report.notices_onDocuments_of_notes hs hn
    rw [Workspace.run, hb.report_eq, hnotices]
    refine ⟨List.prefix_append _ _, ?_⟩
    rintro rfl
    exact List.append_nil _

/-- A malformed file, and a directory with an empty document and a file that is no document. -/
theorem exitStatus_validate_flawed :
    let w : Workspace := { store := { files := [(["bad.json"], "\x7b"),
      (["d", "empty.yaml"], ""), (["d", "notes.txt"], "")] } }
    ∃ report after,
      inspector.run w (fun _ ↦ 0) ["validate-system", "--no-strict", "bad.json", "d"] =
        (.ok report, after) ∧
      exitStatus (.ok report) = 1 ∧
      report.notices.map Notice.text = [
        "[ERROR] bad.json: Expecting property name enclosed in double quotes: " ++
          "line 1 column 2 (char 1)",
        "[ERROR] d/empty.yaml: config: config is required",
        "[ERROR] d/empty.yaml: stats: stats must be a list",
        "[ERROR] d/empty.yaml: sections: sections must be a list"] := by
  intro w
  let bad : Path := ⟨false, ["bad.json"]⟩
  let directory : Path := ⟨false, ["d"]⟩
  let empty : Path := ⟨false, ["d", "empty.yaml"]⟩
  have hread : inspector.read ["validate-system", "--no-strict", "bad.json", "d"] =
      .ok (.validate [bad, directory] (some false)) := rfl
  have hbelow : w.store.filesBelow directory = [empty, ⟨false, ["d", "notes.txt"]⟩] := by
    have hl : w.store.locate directory = .ok ["d"] := rfl
    simp only [FileStore.filesBelow, hl]
    exact List.mergeSort_of_pairwise (by decide +kernel)
  have hdocuments : [bad, directory].flatMap w.store.documentsAt = [bad, empty] ++ [] := by
    have hb : w.store.documentsAt bad = [bad] := by decide +kernel
    have hd : w.store.documentsAt directory = [empty] := by
      rw [FileStore.documentsAt, hbelow]
      decide +kernel
    rw [List.flatMap_cons, List.flatMap_singleton, hb, hd]
    rfl
  have hbad : w.store.Notes false bad [.failure (lead bad)
      (.document (.json "\x7b" ⟨.expectedKey, 0, 0⟩))] := by
    have hj : DocumentFormat.json.read "\x7b" = .error (.json "\x7b" ⟨.expectedKey, 0, 0⟩) :=
      eq_error_of_failure? (by decide +kernel)
    exact .unreadable (FileStore.readDocument_of_read rfl (by decide +kernel) hj) rfl
  have hempty : w.store.Notes false empty (([⟨"config", .required "config"⟩,
      ⟨"stats", .notAList "stats"⟩, ⟨"sections", .notAList "sections"⟩] : List Issue).map
        fun i ↦ .line (lead empty ++ i.line)) := by
    have hy : DocumentFormat.yaml.read "" = .ok (.object []) :=
      DocumentFormat.read_yaml_of_not_isTruthy (by decide +kernel)
    exact .issues (FileStore.readDocument_of_read rfl (by decide +kernel) hy) rfl
  obtain ⟨report, after, hrun, hzero, hone, hnotices⟩ :=
    @exitStatus_validate inspector w (fun _ ↦ 0) _ _ _ hread
  obtain ⟨-, hall⟩ := hnotices false [bad, empty] [] _ (.asked false) hdocuments
    (.cons hbad (.cons hempty .nil))
  have hall := hall rfl
  refine ⟨report, after, hrun, hone fun h ↦ ?_, ?_⟩
  · obtain ⟨_, hb, hpass⟩ := hzero.mp h
    cases hb
    have hnamed : w.store.Names [bad, directory] bad := .source List.mem_cons_self rfl
    have hnone := (hpass bad hnamed (by decide +kernel)).notes_eq_nil hbad
    exact absurd hnone (List.cons_ne_nil _ _)
  · rw [hall]
    decide +kernel

/-- A file whose name has another ending is passed over, though it is no document that passes. And
a numeral without a value in one file keeps validation from telling about the next one. -/
theorem not_validated :
    (let w : Workspace := { store := { files := [(["notes.txt"], "\x7b\x7d")] } }
      let notes : Path := ⟨false, ["notes.txt"]⟩
      ∃ report after,
        inspector.run w (fun _ ↦ 0) ["validate-system", "--no-strict", "notes.txt"] =
          (.ok report, after) ∧
        exitStatus (.ok report) = 0 ∧ w.store.isDirectory notes = false ∧
        ¬ w.store.Passes false notes) ∧
    let w : Workspace := { store := {
      files := [(["a.yaml"], "0b_"), (["b.yaml"], "")] } }
    ∃ report after issues v,
      inspector.run w (fun _ ↦ 0) ["validate-system", "--no-strict", "a.yaml", "b.yaml"] =
        (.ok report, after) ∧
      w.store.readDocument ⟨false, ["b.yaml"]⟩ = .ok v ∧ v.schemaIssues false = .ok issues ∧
      issues ≠ [] ∧ report.notices = [] := by
  constructor
  · intro w notes
    have hread : inspector.read ["validate-system", "--no-strict", "notes.txt"] =
        .ok (.validate [notes] (some false)) := rfl
    have hdocuments : w.store.documentsAt notes = [] := by decide +kernel
    have hissues : ((w.store.readDocument notes).toOption.bind
        fun v ↦ (v.schemaIssues false).toOption).any List.isEmpty = false := by decide +kernel
    have hstatus : (Report.onDocuments w.store false [notes]).ending.status = 0 := by
      refine Report.status_onDocuments_eq_zero_iff.mpr ?_
      rw [List.flatMap_singleton, hdocuments]
      intro p hp
      exact absurd hp List.not_mem_nil
    refine ⟨_, _, run_of_read_validate hread w _, hstatus, rfl, ?_⟩
    rintro ⟨v, hv, hi⟩
    rw [hv] at hissues
    change (v.schemaIssues false).toOption.any List.isEmpty = false at hissues
    rw [hi] at hissues
    cases hissues
  · intro w
    let first : Path := ⟨false, ["a.yaml"]⟩
    let second : Path := ⟨false, ["b.yaml"]⟩
    have hread : inspector.read ["validate-system", "--no-strict", "a.yaml", "b.yaml"] =
        .ok (.validate [first, second] (some false)) := rfl
    have hfirst : Report.onDocument w.store false first =
        Report.broken (.document (.yaml (.noDigits 2))) := by
      have hy : DocumentFormat.yaml.read "0b_" = .error (.yaml (.noDigits 2)) := by
        have hchars : ∀ c ∈ ['0', 'b', '_'], Yaml.isSolid c = true ∧ Yaml.isPrintable c = true := by
          rw [List.forall_mem_cons, List.forall_mem_cons, List.forall_mem_singleton]
          decide
        have hplain : Yaml.plainValue "0b_" = .error (.noDigits 2) :=
          eq_error_of_failure? (by decide +kernel)
        have hv : Yaml.read "0b_" = Json.ofKey <$> Yaml.plainValue "0b_" :=
          Yaml.read_of_nought hchars
        rw [DocumentFormat.read, hv, hplain]
        rfl
      have hr := FileStore.readDocument_of_read (s := w.store) (p := first) rfl
        (by decide +kernel) hy
      rw [Report.onDocument, hr]
      rfl
    have hsecond : w.store.readDocument second = .ok (.object []) := by
      have hy : DocumentFormat.yaml.read "" = .ok (.object []) :=
        DocumentFormat.read_yaml_of_not_isTruthy (by decide +kernel)
      exact FileStore.readDocument_of_read rfl (by decide +kernel) hy
    have hsilent : (Report.onDocuments w.store false [first, second]).notices = [] := by
      have hd : [first, second].flatMap w.store.documentsAt = [first, second] := by decide +kernel
      rw [Report.notices_onDocuments, hd, List.map_cons, hfirst, Report.join_broken]
      rfl
    exact ⟨_, _, _, _, run_of_read_validate hread w _, hsecond, rfl, List.cons_ne_nil _ _,
      hsilent⟩

end Program
end CharacterSheet
