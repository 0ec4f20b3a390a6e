import Buildwatch.Codec.Output
import Buildwatch.Codec.Target
import Buildwatch.Proofs.Codec.Lawful
import Buildwatch.Proofs.Path

/-!
# Targets and output through JSON

Everything that is encoded, targets and projects as well as what a run reports, is decoded again
from its JSON text. The tag of a target specification is no field of any kind of target, and
wherever it stands, all other fields are found.
-/

namespace Buildwatch

variable (dialect : Dialect)

/-! ## Units and projects -/

theorem UnitKind.lawful : Lawful UnitKind.toData (UnitKind.ofData? dialect) :=
  ⟨fun k => .string k.name, fun k => by cases k <;> rfl⟩

theorem BuildUnit.lawful : Lawful BuildUnit.toData (BuildUnit.ofData? dialect) := by
  refine ⟨fun u => .record ?_, fun u => ?_⟩
  · simp [(UnitKind.lawful dialect).hasText, Lawful.string.hasText]
  · obtain ⟨f, hf, hfinds⟩ := Fields.exists_of_record dialect ["type", "name", "target"]
      (d := u.toData) rfl (by simp)
    have hkind := (UnitKind.lawful dialect).required (hfinds "type" u.kind.toData (by simp))
    have hname := Lawful.string.required (hfinds "name" (.string u.name) (by simp))
    have htarget := Lawful.string.required (hfinds "target" (.string u.target) (by simp))
    simp [ofData?, hf, hkind, hname, htarget]

theorem ProjectDescription.lawful :
    Lawful ProjectDescription.toData (ProjectDescription.ofData? dialect) := by
  have htargets := (BuildUnit.lawful dialect).list
  refine ⟨fun p => .record ?_, fun p => ?_⟩
  · simp [htargets.hasText, Lawful.string.hasText]
  · obtain ⟨f, hf, hfinds⟩ := Fields.exists_of_record dialect ["name", "version", "targets"]
      (d := p.toData) rfl (by simp)
    have hname := Lawful.string.required (hfinds "name" (.string p.name) (by simp))
    have hversion := Lawful.string.withDefault "" (hfinds "version" (.string p.version) (by simp))
    have htargets := htargets.withDefault [] (a := p.targets) (hfinds "targets" _ (by simp))
    simp [ofData?, hf, hname, hversion, htargets]

/-! ## Output -/

theorem Severity.lawful : Lawful Severity.toData (Severity.ofData? dialect) :=
  ⟨fun s => .string s.name, fun s => by cases s <;> rfl⟩

theorem Progress.lawful : Lawful Progress.toData (Progress.ofData? dialect) := by
  refine ⟨fun p => .record ?_, fun p => ?_⟩
  · simp [Data.hasText_ofNat]
  · obtain ⟨f, hf, hfinds⟩ := Fields.exists_of_record dialect ["completed", "total"]
      (d := p.toData) rfl (by simp)
    have hcompleted := Lawful.uint64.required (a := p.completed) (hfinds "completed" _ (by simp))
    have htotal := Lawful.uint64.required (a := p.total) (hfinds "total" _ (by simp))
    simp [ofData?, hf, hcompleted, htotal]

/-- An exit code that is missing is told from every other one. -/
theorem BuildResult.lawful : Lawful BuildResult.toData (BuildResult.ofData? dialect) := by
  have not_null (code : Int32) : Data.ofInt code.toInt ≠ .null := nofun
  refine ⟨fun r => .record ?_, fun r => ?_⟩
  · simp [(Lawful.int32.ofOption not_null).hasText, Lawful.bool.hasText]
  · obtain ⟨f, hf, hfinds⟩ := Fields.exists_of_record dialect ["exit_code", "has_error"]
      (d := r.toData) rfl (by simp)
    have hexitCode := Lawful.int32.nullable not_null (a := r.exitCode)
      (hfinds "exit_code" _ (by simp))
    have hhasError := Lawful.bool.required (hfinds "has_error" (.bool r.hasError) (by simp))
    simp [ofData?, hf, hexitCode, hhasError]

/-- A diagnostic can be encoded exactly if its file is a text. -/
theorem Diagnostic.exists_toData?_iff (d : Diagnostic) :
    (∃ data, d.toData? = some data) ↔ d.file.IsText := by
  simp only [toData?, Option.map_eq_some_iff, Path.text?_eq_some_iff]
  exact ⟨fun ⟨_, s, hs, _⟩ => ⟨s, hs⟩, fun ⟨s, hs⟩ => ⟨_, s, hs, rfl⟩⟩

theorem Diagnostic.lawful (d : Diagnostic) (data : Data) (h : d.toData? = some data) :
    Json.HasText data ∧ Diagnostic.ofData? dialect data = some d := by
  have not_null (s : String) : Data.string s ≠ .null := nofun
  obtain ⟨file, htext, hdata⟩ := Option.map_eq_some_iff.1 h
  have hpath : d.file = file := Path.text?_eq_some_iff.1 htext
  constructor
  · rw [← hdata]
    refine .record ?_
    simp [(Severity.lawful dialect).hasText, Lawful.string.hasText, Data.hasText_ofNat,
      (Lawful.string.ofOption not_null).hasText]
  · obtain ⟨f, hf, hfinds⟩ := Fields.exists_of_record dialect
      ["file", "line", "column", "end_column", "severity", "message", "context"]
      hdata.symm (by simp)
    have hfile := Lawful.string.required (hfinds "file" (.string file) (by simp))
    have hline := Lawful.uint32.required (a := d.line) (hfinds "line" _ (by simp))
    have hcolumn := Lawful.uint32.required (a := d.column) (hfinds "column" _ (by simp))
    have hendColumn := Lawful.uint32.required (a := d.endColumn)
      (hfinds "end_column" _ (by simp))
    have hseverity := (Severity.lawful dialect).required
      (hfinds "severity" d.severity.toData (by simp))
    have hmessage := Lawful.string.required (hfinds "message" (.string d.message) (by simp))
    have hcontext := Lawful.string.nullable not_null (a := d.context)
      (hfinds "context" _ (by simp))
    simp [ofData?, hf, hfile, hline, hcolumn, hendColumn, hseverity, hmessage, hcontext, ← hpath]

/-! ## Target specifications -/

namespace TargetSpec

/-- What the tag of a specification says. -/
def kind : TargetSpec → String
  | .component .. => "component"
  | .all _ => "all"
  | .auto _ => "auto"

/-- The fields of a specification beside its tag. -/
def contents : TargetSpec → List (String × Data)
  | .component project name => [("project", .string project), ("component", .string name)]
  | .all project | .auto project => [("project", .string project)]

variable {dialect : Dialect} {s : TargetSpec} {fields : List (String × Data)}

theorem toData_eq (s : TargetSpec) : s.toData = .record ((tag, .string s.kind) :: s.contents) := by
  cases s <;> rfl

/-- The tag is no field of the contents, and these have names of their own. -/
theorem nodup_names (s : TargetSpec) : (tag :: s.contents.map (·.1)).Nodup := by
  cases s <;> simp [contents, tag]

theorem exists_string_of_mem (s : TargetSpec) :
    ∀ field ∈ (tag, .string s.kind) :: s.contents, ∃ text, field.2 = Data.string text := by
  cases s <;> simp [contents]

/-- A record of strings can be kept in memory, and nothing is nested in it. -/
theorem sound_of_strings (dialect : Dialect)
    (h : ∀ field ∈ fields, ∃ text, field.2 = Data.string text) :
    Data.isSoundFields dialect fields = true ∧ Data.depthOfFields fields = 0 := by
  induction fields with
  | nil => exact ⟨by rw [Data.isSoundFields], by rw [Data.depthOfFields]⟩
  | cons field fields ih =>
    obtain ⟨name, d⟩ := field
    obtain ⟨text, rfl : d = .string text⟩ := h (name, d) List.mem_cons_self
    obtain ⟨hsound, hdepth⟩ := ih fun field hmem => h field (List.mem_cons_of_mem _ hmem)
    exact ⟨by simp [Data.isSoundFields, Data.isSound, hsound],
      by simp [Data.depthOfFields, Data.depth, hdepth]⟩

/-- The contents are decoded in any order. -/
theorem ofContents?_of_perm (perm : fields.Perm s.contents) :
    ofContents? dialect s.kind (.record fields) = some s := by
  have distinct : (fields.map (·.1)).Nodup :=
    (perm.map (·.1)).nodup_iff.2 (List.nodup_cons.1 s.nodup_names).2
  cases s with
  | component project name =>
    obtain ⟨f, hf, hfinds⟩ := Fields.exists_of_record dialect ["project", "component"] rfl distinct
    have hproject := Lawful.string.required (hfinds "project" (.string project)
      (perm.mem_iff.2 (by simp [contents])))
    have hname := Lawful.string.required (hfinds "component" (.string name)
      (perm.mem_iff.2 (by simp [contents])))
    simp [ofContents?, kind, hf, hproject, hname]
  | all project =>
    obtain ⟨f, hf, hfinds⟩ := Fields.exists_of_record dialect ["project"] rfl distinct
    have hproject := Lawful.string.required (hfinds "project" (.string project)
      (perm.mem_iff.2 (by simp [contents])))
    simp [ofContents?, kind, hf, hproject]
  | auto project =>
    obtain ⟨f, hf, hfinds⟩ := Fields.exists_of_record dialect ["project"] rfl distinct
    have hproject := Lawful.string.required (hfinds "project" (.string project)
      (perm.mem_iff.2 (by simp [contents])))
    simp [ofContents?, kind, hf, hproject]

/-- A specification is decoded wherever its tag stands. -/
theorem ofData?_of_perm (perm : fields.Perm ((tag, .string s.kind) :: s.contents)) :
    ofData? dialect (.record fields) = some s := by
  have hne : ∀ field ∈ s.contents, field.1 ≠ tag := by
    intro field hmem heq
    exact (List.nodup_cons.1 s.nodup_names).1 (heq ▸ List.mem_map_of_mem hmem)
  -- Looking for the tag finds it and nothing else, and leaves all of the contents.
  have hnone : s.contents.filter (·.1 = tag) = [] := List.filter_eq_nil_iff.2 (by simpa using hne)
  have hall : s.contents.filter (·.1 ≠ tag) = s.contents :=
    List.filter_eq_self.2 (by simpa using hne)
  have htag : fields.filter (·.1 = tag) = [(tag, .string s.kind)] := by
    have hperm := perm.filter (·.1 = tag)
    rw [List.filter_cons_of_pos (by simp), hnone] at hperm
    exact List.perm_singleton.1 hperm
  have hcontents : (fields.filter (·.1 ≠ tag)).Perm s.contents := by
    have hperm := perm.filter (·.1 ≠ tag)
    rwa [List.filter_cons_of_neg (by simp), hall] at hperm
  obtain ⟨hsound, hdepth⟩ := sound_of_strings dialect fun field (hmem : field ∈ fields) =>
    s.exists_string_of_mem field (perm.mem_iff.1 hmem)
  rw [ofData?, if_pos]
  · simp only [htag]
    exact ofContents?_of_perm hcontents
  · simp [Data.isSound, Data.depth, hsound, hdepth, maxDepth]

theorem hasText_of_perm (perm : fields.Perm ((tag, .string s.kind) :: s.contents)) :
    Json.HasText (.record fields) := by
  refine .record fun field hmem => ?_
  obtain ⟨text, htext⟩ := s.exists_string_of_mem field (perm.mem_iff.1 hmem)
  exact htext ▸ .string text

theorem lawful (dialect : Dialect) : Lawful toData (ofData? dialect) := by
  refine ⟨fun s => ?_, fun s => ?_⟩
  · rw [toData_eq]
    exact hasText_of_perm (.refl _)
  · rw [toData_eq]
    exact ofData?_of_perm (.refl _)

/-- The tag and the contents are all found, in any order. -/
theorem find?_of_perm {name : String} {d : Data}
    (perm : fields.Perm ((tag, .string s.kind) :: s.contents))
    (mem : (name, d) ∈ (tag, .string s.kind) :: s.contents) :
    (Fields.named fields).find? name = some d := by
  have distinct : (fields.map (·.1)).Nodup := (perm.map Prod.fst).nodup_iff.2 s.nodup_names
  exact Fields.find?_named distinct (perm.mem_iff.2 mem)

end TargetSpec

/-- **What is encoded survives as JSON text.** Every target, unit, project, result, progress and
diagnostic is decoded again from its text and from the bytes of that, and no two of them have the
same text; a diagnostic has one if its file is a text. A target specification is its tag beside its
contents. The tag is no name among theirs, so that whatever the order of the fields, it hides none
of them and the same specification is decoded. -/
theorem encoded_values_survive :
    Survives TargetSpec.toData (TargetSpec.ofData? .json) ∧
    Survives BuildUnit.toData (BuildUnit.ofData? .json) ∧
    Survives ProjectDescription.toData (ProjectDescription.ofData? .json) ∧
    Survives BuildResult.toData (BuildResult.ofData? .json) ∧
    Survives Progress.toData (Progress.ofData? .json) ∧
    SurvivesIfEncoded Diagnostic.toData? (Diagnostic.ofData? .json) ∧
    (∀ d : Diagnostic, (∃ data, d.toData? = some data) ↔ d.file.IsText) ∧
    ∀ s : TargetSpec,
      s.toData = .record ((TargetSpec.tag, .string s.kind) :: s.contents) ∧
      (TargetSpec.tag :: s.contents.map (·.1)).Nodup ∧
      ∀ fields : List (String × Data),
        fields.Perm ((TargetSpec.tag, .string s.kind) :: s.contents) →
          (∀ name d, (name, d) ∈ (TargetSpec.tag, .string s.kind) :: s.contents →
            (Fields.named fields).find? name = some d) ∧
          (Json.parse? (Json.write (.record fields))).bind (TargetSpec.ofData? .json) = some s := by
  refine ⟨(TargetSpec.lawful .json).survives, (BuildUnit.lawful .json).survives,
    (ProjectDescription.lawful .json).survives, (BuildResult.lawful .json).survives,
    (Progress.lawful .json).survives, survivesIfEncoded (Diagnostic.lawful .json),
    Diagnostic.exists_toData?_iff, fun s => ?_⟩
  refine ⟨s.toData_eq, s.nodup_names, fun fields perm => ⟨fun name d => ?_, ?_⟩⟩
  · exact TargetSpec.find?_of_perm perm
  · rw [Json.parse?_write (TargetSpec.hasText_of_perm perm), Option.bind_some]
    exact TargetSpec.ofData?_of_perm perm

example : (Json.parse? "\x7b\"project\":\"a\\n\",\"type\":\"all\"\x7d".toList).bind
    (TargetSpec.ofData? .json) = some (.all "a\n") := by decide +kernel

end Buildwatch
