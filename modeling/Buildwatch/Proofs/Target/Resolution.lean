import Buildwatch.Proofs.Path
import Buildwatch.Proofs.Target.Manifest
import Buildwatch.Workspace

/-!
# How targets are resolved

What is selected for a specification, and what the parser of manifests is asked on the way. A
component is taken as it is. For everything else there must be a manifest; then a selection is
always made, at worst one that leaves the choice to the build tool.
-/

namespace Buildwatch

/-! ## Questions -/

/-- What a parser of manifests is asked. -/
inductive Question
  | describe (manifest : List UInt8)
  | unitsOf (manifest : List UInt8) (file : String)
  deriving DecidableEq, Repr

namespace ManifestParser

variable {σ : Type}

/-- The parser with a record of the questions beside its own state. -/
def recorded (parser : ManifestParser σ) : ManifestParser (List Question × σ) where
  describe manifest state :=
    let (answer, world) := parser.describe manifest state.2
    (answer, state.1 ++ [.describe manifest], world)
  unitsOf manifest file state :=
    let (answer, world) := parser.unitsOf manifest file state.2
    (answer, state.1 ++ [.unitsOf manifest file], world)

/-- What is selected for a specification, after which questions to the parser, and what becomes
of the parser. The manifest, or why there is none, is only told of where it is needed. -/
inductive Resolves (parser : ManifestParser σ) (root : Path) (activeFile : Option Path)
    (manifest : Except TargetError (List UInt8)) (world : σ) :
    TargetSpec → List Question → TargetSelection → σ → Prop
  | component {project component : String} :
      Resolves parser root activeFile manifest world (.component project component) []
        (.component project component) world
  /-- All units that the manifest tells of, under the name that it gives to the project. -/
  | all {project : String} {m : List UInt8} {description : ProjectDescription} {world' : σ}
      (read : manifest = .ok m) (described : parser.describe m world = (some description, world')) :
      Resolves parser root activeFile manifest world (.all project) [.describe m]
        (.all description.name description.targets) world'
  | allUnknown {project : String} {m : List UInt8} {world' : σ}
      (read : manifest = .ok m) (unknown : parser.describe m world = (none, world')) :
      Resolves parser root activeFile manifest world (.all project) [.describe m]
        (.auto project) world'
  /-- The first unit that the active file belongs to, if the file lies under the root. -/
  | active {project unit : String} {file : Path} {names : List Path} {units : List String}
      {m : List UInt8} {description : ProjectDescription} {world' world'' : σ}
      (read : manifest = .ok m) (given : activeFile = some file)
      (inside : Path.components file = Path.components root ++ names)
      (owned : parser.unitsOf m ("/".intercalate (names.map Path.display)) world =
        (unit :: units, world'))
      (described : parser.describe m world' = (some description, world'')) :
      Resolves parser root activeFile manifest world (.auto project)
        [.unitsOf m ("/".intercalate (names.map Path.display)), .describe m]
        (.component description.name unit) world''
  | activeUnknown {project unit : String} {file : Path} {names : List Path} {units : List String}
      {m : List UInt8} {world' world'' : σ}
      (read : manifest = .ok m) (given : activeFile = some file)
      (inside : Path.components file = Path.components root ++ names)
      (owned : parser.unitsOf m ("/".intercalate (names.map Path.display)) world =
        (unit :: units, world'))
      (unknown : parser.describe m world' = (none, world'')) :
      Resolves parser root activeFile manifest world (.auto project)
        [.unitsOf m ("/".intercalate (names.map Path.display)), .describe m] (.auto project) world''
  | activeUnowned {project : String} {file : Path} {names : List Path} {m : List UInt8} {world' : σ}
      (read : manifest = .ok m) (given : activeFile = some file)
      (inside : Path.components file = Path.components root ++ names)
      (unowned : parser.unitsOf m ("/".intercalate (names.map Path.display)) world = ([], world')) :
      Resolves parser root activeFile manifest world (.auto project)
        [.unitsOf m ("/".intercalate (names.map Path.display))] (.auto project) world'
  /-- There is no active file, or it lies elsewhere. -/
  | inactive {project : String} {m : List UInt8} (read : manifest = .ok m)
      (outside : ∀ file names, activeFile = some file →
        Path.components file ≠ Path.components root ++ names) :
      Resolves parser root activeFile manifest world (.auto project) [] (.auto project) world

/-! ## The selection -/

variable {parser : ManifestParser σ} {root : Path} {activeFile : Option Path}
  {manifest : Except TargetError (List UInt8)} {world world' : σ} {spec : TargetSpec}
  {asked : List Question} {selection : TargetSelection} {error : TargetError}

theorem activeFile_bind_eq_some_iff {relative : String} :
    activeFile.bind (Path.relativeTo? root) = some relative ↔
      ∃ file names, activeFile = some file ∧
        Path.components file = Path.components root ++ names ∧
        relative = "/".intercalate (names.map Path.display) := by
  simp only [Option.bind_eq_some_iff, Path.relativeTo?_eq_some_iff]
  constructor
  · rintro ⟨file, hfile, names, h⟩
    exact ⟨file, names, hfile, h⟩
  · rintro ⟨file, names, hfile, h⟩
    exact ⟨file, hfile, names, h⟩

theorem activeFile_bind_eq_none_iff :
    activeFile.bind (Path.relativeTo? root) = none ↔
      ∀ file names, activeFile = some file →
        Path.components file ≠ Path.components root ++ names := by
  rw [Option.eq_none_iff_forall_ne_some]
  simp only [ne_eq, activeFile_bind_eq_some_iff]
  constructor
  · rintro h file names hfile hnames
    exact h _ ⟨file, names, hfile, hnames, rfl⟩
  · rintro h relative ⟨file, names, hfile, hnames, -⟩
    exact h file names hfile hnames

/-- What is selected is what the parser with a record brings about. -/
theorem Resolves.eq_ok
    (h : parser.Resolves root activeFile manifest world spec asked selection world') :
    resolveTarget parser.recorded root activeFile manifest ([], world) spec =
      (.ok selection, asked, world') := by
  cases h with
  | component => rfl
  | all read described =>
    simp [read, resolveTarget, selectWith, selectAll, recorded, described]
  | allUnknown read unknown =>
    simp [read, resolveTarget, selectWith, selectAll, recorded, unknown]
  | active read given inside owned described =>
    have hfile := activeFile_bind_eq_some_iff.2 ⟨_, _, given, inside, rfl⟩
    simp [read, resolveTarget, selectWith, selectActive, hfile, recorded, owned, described]
  | activeUnknown read given inside owned unknown =>
    have hfile := activeFile_bind_eq_some_iff.2 ⟨_, _, given, inside, rfl⟩
    simp [read, resolveTarget, selectWith, selectActive, hfile, recorded, owned, unknown]
  | activeUnowned read given inside unowned =>
    have hfile := activeFile_bind_eq_some_iff.2 ⟨_, _, given, inside, rfl⟩
    simp [read, resolveTarget, selectWith, selectActive, hfile, recorded, unowned]
  | inactive read outside =>
    have hfile := activeFile_bind_eq_none_iff.2 outside
    simp [read, resolveTarget, selectWith, selectActive, hfile]

/-- With a manifest there is always a selection. -/
theorem exists_resolves {m : List UInt8} (read : manifest = .ok m) (spec : TargetSpec) :
    ∃ asked selection world',
      parser.Resolves root activeFile manifest world spec asked selection world' := by
  cases spec with
  | component project component => exact ⟨_, _, _, .component⟩
  | all project =>
    rcases hdescribe : parser.describe m world with ⟨_ | description, world'⟩
    · exact ⟨_, _, _, .allUnknown read hdescribe⟩
    · exact ⟨_, _, _, .all read hdescribe⟩
  | auto project =>
    cases hfile : activeFile.bind (Path.relativeTo? root) with
    | none => exact ⟨_, _, _, .inactive read (activeFile_bind_eq_none_iff.1 hfile)⟩
    | some relative =>
      obtain ⟨file, names, given, inside, rfl⟩ := activeFile_bind_eq_some_iff.1 hfile
      rcases hunits : parser.unitsOf m ("/".intercalate (names.map Path.display)) world with
        ⟨_ | ⟨unit, units⟩, world'⟩
      · exact ⟨_, _, _, .activeUnowned read given inside hunits⟩
      · rcases hdescribe : parser.describe m world' with ⟨_ | description, world''⟩
        · exact ⟨_, _, _, .activeUnknown read given inside hunits hdescribe⟩
        · exact ⟨_, _, _, .active read given inside hunits hdescribe⟩

/-- Without a manifest only a component can be selected, and nobody is asked. -/
theorem resolveTarget_eq_error_iff :
    resolveTarget parser root activeFile manifest world spec = (.error error, world') ↔
      manifest = .error error ∧ world' = world ∧
        ∀ project component, spec ≠ .component project component := by
  cases spec with
  | component project component => simp [resolveTarget]
  | all project | auto project =>
    cases manifest <;> simp [resolveTarget, selectWith, eq_comm (a := world)]

theorem resolveTarget_recorded_eq_ok_iff :
    resolveTarget parser.recorded root activeFile manifest ([], world) spec =
        (.ok selection, asked, world') ↔
      parser.Resolves root activeFile manifest world spec asked selection world' := by
  refine ⟨fun h => ?_, Resolves.eq_ok⟩
  have hresolves : ∃ asked selection world',
      parser.Resolves root activeFile manifest world spec asked selection world' := by
    cases manifest with
    | ok m => exact exists_resolves rfl spec
    | error e =>
      cases spec with
      | component project component => exact ⟨_, _, _, .component⟩
      | all project | auto project => cases h
  obtain ⟨asked', selection', world₁, hresolves⟩ := hresolves
  -- There is one result, so it is this one.
  have hsame := hresolves.eq_ok.symm.trans h
  cases hsame
  exact hresolves

/-- The record of the questions plays no part in the selection. -/
theorem resolveTarget_recorded (log : List Question) :
    resolveTarget parser root activeFile manifest world spec =
      let resolved := resolveTarget parser.recorded root activeFile manifest (log, world) spec
      (resolved.1, resolved.2.2) := by
  -- Both parsers give the same answers, so both sides go the same way.
  cases manifest with
  | error e => cases spec <;> rfl
  | ok m =>
    cases spec with
    | component project component => rfl
    | all project =>
      rcases hd : parser.describe m world with ⟨_ | description, world'⟩ <;>
        simp [resolveTarget, selectWith, selectAll, recorded, hd]
    | auto project =>
      simp only [resolveTarget, selectWith, selectActive]
      cases activeFile.bind (Path.relativeTo? root) with
      | none => rfl
      | some relative =>
        rcases hu : parser.unitsOf m relative world with ⟨_ | ⟨unit, units⟩, world'⟩
        · simp [recorded, hu]
        · rcases hd : parser.describe m world' with ⟨_ | description, world''⟩ <;>
            simp [recorded, hu, hd]

end ManifestParser

/-! ## The manifest of a project -/

namespace Workspace

variable {ω : Type} [Workspace ω] {w : ω} {root path : Path} {m : List UInt8}

theorem manifest_of_found (h : findManifest root (listing w root) = .ok path) :
    manifest w root = match read w path with
      | .ok m => .ok m
      | .error e => .error (.unreadableManifest path e) := by
  simp only [manifest, h, bind, Except.bind]
  cases read w path <;> rfl

theorem manifest_eq_ok_iff :
    manifest w root = .ok m ↔
      ∃ answers name, listing w root = .ok answers ∧ IsFirstManifest (listed answers) name ∧
        read w (Path.join root name) = .ok m := by
  have hread : manifest w root = .ok m ↔
      ∃ path, findManifest root (listing w root) = .ok path ∧ read w path = .ok m := by
    cases hfound : findManifest root (listing w root) with
    | error e => simp [manifest, hfound, bind, Except.bind]
    | ok path => cases hp : read w path <;> simp [manifest_of_found hfound, hp]
  rw [hread]
  simp only [findManifest_eq_ok_iff]
  constructor
  · rintro ⟨path, ⟨answers, name, hanswers, hfirst, rfl⟩, hm⟩
    exact ⟨answers, name, hanswers, hfirst, hm⟩
  · rintro ⟨answers, name, hanswers, hfirst, hm⟩
    exact ⟨_, ⟨answers, name, hanswers, hfirst, rfl⟩, hm⟩

/-- A manifest that is there but cannot be read is another failure. -/
theorem manifest_eq_noManifest_iff :
    manifest w root = .error (.noManifest root) ↔
      ∀ answers, listing w root = .ok answers → ∀ e ∈ listed answers, ¬ e.IsCabalFile := by
  have hmissing : manifest w root = .error (.noManifest root) ↔
      findManifest root (listing w root) = .error (.noManifest root) := by
    cases hfound : findManifest root (listing w root) with
    | error e => simp [manifest, hfound, bind, Except.bind]
    | ok path => cases hp : read w path <;> simp [manifest_of_found hfound, hp]
  rw [hmissing, findManifest_eq_error_iff, and_iff_right rfl]

end Workspace

/-- **How a target is resolved.** Whatever the directory holds, a component is taken as it is,
and no question is asked. All other specifications fail exactly if the manifest of the project
cannot be had, before the parser is asked anything, and for want of one exactly if no entry that
is listed of the root is one. With a manifest there is a selection, made by the questions that are
told. -/
theorem resolveTarget_resolves {ω σ : Type} [Workspace ω] (w : ω) (parser : ManifestParser σ)
    (root : Path) (activeFile : Option Path) (world : σ) (spec : TargetSpec) :
    let manifest := Workspace.manifest w root
    let resolved := resolveTarget parser.recorded root activeFile manifest ([], world) spec
    resolveTarget parser root activeFile manifest world spec = (resolved.1, resolved.2.2) ∧
    (∀ asked selection world', resolved = (.ok selection, asked, world') ↔
      parser.Resolves root activeFile manifest world spec asked selection world') ∧
    (∀ error asked world', resolved = (.error error, asked, world') ↔
      manifest = .error error ∧ (asked = [] ∧ world' = world) ∧
        ∀ project component, spec ≠ .component project component) ∧
    (manifest = .error (.noManifest root) ↔
      ∀ answers, Workspace.listing w root = .ok answers →
        ∀ e ∈ listed answers, ¬ e.IsCabalFile) ∧
    ∀ m, manifest = .ok m ↔
      ∃ answers name, Workspace.listing w root = .ok answers ∧
        IsFirstManifest (listed answers) name ∧
        Workspace.read w (Path.join root name) = .ok m := by
  refine ⟨ManifestParser.resolveTarget_recorded [],
    fun _ _ _ => ManifestParser.resolveTarget_recorded_eq_ok_iff, fun error asked world' => ?_,
    Workspace.manifest_eq_noManifest_iff, fun _ => Workspace.manifest_eq_ok_iff⟩
  rw [ManifestParser.resolveTarget_eq_error_iff, Prod.mk.injEq]

end Buildwatch
