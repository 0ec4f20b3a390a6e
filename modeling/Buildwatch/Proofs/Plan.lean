import Mathlib.Data.List.Forall2
import Buildwatch.Plan
import Buildwatch.Proofs.Machine.Walk

/-!
# What is planned

The steps that are expected of a builder, told apart from the way they are put together: what
the tools are asked for, in which words and in which order, and when hpack goes first. The plan
of a builder is the only one that is as expected.
-/

namespace Buildwatch

/-! ## Configured arguments -/

/-- The arguments that are meant for a command and for no other one. -/
inductive ToolArguments.IsFor (a : ToolArguments) : BuildCommand → List String → Prop
  | build : IsFor a .build a.build
  | test : IsFor a .test a.test
  | bench : IsFor a .bench a.bench
  | clean : IsFor a .clean a.clean

/-- The arguments with others for one command. -/
def ToolArguments.configure (a : ToolArguments) (args : List String) : BuildCommand → ToolArguments
  | .build => { a with build := args }
  | .test => { a with test := args }
  | .bench => { a with bench := args }
  | .clean => { a with clean := args }

/-- The configuration with other arguments for one command, whatever the tool. -/
def BuildConfig.configure (c : BuildConfig) (args : List String) (command : BuildCommand) :
    BuildConfig :=
  { c with
    cabal := { c.cabal with arguments := c.cabal.arguments.configure args command }
    stack := { c.stack with arguments := c.stack.arguments.configure args command } }

section

variable {a : ToolArguments} {args : List String} {command other : BuildCommand}

theorem ToolArguments.isFor_iff : a.IsFor command args ↔ args = a.forCommand command := by
  constructor
  · rintro (_ | _ | _ | _) <;> rfl
  · rintro rfl
    cases command <;> constructor

@[simp]
theorem ToolArguments.global_configure : (a.configure args command).global = a.global := by
  cases command <;> rfl

/-- What is configured for one command is not for another. -/
theorem ToolArguments.forCommand_configure_of_ne (h : other ≠ command) :
    (a.configure args other).forCommand command = a.forCommand command := by
  cases other <;> cases command <;> first | rfl | exact absurd rfl h

end

namespace Plan

open Machine (Files Place)

variable {files : Files} {home : Place} {config : BuildConfig} {command : BuildCommand}
  {target : TargetSelection} {root : Path} {qualifiers : List String}

/-! ## Qualifiers -/

/-- What stack calls a component. -/
inductive StackCalls : String → String → Prop
  | library (rest : String) : StackCalls ("lib:" ++ rest) "lib"
  | other {component : String} (h : ∀ rest, component ≠ "lib:" ++ rest) :
      StackCalls component component

/-- Whether a target is asked for by these qualifiers, where components have these names. -/
inductive Narrows (calls : String → String → Prop) : TargetSelection → List String → Prop
  | all {project : String} {units : List BuildUnit} {qualifiers : List String}
      (h : List.Forall₂ (fun unit qualifier =>
        ∃ name, calls unit.target name ∧ qualifier = project ++ ":" ++ name) units qualifiers) :
      Narrows calls (.all project units) qualifiers
  | component {project component name : String} (h : calls component name) :
      Narrows calls (.component project component) [project ++ ":" ++ name]
  | auto {project : String} : Narrows calls (.auto project) []

/-- The qualifiers of cabal: only a build is narrowed to the target. -/
inductive CabalQualifies : BuildCommand → TargetSelection → List String → Prop
  | build {target : TargetSelection} {qualifiers : List String} (h : Narrows Eq target qualifiers) :
      CabalQualifies .build target qualifiers
  | other {command : BuildCommand} {target : TargetSelection} (h : command ≠ .build) :
      CabalQualifies command target []

/-- The qualifiers of stack: all other commands are narrowed to the project. -/
inductive StackQualifies : BuildCommand → TargetSelection → List String → Prop
  | build {target : TargetSelection} {qualifiers : List String}
      (h : Narrows StackCalls target qualifiers) : StackQualifies .build target qualifiers
  | all {command : BuildCommand} {project : String} {units : List BuildUnit}
      (h : command ≠ .build) : StackQualifies command (.all project units) [project]
  | component {command : BuildCommand} {project component : String} (h : command ≠ .build) :
      StackQualifies command (.component project component) [project]
  | auto {command : BuildCommand} {project : String} (h : command ≠ .build) :
      StackQualifies command (.auto project) []

/-- Where every component has one name, there is one way to ask for a target. -/
theorem narrows_iff {calls : String → String → Prop} {name : String → String}
    (hcalls : ∀ component called, calls component called ↔ called = name component) :
    Narrows calls target qualifiers ↔ qualifiers =
      match target with
      | .all project units => units.map fun unit => qualify project (name unit.target)
      | .component project component => [qualify project (name component)]
      | .auto _ => [] := by
  -- The relation of a unit and its qualifier is a function, and so is that of the lists.
  have hunits (project : String) (units : List BuildUnit) :
      List.Forall₂ (fun unit qualifier =>
          ∃ called, calls unit.target called ∧ qualifier = project ++ ":" ++ called)
        units qualifiers ↔
      qualifiers = units.map fun unit => qualify project (name unit.target) := by
    rw [eq_comm, ← List.forall₂_eq_eq_eq, List.forall₂_map_left_iff]
    simp only [hcalls, exists_eq_left, qualify, eq_comm]
  constructor
  · rintro (h | h | _)
    · exact (hunits _ _).1 h
    · exact congrArg (fun called => [qualify _ called]) ((hcalls _ _).1 h)
    · rfl
  · intro h
    cases target with
    | all project units => exact .all ((hunits _ _).2 h)
    | component project component => exact h ▸ .component ((hcalls _ _).2 rfl)
    | auto project => exact h ▸ .auto

theorem stackCalls_iff (component called : String) :
    StackCalls component called ↔ called =
      if libraryPrefix.toList.isPrefixOf component.toList then libraryTarget else component := by
  have hbegins : libraryPrefix.toList.isPrefixOf component.toList = true ↔
      ∃ rest, component = "lib:" ++ rest := by
    rw [List.isPrefixOf_iff_prefix]
    constructor
    · rintro ⟨rest, h⟩
      exact ⟨String.ofList rest, String.ext (by simpa [libraryPrefix] using h.symm)⟩
    · rintro ⟨rest, rfl⟩
      simp [libraryPrefix]
  constructor
  · rintro (rest | h)
    · rw [if_pos (hbegins.2 ⟨rest, rfl⟩), libraryTarget]
    · rw [if_neg fun hp => (hbegins.1 hp).elim h]
  · rintro rfl
    split
    · next hp =>
      obtain ⟨rest, rfl⟩ := hbegins.1 hp
      exact .library rest
    · next hp => exact .other fun rest h => hp (hbegins.2 ⟨rest, h⟩)

theorem narrows_eq_iff : Narrows Eq target qualifiers ↔ qualifiers = cabalTargets target := by
  have hcalls : ∀ component called : String, component = called ↔ called = id component :=
    fun _ _ => eq_comm
  rw [narrows_iff hcalls]
  cases target <;> rfl

theorem narrows_stackCalls_iff :
    Narrows StackCalls target qualifiers ↔ qualifiers = stackUnits target := by
  rw [narrows_iff stackCalls_iff]
  cases target <;> rfl

theorem cabalQualifies_iff :
    CabalQualifies command target qualifiers ↔
      qualifiers = if command = .build then cabalTargets target else [] := by
  constructor
  · rintro (h | h)
    · rw [if_pos rfl, ← narrows_eq_iff]
      exact h
    · rw [if_neg h]
  · rintro rfl
    split
    · next hbuild => exact hbuild ▸ .build (narrows_eq_iff.2 rfl)
    · next hother => exact .other hother

theorem stackQualifies_iff :
    StackQualifies command target qualifiers ↔ qualifiers = stackTargets command target := by
  constructor
  · rintro (h | h | h | h)
    · exact narrows_stackCalls_iff.1 h
    all_goals
      unfold stackTargets
      split
      · exact absurd rfl h
      all_goals rfl
  · rintro rfl
    -- Only the target matters for the commands other than a build.
    by_cases hbuild : command = .build
    · exact hbuild ▸ .build (narrows_stackCalls_iff.2 rfl)
    · have hprojects : stackTargets command target = stackProjects target := by
        unfold stackTargets
        split
        · exact absurd rfl hbuild
        all_goals rfl
      rw [hprojects]
      cases target with
      | all project units => exact .all hbuild
      | component project component => exact .component hbuild
      | auto project => exact .auto hbuild

/-! ## Flags -/

/-- The flags of stack: it neither runs tests nor benchmarks for a build, and no benchmarks for
tests and no tests for benchmarks. -/
inductive StackFlags : BuildCommand → List String → Prop
  | build : StackFlags .build ["--no-run-tests", "--no-run-benchmarks"]
  | test : StackFlags .test ["--no-run-benchmarks"]
  | bench : StackFlags .bench ["--no-run-tests"]
  | clean : StackFlags .clean []

theorem stackFlags_iff {flags : List String} :
    StackFlags command flags ↔ flags = stackFlags command := by
  constructor
  · rintro (_ | _ | _ | _) <;> rfl
  · rintro rfl
    cases command <;> constructor

/-! ## Plans -/

/-- Whether the project at a root has a manifest of hpack: a regular file, or links that lead to
one. -/
def HasManifest (files : Files) (home : Place) (root : Path) : Prop :=
  ∃ place node, files.LeadsTo home (Path.join root "package.yaml") place ∧
    files.node? place = some node ∧ node.isFile = true

/-- What goes before cabal: hpack without arguments if it is wanted and has a manifest. -/
inductive Prepares (files : Files) (home : Place) (config : CabalConfig) (root : Path) :
    List Step → Prop
  | hpack (wanted : config.runHpack = true) (present : HasManifest files home root) :
      Prepares files home config root [⟨.prepare, ⟨config.hpackProgram, []⟩⟩]
  | unwanted (h : config.runHpack = false) : Prepares files home config root []
  | absent (h : ¬ HasManifest files home root) : Prepares files home config root []

/-- The plan that is expected of a builder. The arguments of a tool come in one order: those for
all commands, the verb, the qualifiers, those for this command, and the flags. -/
inductive IsPlan (files : Files) (home : Place) (config : BuildConfig) (command : BuildCommand)
    (target : TargetSelection) (root : Path) : Builder → List Step → Prop
  | none : IsPlan files home config command target root .none []
  | cabal {prepare : List Step} {qualifiers own : List String}
      (hprepare : Prepares files home config.cabal root prepare)
      (hqualifiers : CabalQualifies command target qualifiers)
      (hown : config.cabal.arguments.IsFor command own) :
      IsPlan files home config command target root .cabalV2
        (prepare ++ [⟨.main, config.cabal.program,
          config.cabal.arguments.global ++ ["v2-" ++ command.verb] ++ qualifiers ++ own⟩])
  | stack {qualifiers own flags : List String}
      (hqualifiers : StackQualifies command target qualifiers)
      (hown : config.stack.arguments.IsFor command own) (hflags : StackFlags command flags) :
      IsPlan files home config command target root .stack
        [⟨.main, config.stack.program,
          config.stack.arguments.global ++ [command.verb] ++ qualifiers ++ own ++ flags⟩]

theorem prepares_iff {prepare : List Step} :
    Prepares files home config.cabal root prepare ↔
      prepare =
        if config.cabal.runHpack && files.isFile home (Path.join root hpackManifest) then
          [⟨.prepare, ⟨config.cabal.hpackProgram, []⟩⟩]
        else [] := by
  have hboth : (config.cabal.runHpack && files.isFile home (Path.join root hpackManifest)) = true ↔
      config.cabal.runHpack = true ∧ HasManifest files home root := by
    rw [Bool.and_eq_true, Files.isFile_eq_true_iff]
    rfl
  constructor
  · rintro (⟨wanted, present⟩ | h | h)
    · rw [if_pos (hboth.2 ⟨wanted, present⟩)]
    · rw [if_neg fun hgo => Bool.false_ne_true (h.symm.trans (hboth.1 hgo).1)]
    · rw [if_neg fun hgo => h (hboth.1 hgo).2]
  · rintro rfl
    split
    · next hgo => exact .hpack (hboth.1 hgo).1 (hboth.1 hgo).2
    · next hnot =>
      rcases Decidable.not_and_iff_not_or_not.1 (mt hboth.2 hnot) with hwanted | habsent
      · exact .unwanted (Bool.eq_false_iff.2 hwanted)
      · exact .absent habsent

/-- The steps of cabal are what it has to prepare and the main step. -/
theorem cabalSteps_eq {hasHpackManifest : Bool} :
    cabalSteps config.cabal command target hasHpackManifest =
      (if config.cabal.runHpack && hasHpackManifest then
          [⟨.prepare, ⟨config.cabal.hpackProgram, []⟩⟩]
        else []) ++ [⟨.main, cabalInvocation config.cabal command target⟩] := by
  unfold cabalSteps
  split <;> rfl

theorem isPlan_iff {builder : Builder} {plan : List Step} :
    IsPlan files home config command target root builder plan ↔
      plan = steps builder config command target root (files.isFile home) := by
  constructor
  · rintro (_ | ⟨hprepare, hqualifiers, hown⟩ | ⟨hqualifiers, hown, hflags⟩)
    · rfl
    · rw [prepares_iff.1 hprepare, cabalQualifies_iff.1 hqualifiers, ToolArguments.isFor_iff.1 hown]
      exact cabalSteps_eq.symm
    · rw [stackQualifies_iff.1 hqualifiers, ToolArguments.isFor_iff.1 hown, stackFlags_iff.1 hflags]
      rfl
  · rintro rfl
    cases builder with
    | none => exact .none
    | cabalV2 =>
      rw [steps, cabalSteps_eq]
      exact .cabal (prepares_iff.2 rfl) (cabalQualifies_iff.2 rfl) (ToolArguments.isFor_iff.2 rfl)
    | stack =>
      exact .stack (stackQualifies_iff.2 rfl) (ToolArguments.isFor_iff.2 rfl) (stackFlags_iff.2 rfl)

/-- An expected plan ends with its only main step. -/
theorem IsPlan.ends {builder : Builder} {plan : List Step}
    (h : IsPlan files home config command target root builder plan) :
    builder = .none ∨ ∃ front main, plan = front ++ [main] ∧ main.kind = .main ∧
      ∀ step ∈ front, step.kind = .prepare := by
  cases h with
  | none => exact .inl rfl
  | cabal hprepare =>
    refine .inr ⟨_, _, rfl, rfl, ?_⟩
    cases hprepare <;> simp
  | stack => exact .inr ⟨[], _, rfl, rfl, by simp⟩

/-- What is configured for another command does not matter. -/
theorem steps_configure {builder : Builder} {args : List String} {other : BuildCommand}
    {isFile : Path → Bool} (h : other ≠ command) :
    steps builder (config.configure args other) command target root isFile =
      steps builder config command target root isFile := by
  cases builder with
  | cabalV2 =>
    simp [steps, cabalSteps, cabalInvocation, BuildConfig.configure,
      ToolArguments.forCommand_configure_of_ne h]
  | stack =>
    simp [steps, stackInvocation, BuildConfig.configure, ToolArguments.forCommand_configure_of_ne h]
  | none => rfl

/-- The steps of a builder are the plan that is expected of it and no other one is. They end with
their only main step, if there are any, and do not depend on what is configured for the other
commands. -/
theorem isPlan_steps (files : Files) (home : Place) (builder : Builder) (config : BuildConfig)
    (command : BuildCommand) (target : TargetSelection) (root : Path) :
    (∀ plan, steps builder config command target root (files.isFile home) = plan ↔
      IsPlan files home config command target root builder plan) ∧
    (builder = .none ∨ ∃ front main,
      steps builder config command target root (files.isFile home) = front ++ [main] ∧
        main.kind = .main ∧ ∀ step ∈ front, step.kind = .prepare) ∧
    (∀ args other, other ≠ command →
      steps builder (config.configure args other) command target root (files.isFile home) =
        steps builder config command target root (files.isFile home)) :=
  ⟨fun _ => eq_comm.trans isPlan_iff.symm, (isPlan_iff.2 rfl).ends, fun _ _ h => steps_configure h⟩

example :
    steps .stack { stack := { arguments := { build := ["--fast"] } } } .build
        (.component "demo" "lib:demo") "/demo" (fun _ => true) =
      [⟨.main, "stack",
        ["build", "demo:lib", "--fast", "--no-run-tests", "--no-run-benchmarks"]⟩] := by
  decide

end Plan

end Buildwatch
