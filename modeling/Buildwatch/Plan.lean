import Buildwatch.Config.Basic
import Buildwatch.Path
import Buildwatch.Target.Basic

/-!
# Plans

The steps that a builder takes for a command. The arguments of a tool come in a
fixed order: those for all commands, the verb, the targets, those for this command,
and last the flags that the command always has.
-/

namespace Buildwatch.Plan

/-! ## Cabal -/

/-- The file whose presence asks for a run of hpack. -/
def hpackManifest : String := "package.yaml"

def verbPrefix : String := "v2-"

def qualify (project component : String) : String := project ++ ":" ++ component

def cabalTargets : TargetSelection → List String
  | .all project units => units.map fun unit => qualify project unit.target
  | .component project component => [qualify project component]
  | .auto _ => []

def cabalInvocation (config : CabalConfig) (command : BuildCommand) (target : TargetSelection) :
    Invocation where
  program := config.program
  args :=
    config.arguments.global ++ [verbPrefix ++ command.verb] ++
      -- Cabal tests, benches and cleans the whole project, whatever the target.
      (if command = .build then cabalTargets target else []) ++
      config.arguments.forCommand command

/-- The steps of cabal: hpack goes first if it is wanted and has a manifest. -/
def cabalSteps (config : CabalConfig) (command : BuildCommand) (target : TargetSelection)
    (hasHpackManifest : Bool) : List Step :=
  let main : Step := ⟨.main, cabalInvocation config command target⟩
  if config.runHpack && hasHpackManifest then [⟨.prepare, ⟨config.hpackProgram, []⟩⟩, main]
  else [main]

/-! ## Stack -/

def libraryPrefix : String := "lib:"

/-- What stack calls the library of a project. -/
def libraryTarget : String := "lib"

def noRunTests : String := "--no-run-tests"

def noRunBenchmarks : String := "--no-run-benchmarks"

/-- A component as stack names it: a project has one library, which needs no name. -/
def stackQualify (project component : String) : String :=
  qualify project
    -- The name of the library is dropped, also where it is not the one of the project.
    (if libraryPrefix.toList.isPrefixOf component.toList then libraryTarget else component)

def stackUnits : TargetSelection → List String
  | .all project units => units.map fun unit => stackQualify project unit.target
  | .component project component => [stackQualify project component]
  | .auto _ => []

/-- The targets that stack is given for every other command. -/
def stackProjects : TargetSelection → List String
  | .all project _ | .component project _ => [project]
  | .auto _ => []

def stackTargets (command : BuildCommand) (target : TargetSelection) : List String :=
  match command with
  | .build => stackUnits target
  | .test | .bench | .clean => stackProjects target

/-- The flags that keep stack from doing more than it is asked for. -/
def stackFlags : BuildCommand → List String
  | .build => [noRunTests, noRunBenchmarks]
  | .test => [noRunBenchmarks]
  | .bench => [noRunTests]
  | .clean => []

def stackInvocation (config : StackConfig) (command : BuildCommand) (target : TargetSelection) :
    Invocation where
  program := config.program
  args :=
    config.arguments.global ++ [command.verb] ++ stackTargets command target ++
      config.arguments.forCommand command ++ stackFlags command

/-! ## Any builder -/

/-- The steps of a builder for a command in the project at `root`; `isFile` tells
which paths are regular files. -/
def steps (builder : Builder) (config : BuildConfig) (command : BuildCommand)
    (target : TargetSelection) (root : Path) (isFile : Path → Bool) : List Step :=
  match builder with
  | .cabalV2 => cabalSteps config.cabal command target (isFile (Path.join root hpackManifest))
  | .stack => [⟨.main, stackInvocation config.stack command target⟩]
  | .none => []

end Buildwatch.Plan
