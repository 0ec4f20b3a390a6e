import Buildwatch.CommandLine.Arguments
import Buildwatch.Display
import Buildwatch.Plan
import Buildwatch.Session
import Buildwatch.Target.External

/-!
# The command line

From arguments to a build: the configuration is loaded, the target resolved, the steps
are planned and shown, and the session is driven to its end while its events are
printed. The exit status tells the outcome.
-/

namespace Buildwatch.CommandLine

variable {ω : Type} [Workspace ω]

/-! ## Driving a session -/

def exitStatus : Outcome → Nat
  | .success => 0
  | .sourceErrors | .toolFailure _ => 1
  | .interrupted => 130

/-- After each event the session is cancelled if the user asks for it. -/
def heed (_ : BuildEvent) (s : Session ω) : Session ω :=
  if Workspace.isInterrupted s.host then s.cancel else s

theorem rank_heed (e : BuildEvent) (s : Session ω) : Session.rank (heed e s) = Session.rank s := by
  unfold heed
  split
  · exact Session.rank_cancel s
  · rfl

/-- Takes all events of a session and then its result; the first failure ends both. -/
def drive (s : Session ω) : List BuildEvent × Except RunError BuildResult × Session ω :=
  match Source.drainWith heed rank_heed s with
  | (events, some e, s) => (events, .error e, s)
  | (events, none, s) =>
    let (result, s) := s.finish
    (events, result, s)

/-! ## Building -/

/-- What the program prints, and how it ends. -/
structure Transcript where
  lines : List String := []
  error : Option String := none
  status : Nat
  deriving DecidableEq, Repr

/-- The transcript of a build that fails before it can start. -/
def Transcript.failed (message : String) : Transcript := { error := some message, status := 1 }

structure Job where
  root : Path
  builder : Builder
  config : BuildConfig
  target : TargetSelection

/-- The configuration that is used for the project at `root`. -/
def configFor (environment : List (String × String)) (o : Options) (root : Path) (w : ω) :
    Except ConfigError BuildConfig :=
  let paths := match o.config with
    | some path => [path]
    | none => ConfigFile.searchPaths root fun name => List.lookup name environment
  ConfigFile.load (Workspace.look w) paths

/-- Finds out what is to be built, or gives the message of the error that prevents it. -/
def prepare (environment : List (String × String)) (o : Options) (w : ω) : Except String Job × ω :=
  -- A directory that is not there is no error yet: whoever looks for files in it fails.
  let root := (Workspace.canonical? w o.directory).getD o.directory
  match configFor environment o root w with
  | .error e => (.error e.message, w)
  | .ok config =>
    let builder := (o.builder.or config.builder).getD .cabalV2
    let file := o.file.map fun file => (Workspace.canonical? w file).getD file
    let parser : ManifestParser ω := ExternalParser.parser config.manifest.command
    match resolveTarget parser root file (Workspace.manifest w root) w o.target with
    | (.error e, w) => (.error e.message, w)
    | (.ok target, w) => (.ok { root, builder, config, target }, w)

/-- The session for a job. -/
def Job.session (environment : List (String × String)) (command : BuildCommand) (token : Token)
    (j : Job) (w : ω) : Session ω where
  steps := Plan.steps j.builder j.config command j.target j.root (Workspace.isFile w)
  options := { directory := j.root, environment }
  token
  host := w

/-- Builds, with a text that stands for the time in what is printed. -/
def build (time : String) (environment : List (String × String)) (token : Token) (o : Options)
    (w : ω) : Transcript × ω :=
  match prepare environment o w with
  | (.error message, w) => (.failed message, w)
  | (.ok job, w) =>
    let session := job.session environment o.command token w
    -- All steps are shown before the first one is launched.
    let planned := session.steps.map fun step => Display.invocationLine time step.invocation
    let (events, result, session) := drive session
    let lines := planned ++ events.flatMap (Display.eventLines time)
    match result with
    | .error e => ({ lines, error := some e.message, status := 1 }, session.host)
    | .ok result =>
      ({ lines := lines ++ [Display.outcomeLine time result.outcome]
         status := exitStatus result.outcome }, session.host)

/-! ## The whole program -/

def versionLine : String := programName ++ " " ++ version

def run (time : String) (environment : List (String × String)) (token : Token)
    (args : List String) (w : ω) : Transcript × ω :=
  match Request.ofArguments args with
  | .build o => build time environment token o w
  | .showVersion => ({ lines := [versionLine], status := 0 }, w)
  | .showHelp => ({ status := 0 }, w)
  | .misused => ({ status := 2 }, w)

end Buildwatch.CommandLine
