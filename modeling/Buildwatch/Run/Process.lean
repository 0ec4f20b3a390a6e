import Buildwatch.Command.Basic
import Buildwatch.Output.Reader
import Buildwatch.Path

/-!
# Processes

What a launched process offers to those who supervise it: the reads of its two pipes, and its
exit. Launching is left to a host, and may fail.
-/

namespace Buildwatch

/-! ## The exit of a process -/

/-- How a process ended. -/
inductive ExitStatus
  | code (n : Int32)
  /-- Killed by a signal. -/
  | signal (number : Nat)
  deriving DecidableEq, Repr

/-- The exit code, if the process lived to give one. -/
def ExitStatus.code? : ExitStatus → Option Int32
  | .code n => some n
  | .signal _ => none

/-- What those who wait for a process learn of its end. -/
inductive Ending
  | exited (status : ExitStatus)
  /-- The status cannot be collected. -/
  | lost (e : IoError)
  /-- Nobody is left who waits for the process. -/
  | unwatched
  deriving DecidableEq, Repr

/-- The exit of a process: for how long it is still ahead, and how the process ends then. -/
structure Exit where
  delay : Nat := 0
  ending : Ending
  deriving DecidableEq, Repr

namespace Exit

/-- How the process has ended, if it has. -/
def ending? (x : Exit) : Option Ending := if x.delay = 0 then some x.ending else none

def tick (x : Exit) : Exit := { x with delay := x.delay - 1 }

end Exit

/-! ## Errors -/

/-- Why a program could not be launched. -/
inductive SpawnError
  | notFound (program : String)
  | permissionDenied (program : String)
  | system (program reason : String)
  deriving DecidableEq, Repr

namespace SpawnError

def ofIo (program : String) (e : IoError) : SpawnError :=
  match e.kind with
  | .notFound => .notFound program
  | .permissionDenied => .permissionDenied program
  | .interrupted | .other => .system program e.reason

def message : SpawnError → String
  | .notFound program => program ++ ": executable not found"
  | .permissionDenied program => program ++ ": permission denied"
  | .system program reason => program ++ ": " ++ reason

end SpawnError

/-- Why a run failed. -/
inductive RunError
  | spawn (e : SpawnError)
  | noStdout
  | noStderr
  | wait (e : IoError)
  | watcherGone
  deriving DecidableEq, Repr

def RunError.message : RunError → String
  | .spawn e => "Failed to launch build tool: " ++ e.message
  | .noStdout => "Process stdout not available"
  | .noStderr => "Process stderr not available"
  | .wait e => "Failed to wait for build tool: " ++ e.reason
  | .watcherGone => "Exit watcher stopped before the process exited"

/-! ## Launching -/

/-- What a launch gives; a pipe may be missing. -/
structure Child where
  stdout : Option (List (Read IoError))
  stderr : Option (List (Read IoError))
  exit : Exit

/-- A launched process as its supervisor sees it. -/
structure Process where
  stdout : List (Read IoError)
  stderr : List (Read IoError)
  exit : Exit

/-- Only a child with both pipes can be supervised. -/
def Process.ofChild (c : Child) : Except RunError Process :=
  match c.stdout, c.stderr with
  -- Both may be missing; the output is asked for first.
  | none, _ => .error .noStdout
  | some _, none => .error .noStderr
  | some stdout, some stderr => .ok { stdout, stderr, exit := c.exit }

structure SpawnOptions where
  directory : Path
  environment : List (String × String)
  deriving DecidableEq, Repr

/-- A host launches programs, which may change it. -/
class Host (ω : Type) where
  launch : SpawnOptions → Invocation → ω → Except IoError Child × ω
  /-- Kills a child that nobody is going to supervise. -/
  kill : Child → ω → ω

/-- Launches a program to supervise it. -/
def Host.spawn {ω : Type} [Host ω] (options : SpawnOptions) (i : Invocation) (host : ω) :
    Except RunError Process × ω :=
  match Host.launch options i host with
  | (.error e, host) => (.error (.spawn (.ofIo i.program e)), host)
  | (.ok child, host) =>
    match Process.ofChild child with
    -- The child runs already, and nobody would learn of its end.
    | .error e => (.error e, Host.kill child host)
    | .ok process => (.ok process, host)

end Buildwatch
