import Buildwatch.Machine.Launcher
import Buildwatch.Workspace

/-!
# Machines as workspaces

A machine offers its own files, and runs its own programs. It is one workspace among those
that the command line may be run in.
-/

namespace Buildwatch.Machine.Launcher

/-! ## Files -/

/-- What a configuration file holds. -/
def look (l : Launcher) (path : Path) : ConfigFile.Found :=
  if l.state.files.isThere l.home path then
    match l.state.files.read l.home path with
    | .ok content => .bytes (Raw.toBytes content)
    | .error e => .unreadable e.message
  else .nothing

def read (l : Launcher) (path : Path) : Except IoError (List UInt8) :=
  match l.state.files.read l.home path with
  | .ok content => .ok (Raw.toBytes content)
  | .error e => .error e.toIoError

/-! ## Filters -/

/-- How much of an input a program has left in its pipe. -/
def leftOver (m : State) (pipe : Nat) : Nat :=
  match m.leftovers.lookup pipe with
  | some left => left
  | none => ((m.pipes.lookup pipe).map (·.2)).getD 0

def pageSize : Nat := 4096

/-- Whether all of an input has found room in the pipe of a program that has left some of it
there. -/
def isAccepted (total left : Nat) : Bool :=
  total ≤ Act.pipeCapacity + (total - left) / pageSize * pageSize

/-- Runs a program on an input. There is an output if the whole input was accepted and the
program ends with exit code zero. -/
def filter (i : Invocation) (input : List UInt8) (l : Launcher) : Option (List UInt8) × Launcher :=
  let options : SpawnOptions := { directory := l.home.path, environment := l.environment }
  match start l.state l.home options i false (some (Raw.ofBytes input)) with
  | .error _ => (none, l)
  | .ok started =>
    let m := started.state.run started.pid l.patience none
    let output := (reportsOf m started.pid .stdout).flatMap fun r => Raw.toBytes r.text
    let isGood := m.ending? started.pid = some (.code 0) &&
      isAccepted input.length (leftOver m started.input)
    (if isGood then some output else none, { l with state := m })

instance : Workspace Launcher where
  look := look
  canonical? l path := (l.state.files.canonical? l.home path).map Path.ofString
  isFile l path := l.state.files.isFile l.home path
  listing l path := l.state.files.listing l.home path
  read := read
  filter := filter
  isInterrupted := isInterrupted

end Buildwatch.Machine.Launcher
