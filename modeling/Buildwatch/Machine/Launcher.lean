import Buildwatch.Machine.Clockwork
import Buildwatch.Session

/-!
# Launching programs on a machine

A machine is one host for sessions: a launched program runs to its end, or to the moment
at which it is cancelled, and what it has reported becomes the reads of its pipes. It is
there so that whole sessions can be run. What is proved about sessions is proved for every
host and rests on nothing that this one does.
-/

namespace Buildwatch.Machine

/-! ## The files of a machine -/

/-- The directories that every machine has, with their rights. -/
def standardDirectories : List (Place × Nat) :=
  [(["usr", "bin"], 0o755), (["usr", "sbin"], 0o755), (["usr", "lib"], 0o755), (["usr", "local", "bin"], 0o755),
    (["usr", "share"], 0o755), (["dev", "fd"], 0o755), (["etc"], 0o755), (["home"], 0o755), (["mnt"], 0o755),
    (["opt"], 0o755), (["proc"], 0o555), (["root"], 0o700), (["run"], 0o755), (["srv"], 0o755),
    (["tmp"], 0o1777), (["var", "tmp"], 0o1777)]

def standardLinks : List (Place × String) :=
  [(["bin"], "usr/bin"), (["lib"], "usr/lib"), (["sbin"], "usr/sbin")]

/-- The devices that every machine has. -/
def standardDevices : List (Place × Device) :=
  [(["dev", "null"], .null), (["dev", "zero"], .zero), (["dev", "full"], .full), (["dev", "random"], .random),
    (["dev", "urandom"], .random), (["dev", "tty"], .terminal), (["dev", "stdin"], .descriptor 0),
    (["dev", "stdout"], .descriptor 1), (["dev", "stderr"], .descriptor 2)] ++
    (List.range 10).map fun n => (["dev", "fd", toString n], .descriptor n)

def shellNames : List String := ["bash", "dash", "sh"]

def standardFiles : Files :=
  let install (mode : Nat) (content : Content) (files : Files) (p : Place) : Files := files.install p content mode
  let files := standardDirectories.foldl (fun files (p, mode) => install mode .directory files p) {}
  let files := standardLinks.foldl (fun files (p, target) => install 0o777 (.link target) files p) files
  let files := standardDevices.foldl (fun files (p, d) => install 0o666 (.device d) files p) files
  let files := Programs.all.foldl (fun files p =>
    install 0o755 (.program p.name) files (Programs.directory ++ [p.name])) files
  shellNames.foldl (fun files name => install 0o755 (.program "sh") files (Programs.directory ++ [name])) files

/-! ## Launching -/

/-- A machine that launches programs for a session. -/
structure Launcher where
  state : State
  /-- The directory that relative paths are seen from. -/
  home : Place := []
  /-- The environment that launched programs take over if they are given no other. -/
  environment : List (String × String) := []
  /-- When the launched programs are cancelled. -/
  deadline : Option Nat := none
  /-- The number of turns after which a program is given up. -/
  patience : Nat := 3000000

namespace Launcher

def fresh (m : State) : Nat × State := (m.counter + 1, { m with counter := m.counter + 1 })

/-- Whether a text holds the character that no argument may hold. -/
def holdsNul (s : String) : Bool := s.toList.contains '\x00'

def nulReason : String := "nul byte found in provided data"

/-- A program that was started: the number of its task, the pipe that is its input, and the
machine that it runs on. -/
structure Started where
  pid : Nat
  input : Nat
  state : State

/-- The task for a program, with the machine that has the open files it begins with. -/
def prepare (m : State) (directory : Place) (environment : List (String × String))
    (input : Option Raw) : Started × Task :=
  let (pid, m) := fresh m
  let (file₀, m) := fresh m
  let (file₁, m) := fresh m
  let (file₂, m) := fresh m
  let (pipe, m) := fresh m
  -- The pipe has no writer: what is in it is all that there is to be read.
  let channel₀ : Channel := if input.isSome then .pipeEnd pipe false else .device .null
  let text := input.getD []
  let m := { m with
    openFiles := [(file₀, { channel := channel₀ }), (file₁, { channel := .report pid .stdout }),
      (file₂, { channel := .report pid .stderr })] ++ m.openFiles
    pipes := if input.isSome then (pipe, text, text.length) :: m.pipes else m.pipes }
  ({ pid, input := pipe, state := m }, {
    pid, parent := launcher, group := pid, cwd := directory
    descriptors := [(0, file₀), (1, file₁), (2, file₂)]
    environment := environment.map fun (n, v) => (Raw.ofString n, Raw.ofString v)
    job := .say [] 0 })

/-- Starts a program. A file that is no program is left to the shell, if it may be. -/
def start (m : State) (home : Place) (options : SpawnOptions) (i : Invocation) (mayBeShell : Bool)
    (input : Option Raw) : Except IoError Started := do
  -- None of these texts can be handed to a program with that character in it.
  let given := i.program :: i.args ++ options.environment.flatMap fun (n, v) => [n, v]
  if options.directory.bytes.contains 0 || given.any holdsNul then .error ⟨.other, nulReason⟩
  else
    let place ← match m.files.find true home options.directory with
      | .ok (place, node) =>
        if node.isDirectory then .ok place else .error FileError.notDirectory.toIoError
      | .error e => .error e.toIoError
    let (started, t) := prepare m place options.environment input
    match Loading.load started.state t mayBeShell (SearchPath.ofEnvironment t.environment)
        (Raw.ofString i.program) ((i.program :: i.args).map Raw.ofString) with
    | .ok t => .ok { started with state := { started.state with tasks := started.state.tasks ++ [t] } }
    | .error e => .error e.toIoError

def reportsOf (m : State) (launch : Nat) (origin : Origin) : List Report :=
  (m.reports.filter fun r => r.launch = launch && r.origin = origin).reverse

def readsOf (m : State) (launch : Nat) (origin : Origin) : List (Read IoError) :=
  chunkedReads ((reportsOf m launch origin).map fun r => .data (Raw.toBytes r.text))

/-- The child that a launched task was. -/
def childOf (m : State) (launch : Nat) : Child where
  stdout := some (readsOf m launch .stdout)
  stderr := some (readsOf m launch .stderr)
  exit := { ending := .exited ((m.ending? launch).getD (.signal 9)) }

def launch (options : SpawnOptions) (i : Invocation) (l : Launcher) :
    Except IoError Child × Launcher :=
  match start l.state l.home options i (!i.program.toList.contains '/') none with
  | .error e => (.error e, l)
  | .ok started =>
    let m := started.state.run started.pid l.patience l.deadline
    (.ok (childOf m started.pid), { l with state := m })

instance : Host Launcher where
  launch := launch
  -- Every child has both pipes, so none is given up.
  kill _ l := l

/-- Whether the launcher was interrupted by one of its programs. -/
def isInterrupted (l : Launcher) : Bool := l.state.interrupted.isSome

/-! ## Moments -/

/-- The blocks that a reader hands out, with the number of reads after which each does. -/
def blockTurns : (fuel : Nat) → (total : Nat) → Reader IoError → List (Text × Option Nat)
  | 0, _, _ => []
  | fuel + 1, total, r =>
    match r.poll with
    | (.item text, next) =>
      -- A block is complete with the last read that was needed for it.
      let turn := match next with
        | .reading source .. => some (total - source.length)
        | .ending .. => none
      (text, turn) :: blockTurns fuel total next
    | (.ended, _) | (.failed _, _) => []
    | (.pending, next) => blockTurns fuel total next

/-- The moments at which the blocks of a pipe were complete. -/
def blockMoments (m : State) (launch : Nat) (origin : Origin) : List (Text × Nat) :=
  let reports := reportsOf m launch origin
  let times := (reports.map (·.time)).toArray
  let reads : List (Read IoError) := reports.map fun r => .data (Raw.toBytes r.text)
  let closing := ((m.closed.find? fun (l, o, _) => l = launch && o = origin).map (·.2.2)).getD m.clock
  let size := Raw.total (reports.map (·.text.length))
  (blockTurns (2 * size + reads.length + 10) reads.length (.ofReads .fresh reads)).map fun (text, turn) =>
    (text, match turn with
      | some n => (times[n - 1]?).getD closing
      | none => closing)

/-- The first moment at which a block with a text was complete. -/
def momentOf? (l : Launcher) (text : Text) : Option Nat :=
  let launches := (l.state.reports.map (·.launch) ++ l.state.closed.map (·.1)).eraseDups
  let moments := launches.flatMap fun n =>
    (blockMoments l.state n .stdout ++ blockMoments l.state n .stderr).filterMap fun (t, moment) =>
      if t = text then some moment else none
  moments.min?

/-- The launcher with less patience, for looking ahead at what is cancelled later. -/
def lookingAhead (l : Launcher) : Launcher := { l with patience := 200000 }

/-- The launcher that cancels at the moment at which another one, on the same machine, has
seen a block with a text. -/
def cancelledAfter (l seen : Launcher) (text : Text) : Launcher :=
  { l with deadline := (seen.momentOf? text).map (· + State.signalDelay) }

end Launcher

end Buildwatch.Machine
