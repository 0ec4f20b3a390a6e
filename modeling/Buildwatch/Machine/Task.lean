import Buildwatch.Machine.Files
import Buildwatch.Machine.Shell.Expansion
import Buildwatch.Run.Event
import Buildwatch.Run.Process

/-!
# Tasks

A task is a running program: its open files, its directory, and what it has still to
do. The shell keeps a stack of what comes next; the other programs are trees of requests
to the machine, each with what follows for every answer.
-/

namespace Buildwatch.Machine

/-! ## The shell -/

/-- How far arguments have been read as options: the number of the next one, and how many of
its letters have been taken. -/
structure OptionProgress where
  index : Nat := 1
  letters : Option Nat := none

inductive Frame
  /-- Carry out a command; the last one of a shell takes its place. The outputs of inner
  commands that are known so far are kept with it. -/
  | run (c : Command) (isLast : Bool) (outputs : List (Raw × Nat))
  /-- Read the output of a child for the frame below; the pieces are latest first. -/
  | gather (pid descriptor : Nat) (pieces : List Raw)
  /-- Wait for children; the last one gives the status. -/
  | await (pids : List Nat)
  | both (c : Command) (isLast : Bool)
  | either (c : Command) (isLast : Bool)
  | negate
  | branch (consequence : Command) (alternative : Option Command) (isLast : Bool)
  | test (isUntil : Bool) (test body : Command) (status : Nat)
  | again (isUntil : Bool) (test body : Command)
  | each (name : Raw) (values : List Raw) (body : Command)
  /-- Give back the open files that were put aside. -/
  | restore (saved : List (Nat × Option Nat))
  /-- Give back the variables that were put aside. -/
  | bindings (saved : List (Raw × Option Variable))
  /-- The end of a function: give back the arguments, and how far they were read. -/
  | leave (arguments : List Raw) (progress : OptionProgress) (locals : List (Raw × Option Variable))
  /-- Go on with a script. -/
  | script (s : Script) (isLast : Bool)
  /-- The end of the action for a signal: give back the status. -/
  | settle (status : Nat)
  /-- The end of a script within the script: give back the name under which its commands are
  reported. The script of a file is one that can be returned from; mistakes in a script that is
  guarded do not end the shell. -/
  | title (r : Raw) (isFile isGuarded : Bool)
  /-- Wait for the jobs that are named; the last one that is known gives the status. -/
  | wait (jobs : List Raw) (status : Nat)
  /-- Wait for all jobs. -/
  | waitForAll

/-- A command of a shell that is not waited for. -/
structure Background where
  number : Nat
  /-- The tasks of its pipeline; the last one gives the status. -/
  pids : List Nat
  status : Option ExitStatus := none
  /-- Whether its status has been asked for. -/
  isWaited : Bool := false

structure Shell where
  scope : Scope
  frames : List Frame
  functions : List (Raw × Command) := []
  /-- The actions for signals; number zero stands for the end of the shell. -/
  traps : List (Nat × Raw) := []
  /-- The signals that do nothing from the start on. -/
  ignoredAtStart : List Nat := []
  aliases : List (Raw × Raw) := []
  /-- The commands that are not waited for, latest first. -/
  backgrounds : List Background := []
  /-- Programs whose paths are known, with the search path that they were found on. -/
  known : List (Raw × Raw × Raw) := []
  /-- The command that reads the script at hand, if it is named in reports. -/
  title : Raw := []
  /-- The line of the command at hand. -/
  line : Nat := 1
  progress : OptionProgress := {}
  /-- The loops around the command that the shell was made for. -/
  outerLoops : Nat := 0
  /-- The limits that were set, by their letters. -/
  limits : List (Char × Nat) := []

/-! ## Programs -/

/-- What a task keeps when it takes up another program. -/
structure Traits where
  cwd : Place
  environment : List (Raw × Raw)
  /-- The tasks that a signal to all of them reaches. -/
  group : Nat
  /-- The rights that new files are not given. -/
  umask : Nat := 0o022
  /-- The signals that do nothing. -/
  ignored : List Nat := []
  /-- How far the task lets others go first. -/
  niceness : Int := 0

/-- Where an open file leads. -/
inductive Channel
  | device (d : Device)
  /-- The node with a number. -/
  | file (number : Nat)
  | directory (number : Nat)
  | pipeEnd (pipe : Nat) (isInput : Bool)
  /-- The pipe to the one who launched the task with this number. -/
  | report (launch : Nat) (origin : Origin)
  deriving DecidableEq

/-- What a program can see. -/
structure View extends Traits where
  files : Files
  /-- The time since the machine was started, in microseconds. -/
  clock : Nat
  /-- The time of the day. -/
  now : Int
  pid : Nat
  parent : Nat
  /-- Where the open files of the program lead. -/
  channels : List (Nat × Channel) := []

/-- How a program is started: its arguments, and which open files it is given. -/
structure Launch where
  argv : List Raw
  /-- Numbers of open files with those of the starting program that they stand for; the others
  are the same. -/
  descriptors : List (Nat × Nat) := []
  /-- Whether the program begins a group of its own. -/
  isLeader : Bool := false

inductive Job
  | shell (s : Shell)
  | exit (status : Nat)
  | write (descriptor : Nat) (r : Raw) (next : Option FileError → Job)
  /-- Reads at most `limit` bytes; none are there at the end. -/
  | read (descriptor limit : Nat) (next : Except FileError Raw → Job)
  /-- Gives back the last bytes that were read, where that is possible. -/
  | unread (descriptor count : Nat) (next : Job)
  | open (path : Raw) (direction : Direction) (next : Except FileError Nat → Job)
  | close (descriptor : Nat) (next : Job)
  /-- Makes a pipe; the answer is the two numbers for reading and writing. -/
  | pipe (next : Nat × Nat → Job)
  /-- Looks around, and leaves other files behind. -/
  | change (f : View → Files) (next : View → Job)
  | adjust (f : Traits → Traits) (next : Job)
  | launch (l : Launch) (next : Except FileError Nat → Job)
  /-- Becomes another program, unless that fails. -/
  | become (argv : List Raw) (next : FileError → Job)
  /-- Waits for a child, up to a moment. -/
  | await (pid : Nat) (deadline : Option Nat) (next : Option ExitStatus → Job)
  | signal (number : Nat) (pid : Int) (next : Bool → Job)
  | sleep (wake : Nat) (next : Job)
  | ended (status : ExitStatus)

namespace Job

/-- Says something on descriptors and ends. -/
def say : List (Nat × Raw) → (status : Nat) → Job
  | [], status => .exit status
  | (n, r) :: writes, status =>
    -- What cannot be written shows in the status, but the rest is said all the same.
    .write n r fun e => say writes (if e.isSome then max 1 status else status)

end Job

structure Task extends Traits where
  pid : Nat
  parent : Nat
  /-- The open files by their numbers. -/
  descriptors : List (Nat × Nat)
  /-- Signals that have arrived and are still to be acted upon. -/
  pending : List Nat := []
  job : Job

def Task.ended? (t : Task) : Option ExitStatus :=
  match t.job with
  | .ended status => some status
  | _ => none

/-! ## The machine -/

structure OpenFile where
  channel : Channel
  position : Nat := 0
  appends : Bool := false

/-- Something that was written for the one who launched the task. -/
structure Report where
  launch : Nat
  origin : Origin
  time : Nat
  text : Raw

structure State where
  files : Files
  clock : Nat := 0
  /-- The last number that was given to a task, an open file or a pipe. -/
  counter : Nat := 100
  tasks : List Task := []
  openFiles : List (Nat × OpenFile) := []
  /-- What is in the pipes, and how long it is. -/
  pipes : List (Nat × Raw × Nat) := []
  /-- How much was left in the pipes that nobody reads any more. -/
  leftovers : List (Nat × Nat) := []
  /-- The ends of pipes that somebody waits for. -/
  expected : List (Nat × Bool) := []
  /-- What was reported, latest first. -/
  reports : List Report := []
  /-- When the pipes of launched tasks were closed. -/
  closed : List (Nat × Origin × Nat) := []
  /-- When someone asked for the launcher to be interrupted. -/
  interrupted : Option Nat := none

def launcher : Nat := 100

/-- The time of the day when a machine is started, in microseconds. -/
def State.started : Int := 1700000000 * 1000000

def State.now (m : State) : Int := State.started + m.clock

/-- What a task can see. -/
def State.viewFor (m : State) (t : Task) : View where
  toTraits := t.toTraits
  files := m.files
  clock := m.clock
  now := m.now
  pid := t.pid
  parent := t.parent
  -- Descriptors that share an open file lead to the same place.
  channels := t.descriptors.filterMap fun (d, file) => (m.openFiles.lookup file).map fun f => (d, f.channel)

end Buildwatch.Machine
