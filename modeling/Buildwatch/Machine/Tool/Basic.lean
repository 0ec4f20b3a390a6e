import Buildwatch.Machine.Task
import Buildwatch.Machine.Tool.Options
import Buildwatch.Machine.Tool.Quoting

/-!
# Tools

The programs of the machine are written as tools: parts of programs that are put together
one after the other. A tool knows how it was called, and it keeps back what it says until
there is enough of it or something is reported. Tools are the surroundings of a run: they
decide what a launched program writes and how it ends, and nothing else.
-/

namespace Buildwatch.Machine

/-! ## Parts of programs -/

/-- A part of a program: the requests that it makes, given what follows for its answer. -/
def Program (α : Type) : Type := (α → Job) → Job

instance : Monad Program where
  pure a := fun next => next a
  bind p f := fun next => p fun a => f a next

/-! ## Tools -/

structure Self where
  /-- The name that it was called by. -/
  label : Raw
  args : List Raw
  /-- The status with which it reports that it cannot do its work. -/
  trouble : Nat

/-- What a tool has said and not yet written. -/
structure Output where
  /-- The pieces, latest first. -/
  pieces : List Raw := []
  size : Nat := 0
  /-- Why nothing can be written any more. -/
  failure : Option FileError := none

/-- A part of a tool. -/
abbrev Tool := ReaderT Self (StateT Output Program)

namespace Tool

def perform {α : Type} (request : (α → Job) → Job) : Tool α := fun _ out next =>
  request fun a => next (a, out)

/-- What can be seen at this moment. -/
def view : Tool View := perform fun next => .change (·.files) next

/-- Looks around and leaves other files behind. -/
def edit {α : Type} (f : View → α × Files) : Tool α :=
  perform fun next => .change (fun v => (f v).2) fun v => next (f v).1

/-! ## Writing -/

def writeTo (descriptor : Nat) (r : Raw) : Tool (Option FileError) :=
  perform fun next => .write descriptor r next

def flush : Tool Unit := do
  let o ← get
  if o.size ≠ 0 then
    set { o with pieces := [], size := 0 }
    -- After a failure the rest is dropped, and the failure is told at the end.
    if o.failure.isNone then
      let failure ← writeTo 1 o.pieces.reverse.flatten
      modify fun o => { o with failure }

/-- How much is kept back before it is written. -/
def bufferSize : Nat := 4096

def say (r : Raw) : Tool Unit := do
  modify fun o => { o with pieces := r :: o.pieces, size := o.size + r.length }
  if bufferSize ≤ (← get).size then flush

def sayLine (r : Raw) : Tool Unit := say (r ++ ['\n'])

/-- Reports something without naming the tool. -/
def report (r : Raw) : Tool Unit := do
  flush
  discard <| writeTo 2 r

def warn (r : Raw) : Tool Unit := do
  report ((← read).label ++ Raw.ascii ": " ++ r ++ ['\n'])

/-- Ends with a status; output that cannot be written is reported. -/
def exit {α : Type} (status : Nat) : Tool α := do
  flush
  match (← get).failure with
  | some e =>
    let label := (← read).label
    discard <| writeTo 2 (label ++ Raw.ascii ": write error: " ++ Raw.ascii e.text ++ ['\n'])
    let trouble := (← read).trouble
    perform fun _ => .exit trouble
  | none => perform fun _ => .exit status

def fail {α : Type} (r : Raw) : Tool α := do
  warn r
  exit (← read).trouble

def tryHelp : Tool Unit := do
  report (Raw.ascii "Try '" ++ (← read).label ++ Raw.ascii " --help' for more information.\n")

/-- Reports a call that makes no sense, and ends. -/
def misuse {α : Type} (r : Raw) : Tool α := do
  warn r
  tryHelp
  exit (← read).trouble

/-! ## Options -/

/-- The call that the arguments make. What makes no sense ends the tool, and so does `check`
for an option with a value that makes none. -/
def callChecking (o : Options) (args : List Raw) (check : String → Raw → Tool Unit) : Tool Call := do
  let c := o.call args
  -- Options are looked at from left to right; the first that ends the tool does so.
  for (key, value) in c.options do
    if key = "help" || key = "version" then exit 0
    check key (value.getD [])
  match c.mistake with
  | some reason => misuse reason
  | none => return c

def call (o : Options) : Tool Call := do
  callChecking o (← read).args fun _ _ => pure ()

/-! ## Reading -/

/-- More turns than any run of a machine has. -/
def manyTurns : Nat := Nat.pow 2 60

def take (descriptor limit : Nat) : Tool (Except FileError Raw) :=
  perform fun next => .read descriptor limit next

/-- Does something with each piece that a descriptor gives, up to its end; the answer is
what went wrong. -/
def forPieces (descriptor limit : Nat) (f : Raw → Tool Unit) : Tool (Option FileError) :=
  go manyTurns
where
  go : Nat → Tool (Option FileError)
    | 0 => return none
    | turns + 1 => do
      match ← take descriptor limit with
      | .error e => return some e
      | .ok [] => return none
      | .ok r =>
        f r
        go turns

def takeAll (descriptor : Nat) : Tool (Except FileError Raw) := go manyTurns []
where
  go : Nat → List Raw → Tool (Except FileError Raw)
    | 0, pieces => return .ok pieces.reverse.flatten
    | turns + 1, pieces => do
      match ← take descriptor 65536 with
      | .error e => return .error e
      | .ok [] => return .ok pieces.reverse.flatten
      | .ok r => go turns (r :: pieces)

def openFile (path : Raw) (direction : Direction) : Tool (Except FileError Nat) :=
  perform fun next => .open path direction next

def close (descriptor : Nat) : Tool Unit := perform fun next => .close descriptor (next ())

def isStandard (name : Raw) : Bool := name = ['-']

/-- Opens what a name stands for, to read from it. -/
def openInput (name : Raw) : Tool (Except FileError Nat) :=
  if isStandard name then return .ok 0 else openFile name .input

def closeInput (descriptor : Nat) : Tool Unit := if descriptor = 0 then pure () else close descriptor

def contentOf (name : Raw) : Tool (Except FileError Raw) := do
  match ← openInput name with
  | .error e => return .error e
  | .ok d =>
    let content ← takeAll d
    closeInput d
    return content

/-- A complaint such as `cat: x: No such file or directory`. -/
def warnOf (name : Raw) (e : FileError) : Tool Unit :=
  warn (name ++ Raw.ascii ": " ++ Raw.ascii e.text)

/-- Does something with each of the inputs behind names, or with the standard input if there
are none. An input that cannot be opened or read is reported; the answer is whether all went
well. -/
def forInputs (names : List Raw) (complain : Raw → FileError → Tool Unit)
    (f : Raw → Nat → Tool (Option FileError)) : Tool Bool := do
  let mut isWhole := true
  for name in if names.isEmpty then [['-']] else names do
    match ← openInput name with
    | .error e =>
      complain name e
      isWhole := false
    | .ok d =>
      match ← f name d with
      | none => pure ()
      | some e =>
        complain name e
        isWhole := false
      closeInput d
  return isWhole

/-! ## Other programs -/

def launch (argv : List Raw) (descriptors : List (Nat × Nat)) : Tool (Except FileError Nat) := do
  flush
  perform fun next => .launch { argv, descriptors } next

/-- Becomes another program; the answer tells why that fails. -/
def become (argv : List Raw) : Tool FileError := do
  flush
  perform fun next => .become argv next

/-- Changes what programs take over from the tool. -/
def adjust (f : Traits → Traits) : Tool Unit := perform fun next => .adjust f (next ())

/-- Sends a signal; the answer tells whether there is somebody who gets it. -/
def signal (number : Nat) (pid : Int) : Tool Bool := perform fun next => .signal number pid next

def sleepUntil (wake : Nat) : Tool Unit := do
  flush
  perform fun next => .sleep wake (next ())

/-- The status for a program that cannot be started. -/
def startStatus (e : FileError) : Nat := if e = .notFound then 127 else 126

def await (pid : Nat) (deadline : Option Nat) : Tool (Option ExitStatus) :=
  perform fun next => .await pid deadline next

def pipe : Tool (Nat × Nat) := perform fun next => .pipe next

def outputOf (argv : List Raw) : Tool (Raw × Option ExitStatus) := do
  let (reading, writing) ← pipe
  match ← launch argv [(1, writing)] with
  | .error _ =>
    close reading
    close writing
    return ([], none)
  | .ok pid =>
    close writing
    let output ← takeAll reading
    close reading
    return (output.toOption.getD [], ← await pid none)

def outputOfLine (line : Raw) : Tool (Raw × Option ExitStatus) :=
  outputOf [Raw.ascii "sh", Raw.ascii "-c", line]

/-! ## Whole tools -/

def statusOf (isGood : Bool) : Nat := if isGood then 0 else 1

def job (self : Self) (t : Tool Nat) : Job :=
  -- A tool that comes to its end writes what is left to be said.
  (t >>= exit (α := Nat)) self {} fun _ => .exit 0

end Tool

end Buildwatch.Machine
