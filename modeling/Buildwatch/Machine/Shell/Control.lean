import Buildwatch.Machine.Loading
import Buildwatch.Machine.Shell.Grammar

/-!
# The control of the shell

What the commands of the shell are carried out with: its reports, the frames of its stack,
its children and jobs, the expansion of words, and redirections.
-/

namespace Buildwatch.Machine.Shell

open Act

/-! ## The state of the shell -/

/-- The shell whose turn it is. -/
def get : Act Shell := do
  match (← self).job with
  | .shell s => return s
  | _ => stop

def update (f : Shell → Shell) : Act Unit := do become (.shell (f (← get)))

def onScope (f : Scope → Scope) : Act Unit := update fun s => { s with scope := f s.scope }

def setStatus (status : Nat) : Act Unit := onScope fun s => { s with status }

def push (f : Frame) : Act Unit := update fun s => { s with frames := f :: s.frames }

/-- The status that a command leaves in the shell. -/
def statusNumber : ExitStatus → Nat
  | .code n => n.toInt.toNat
  | .signal n => 128 + n

/-! ## Reports -/

def reportStart (s : Shell) : Raw :=
  s.scope.name ++ Raw.ascii ": " ++ Raw.ofNat s.line ++ Raw.ascii ": "

def complain (reason : Raw) : Act Unit := do
  let s ← get
  let title := if s.title = [] then [] else s.title ++ Raw.ascii ": "
  discard <| write 2 (reportStart s ++ title ++ reason ++ ['\n'])

/-- Reports something that went wrong in a built-in command. -/
def complainOf (command : String) (reason : Raw) : Act Unit := do
  discard <| write 2 (reportStart (← get) ++ Raw.ascii command ++ Raw.ascii ": " ++ reason ++ ['\n'])

/-! ## Variables and open files that are put aside -/

/-- The name under which the options are put aside. -/
def optionsName : Raw := ['-']

def restored (s : Scope) (name : Raw) (old : Option Variable) : Scope :=
  match old with
  | some v => if name = optionsName then { s with options := v.value.getD [] } else s.update name fun _ => v
  | none => { s with bindings := s.bindings.filter (·.1 ≠ name) }

def restoreVariables (saved : List (Raw × Option Variable)) : Act Unit :=
  onScope fun s => saved.foldl (fun s (name, old) => restored s name old) s

def restoreFiles (saved : List (Nat × Option Nat)) : Act Unit := do
  for (n, old) in saved do
    match old with
    -- The old file was kept under a number that the script does not use.
    | some hidden =>
      match (← self).descriptors.lookup hidden with
      | some file =>
        bind n file
        onSelf fun t => { t with descriptors := t.descriptors.filter (·.1 ≠ hidden) }
      | none => pure ()
    | none => onSelf fun t => { t with descriptors := t.descriptors.filter (·.1 ≠ n) }
  forgetUnused

def undo (f : Frame) : Act Unit := do
  match f with
  | .restore saved => restoreFiles saved
  | .bindings saved => restoreVariables saved
  | .leave arguments progress locals =>
    restoreVariables locals
    onScope fun s => { s with arguments }
    update fun s => { s with progress }
  | .title r .. => update fun s => { s with title := r }
  | _ => pure ()

/-- Takes frames off the stack up to one that is asked for, undoing what they keep; the
answer is the frame. -/
def unwind (isTarget : Frame → Bool) : (fuel : Nat) → Act (Option Frame)
  | 0 => return none
  | fuel + 1 => do
    match (← get).frames with
    | [] => return none
    | f :: frames =>
      update fun s => { s with frames }
      undo f
      if isTarget f then return some f else unwind isTarget fuel

/-- Ends the shell with a status, after leaving all that it is in; variables that were put
aside are not given back. -/
def leave (status : Nat) : Act Unit := do
  for f in (← get).frames do
    match f with
    | .restore saved => restoreFiles saved
    | .leave arguments .. => onScope fun s => { s with arguments }
    | _ => pure ()
  update fun s => { s with frames := [], title := [] }
  setStatus status

def isGuarded : Frame → Bool
  | .title _ _ guarded => guarded
  | _ => false

/-- Gives up what the shell is doing after a mistake; this ends it unless it is in a script that
is guarded. -/
def giveUp : Act Unit := do
  let frames := (← get).frames
  if frames.any isGuarded then
    discard <| unwind isGuarded (frames.length + 1)
    setStatus 2
  else leave 2

def fail {α : Type} (reason : Raw) : Act α := do
  complain reason
  giveUp
  stop

/-! ## Loops -/

def isLoop : Frame → Bool
  | .test .. | .again .. | .each .. => true
  | _ => false

def isFunctionEnd : Frame → Bool
  | .leave .. => true
  | _ => false

/-- The number of loops that this shell is carrying out in the function at hand. -/
def ownLoops (s : Shell) : Nat := ((s.frames.takeWhile fun f => !isFunctionEnd f).filter isLoop).length

/-- The number of loops around the command at hand, those of the shells around this one
included. -/
def loopDepth (s : Shell) : Nat := ownLoops s + if s.frames.any isFunctionEnd then 0 else s.outerLoops

def leaveLoops (goesOn : Bool) : (loops : Nat) → Act Unit
  | 0 => return
  | n + 1 => do
    match ← unwind isLoop ((← get).frames.length + 1) with
    | some f =>
      if n = 0 then
        if goesOn then
          match f with
          -- The test is made again in any case; the values of a walk are those left.
          | .test u t b _ => push (.again u t b)
          | f => push f
      else leaveLoops goesOn n
    | none => return

/-! ## Children -/

/-- The shell as a child begins with it. -/
def childShell (s : Shell) (c : Command) : Shell :=
  { s with
    frames := [.run c true []]
    outerLoops := loopDepth s
    backgrounds := []
    -- A child keeps signals ignored, but none of the actions for them.
    traps := s.traps.filter fun (_, action) => action = [] }

def forkCommand (c : Command) : Act Nat := do fork (.shell (childShell (← get) c))

/-- Whether a failure of the topmost frame ends a shell that ends with failures. -/
def failureCounts (frames : List Frame) : Bool :=
  frames.all fun
    | .both .. | .either .. | .negate | .branch .. | .test .. => false
    | _ => true

/-- Makes a child whose failures count for no more than those of the shell itself. -/
def forkPart (c : Command) : Act Nat := do
  let s ← get
  let options := if failureCounts s.frames then s.scope.options else s.scope.options.filter (· ≠ 'e')
  fork (.shell (childShell { s with scope := { s.scope with options } } c))

/-- Makes the children of a pipeline, each reading what the one before it writes. -/
def startPipeline (input : Option Nat) : List Command → Act (List Nat)
  | [] => return []
  | c :: cs => do
    -- The last command writes to where the pipeline itself writes.
    let ends ← if cs.isEmpty then pure none else do
      let ends ← newPipe
      pure (some ends)
    let pid ← forkPart c
    onChild pid fun t =>
      let ds := t.descriptors
      let ds := match input with
        | some file => (0, file) :: ds.filter (·.1 ≠ 0)
        | none => ds
      let ds := match ends with
        | some (_, writing) => (1, writing) :: ds.filter (·.1 ≠ 1)
        | none => ds
      { t with descriptors := ds }
    return pid :: (← startPipeline (ends.map (·.1)) cs)

/-! ## Jobs -/

def refreshJobs : Act Unit := do
  let tasks := (← machine).tasks
  let ended? (pid : Nat) : Option ExitStatus :=
    match tasks.find? (·.pid = pid) with
    | some t => t.ended?
    | none => some (.code 0)
  let isOver (b : Background) : Bool := b.status.isNone && b.pids.all fun pid => (ended? pid).isSome
  let finished := (← get).backgrounds.filter isOver
  let noted (b : Background) : Background :=
    if isOver b then { b with status := b.pids.getLast?.bind ended? } else b
  update fun s => { s with backgrounds := s.backgrounds.map noted }
  -- The tasks of a job are forgotten; its status stays with the shell.
  let gone := finished.flatMap (·.pids)
  if !gone.isEmpty then onMachine fun m => { m with tasks := m.tasks.filter fun t => !gone.contains t.pid }

/-- A number for a job. A job that has ended and was waited for gives up its own. -/
def claimNumber : Act Nat := do
  refreshJobs
  let bs := (← get).backgrounds
  let isFree (n : Nat) : Bool :=
    match bs.find? (·.number = n) with
    | some b => b.status.isSome && b.isWaited
    | none => true
  let n := (((List.range (bs.length + 1)).map (· + 1)).find? isFree).getD (bs.length + 1)
  update fun s => { s with backgrounds := s.backgrounds.filter (·.number ≠ n) }
  return n

def startBackground (c : Command) : Act Unit := do
  let number ← claimNumber
  let pids ← match c with
    | .pipeline cs => startPipeline none cs
    | c => do
      let pid ← forkCommand c
      pure [pid]
  let null ← newFile { channel := .device .null }
  match pids with
  | first :: _ =>
    onChild first fun t => { t with descriptors := (0, null) :: t.descriptors.filter (·.1 ≠ 0) }
  | [] => pure ()
  -- An interruption of the shell is not one of what it left running.
  for pid in pids do onChild pid fun t => { t with ignored := [2, 3] ++ t.ignored }
  update fun s => { s with backgrounds := { number, pids } :: s.backgrounds }
  onScope fun s => { s with lastBackground := pids.getLast?, status := 0 }

/-! ## Expanding -/

/-- Lets a child give its output for the frame below. -/
def gatherOutput (c : Command) : Act Unit := do
  let (reading, writing) ← newPipe
  let pid ← forkCommand c
  onChild pid fun t => { t with descriptors := (1, writing) :: t.descriptors.filter (·.1 ≠ 1) }
  let d ← unusedDescriptor 10
  bind d reading
  -- The writing end belongs to the child alone.
  forgetUnused
  push (.gather pid d [])

/-- Expands words for a command that was just taken off the stack. When the output of an
inner command is missing, the command goes back and waits for it. -/
def expand {α : Type} (again : List (Raw × Nat) → Frame) (outputs : List (Raw × Nat))
    (e : Expand α) : Act α := do
  let s ← get
  match e.run { scope := s.scope, outputs } with
  | .ok (a, x) =>
    update fun s => { s with scope := { x.scope with status := s.scope.status } }
    return a
  | .error (.fail reason) => fail reason
  | .error (.need c) =>
    -- The command is to come back behind the child that gives its output.
    push (again outputs)
    gatherOutput c
    stop

/-! ## Redirections -/

inductive Opening
  | file (number : Nat) (direction : Direction) (name : Raw)
  | text (number : Nat) (r : Raw)

def Opening.number : Opening → Nat
  | .file n .. | .text n _ => n

def expandRedirection : Redirection → Expand Opening
  | .file number direction w => do return .file number direction (← expandText w)
  | .here number w => do return .text number (← expandText w)

/-- The reason given for a file that cannot be opened. -/
def openReason (direction : Direction) (name : Raw) (e : FileError) : Raw :=
  let isMissing := e = .notFound || e = .notDirectory
  match direction with
  | .input =>
    Raw.ascii "cannot open " ++ name ++ Raw.ascii ": " ++
      Raw.ascii (if isMissing then "No such file" else e.text)
  | _ =>
    Raw.ascii "cannot create " ++ name ++ Raw.ascii ": " ++
      Raw.ascii (if isMissing then "Directory nonexistent" else e.text)

def openOne : Opening → Act (Except Raw Unit)
  | .text number r => do
    bind number (← newText r)
    return .ok ()
  | .file number .duplicate name => do
    match name with
    | ['-'] =>
      close number
      return .ok ()
    | [c] =>
      if !Raw.isDigit c then fail (Raw.ascii "Syntax error: Bad fd number")
      match (← self).descriptors.lookup (Raw.digitValue c) with
      | some file =>
        bind number file
        return .ok ()
      | none => return .error (name ++ Raw.ascii ": Bad file descriptor")
    | _ => fail (Raw.ascii "Syntax error: Bad fd number")
  | .file number direction name => do
    let isKept := direction = .output && (← get).scope.options.contains 'C' &&
      (← machine).files.isFile (← self).cwd (Raw.toText name)
    if isKept then return .error (openReason direction name .exists)
    match ← openPath (Raw.toText name) direction with
    | .ok file =>
      bind number file
      return .ok ()
    | .error e => return .error (openReason direction name e)

/-- Opens files for a command. What they replace is put aside, if it is to come back. -/
def openAll (keepsOld : Bool) : List Opening → List (Nat × Option Nat) →
    Act (Except Raw Unit × List (Nat × Option Nat))
  | [], saved => return (.ok (), saved)
  | o :: os, saved => do
    let number := o.number
    let saved ← if !keepsOld || saved.any (·.1 = number) then pure saved else
      match (← self).descriptors.lookup number with
      | none => pure ((number, none) :: saved)
      | some file =>
        let hidden ← unusedDescriptor 10
        bind hidden file
        pure ((number, some hidden) :: saved)
    match ← openOne o with
    | .error reason => return (.error reason, saved)
    | .ok () => openAll keepsOld os saved

end Buildwatch.Machine.Shell
