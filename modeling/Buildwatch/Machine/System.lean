import Buildwatch.Machine.Signals
import Buildwatch.Machine.Task

/-!
# Services of the machine

What a task can ask for: reading and writing open files, opening and closing them,
sending signals, and making further tasks. A task that has to wait does nothing; it
asks again later.
-/

namespace Buildwatch.Machine

/-- The machine and the task whose turn it is. -/
structure Turn where
  machine : State
  self : Task

/-- A part of a turn. Without a result the task has to wait and nothing happens; a turn
that is broken off keeps what happened so far. -/
abbrev Act := ExceptT Unit (StateT Turn Option)

namespace Act

def wait {α : Type} : Act α := ExceptT.mk (fun _ => none)

def stop {α : Type} : Act α := throw ()

def machine : Act State := do return (← get).machine

def self : Act Task := do return (← get).self

def onMachine (f : State → State) : Act Unit := modify fun t => { t with machine := f t.machine }

def onSelf (f : Task → Task) : Act Unit := modify fun t => { t with self := f t.self }

def view : Act View := do return (← machine).viewFor (← self)

def become (job : Job) : Act Unit := onSelf fun t => { t with job }

/-- A number that was not given before. -/
def fresh : Act Nat := do
  let n := (← machine).counter + 1
  onMachine fun m => { m with counter := n }
  return n

/-! ## Open files -/

/-- Whether a task holds an open file. -/
def holds (t : Task) (file : Nat) : Bool := t.descriptors.any (·.2 = file)

/-- Forgets open files that nobody holds, and notes which pipes to the launcher ended and
what was left in other pipes. -/
def forgetUnused : Act Unit :=
  modify fun t =>
    let m := t.machine
    let tasks := t.self :: m.tasks
    let (used, unused) := m.openFiles.partition fun (n, _) => tasks.any (holds · n)
    -- A pipe to the launcher ends with the last open file that leads to it.
    let isEnded (c : Channel) : Bool := used.all (·.2.channel ≠ c)
    let closed := unused.filterMap fun (_, f) =>
      match f.channel with
      | .report launch origin =>
        if isEnded f.channel then some (launch, origin, m.clock) else none
      | _ => none
    let (pipes, ended) := m.pipes.partition fun (p, _) =>
      used.any fun (_, f) => f.channel = .pipeEnd p true || f.channel = .pipeEnd p false
    { t with machine := { m with
        openFiles := used
        pipes
        leftovers := ended.map (fun (p, _, left) => (p, left)) ++ m.leftovers
        closed := closed.eraseDups ++ m.closed } }

def openFile? (descriptor : Nat) : Act (Option (Nat × OpenFile)) := do
  match (← self).descriptors.lookup descriptor with
  | some n => return ((← machine).openFiles.lookup n).map (n, ·)
  | none => return none

/-- Gives a number to an open file. -/
def bind (descriptor file : Nat) : Act Unit :=
  onSelf fun t =>
    { t with descriptors := (descriptor, file) :: t.descriptors.filter (·.1 ≠ descriptor) }

def close (descriptor : Nat) : Act Unit := do
  onSelf fun t => { t with descriptors := t.descriptors.filter (·.1 ≠ descriptor) }
  forgetUnused

def newFile (f : OpenFile) : Act Nat := do
  let n ← fresh
  onMachine fun m => { m with openFiles := (n, f) :: m.openFiles }
  return n

def newPipe : Act (Nat × Nat) := do
  let p ← fresh
  onMachine fun m => { m with pipes := (p, [], 0) :: m.pipes }
  let reading ← newFile { channel := .pipeEnd p false }
  let writing ← newFile { channel := .pipeEnd p true }
  return (reading, writing)

/-- Makes an open file from which a text can be read. -/
def newText (r : Raw) : Act Nat := do
  let p ← fresh
  onMachine fun m => { m with pipes := (p, r, r.length) :: m.pipes }
  newFile { channel := .pipeEnd p false }

/-- The lowest number from `low` on that no open file has. -/
def unusedDescriptor (low : Nat) : Act Nat := do
  let ds := (← self).descriptors
  return low + ((List.range (ds.length + 1)).find? fun n => ds.all (·.1 ≠ low + n)).getD 0

/-- The pipe of a node that hands on what is written into it. -/
def pipeOfNode (number : Nat) : Nat := Nat.pow 2 40 + number

/-- Opens one end of the pipe of a node. Whoever comes first is to wait for the other end. -/
def openNodePipe (number : Nat) (isInput : Bool) : Act Nat := do
  let p := pipeOfNode number
  let m ← machine
  -- An end that was awaited is there now; the other one may still be to come.
  let isThere := m.openFiles.any fun (_, f) => f.channel = .pipeEnd p (!isInput)
  onMachine fun m =>
    { m with
      pipes := if m.pipes.any (·.1 = p) then m.pipes else (p, [], 0) :: m.pipes
      expected := (if isThere then [] else [(p, !isInput)]) ++ m.expected.filter (· ≠ (p, isInput)) }
  newFile { channel := .pipeEnd p isInput }

def openPath (path : String) (direction : Direction) : Act (Except FileError Nat) := do
  let m ← machine
  let t ← self
  let empties := direction = .output || direction = .replace
  match m.files.locate true t.cwd path with
  | .error e => return .error e
  | .ok (place, none) =>
    if direction = .input then return .error .notFound
    else if path.toList.getLast? = some '/' then return .error .isDirectory
    else
      let number := m.files.counter
      onMachine fun m =>
        { m with files := m.files.create place (.file []) (0o666 &&& (0o777 ^^^ t.umask)) m.now }
      return .ok (← newFile { channel := .file number, appends := direction = .append })
  | .ok (_, some node) =>
    match node.content with
    | .directory =>
      if direction = .input then return .ok (← newFile { channel := .directory node.number })
      else return .error .isDirectory
    -- The open file itself is shared, with its position.
    | .device (.descriptor n) =>
      match t.descriptors.lookup n with
      | some file => return .ok file
      | none => return .error .notFound
    | .device .terminal => return .error .noDevice
    | .device .fifo => return .ok (← openNodePipe node.number (direction ≠ .input))
    | .device d => return .ok (← newFile { channel := .device d })
    | .file _ =>
      if empties then
        onMachine fun m => { m with files := m.files.setContent node.number (.file []) m.now }
      return .ok (← newFile { channel := .file node.number, appends := direction = .append })
    -- Programs of the machine have no bytes that could be read.
    | .program _ | .link _ => return .ok (← newFile { channel := .device .null })

/-! ## Ends of tasks -/

def finish (status : ExitStatus) : Act Unit := do
  onSelf fun t => { t with job := .ended status, descriptors := [], pending := [] }
  forgetUnused

def exit (code : Nat) : Act Unit := finish (.code (.ofNat (code % 256)))

/-- The task after a signal. -/
def receive (signal : Nat) (t : Task) : Task :=
  let handled := match t.job with
    | .shell s => signal ≠ 9 && s.traps.any fun (n, action) => n = signal && action ≠ []
    | .ended _ => true
    | _ => false
  if t.ended?.isSome then t
  else if signal = 9 then { t with job := .ended (.signal 9), descriptors := [], pending := [] }
  -- Signal zero only asks whether somebody is there.
  else if signal = 0 || t.ignored.contains signal then t
  else if handled then { t with pending := if t.pending.contains signal then t.pending else t.pending ++ [signal] }
  else if Signals.harmless.contains signal then t
  else { t with job := .ended (.signal signal), descriptors := [], pending := [] }

/-- Sends a signal to the tasks that are meant; the answer tells whether there are any. -/
def send (signal : Nat) (isMeant : Task → Bool) : Act Bool := do
  let t ← get
  let isThere := (t.self :: t.machine.tasks).any isMeant
  modify fun t =>
    { machine := { t.machine with
        tasks := t.machine.tasks.map fun u => if isMeant u then receive signal u else u }
      self := if isMeant t.self then receive signal t.self else t.self }
  forgetUnused
  -- A task may be among those that it sends to.
  if (← self).ended?.isSome then stop
  return isThere

/-- Sends a signal to the task with a number, or to a group if the number is not positive. The
launcher is no task; it notes when it is to be interrupted. The first of all tasks is always there
and heeds nothing. -/
def sendTo (signal : Nat) (pid : Int) : Act Bool := do
  if pid = 1 then return true
  if pid = launcher then
    if signal = 2 then onMachine fun m => { m with interrupted := m.interrupted.or (some m.clock) }
    return true
  let own := (← self).group
  send signal fun t =>
    if 0 < pid then t.pid = pid.toNat else t.group = if pid = 0 then own else pid.natAbs

/-! ## Reading and writing -/

def overwrite (position : Nat) (piece content : Raw) : Raw :=
  content.take position ++ List.replicate (position - content.length) '\x00' ++ piece ++
    content.drop (position + piece.length)

def pipeCapacity : Nat := 65536

/-- Writes to an open file; the answer is what went wrong. A pipe that is full has to be
waited for, and one that nobody reads ends the task. -/
def write (descriptor : Nat) (r : Raw) : Act (Option FileError) := do
  match ← openFile? descriptor with
  | none => return some .badDescriptor
  | some (n, f) =>
    if r = [] then return none
    match f.channel with
    | .device .full => return some .noSpace
    | .device _ => return none
    | .directory _ => return some .badDescriptor
    | .report launch origin =>
      onMachine fun m =>
        { m with reports := { launch, origin, time := m.clock, text := r } :: m.reports }
      return none
    | .file number =>
      match (← machine).files.text? number with
      | some content =>
        -- Text is put at the end as it is now, whoever wrote there before.
        let position := if f.appends then content.length else f.position
        let content := if position = content.length then content ++ r else overwrite position r content
        onMachine fun m =>
          { m with
            files := m.files.setContent number (.file content) m.now
            openFiles := m.openFiles.map fun (k, g) =>
              if k = n then (k, { g with position := position + r.length }) else (k, g) }
        return none
      | none => return none
    | .pipeEnd _ false => return some .badDescriptor
    | .pipeEnd p true =>
      let m ← machine
      let hasReader := m.openFiles.any fun (_, g) => g.channel = .pipeEnd p false
      -- The reader of a named pipe may be still to come.
      if !hasReader && m.expected.contains (p, false) then wait
      else if !hasReader then
        if (← self).ignored.contains 13 then return some .brokenPipe
        else
          finish (.signal 13)
          stop
      else
        match m.pipes.lookup p with
        | some (content, size) =>
          -- A pipe with any room takes the whole piece.
          if pipeCapacity ≤ size then wait
          else
            onMachine fun m =>
              { m with pipes := m.pipes.map fun (k, c) =>
                  if k = p then (k, content ++ r, size + r.length) else (k, c) }
            return none
        | none => return none

/-- Bytes in no order, as many as are asked for. -/
def disorder (seed : Nat) : (count : Nat) → Raw
  | 0 => []
  | count + 1 =>
    let seed := (seed * 6364136223846793005 + 1442695040888963407) % Raw.wordLimit
    Char.ofNat (seed / Nat.pow 2 40 % 256) :: disorder seed count

/-- Takes from the front of what an open file holds: `take` tells how much of it, given
whether more may follow, and nothing if that is not enough. Nothing is there at the end. -/
def readWith (descriptor limit : Nat) (take : (isWhole : Bool) → Raw → Option Nat) :
    Act (Except FileError Raw) := do
  match ← openFile? descriptor with
  | none => return .error .badDescriptor
  | some (n, f) =>
    match f.channel with
    | .directory _ => return .error .isDirectory
    | .pipeEnd _ true => return .error .badDescriptor
    | .report .. | .device .null | .device (.descriptor _) => return .ok []
    | .device d =>
      let m ← machine
      let bytes := if d = .random then disorder (m.counter * Nat.pow 2 20 + m.clock) limit
        else List.replicate limit '\x00'
      return .ok (bytes.take ((take true bytes).getD limit))
    | .file number =>
      match (← machine).files.text? number with
      | some content =>
        let rest := content.drop f.position
        let taken := rest.take (min limit ((take true rest).getD rest.length))
        onMachine fun m =>
          { m with openFiles := m.openFiles.map fun (k, g) =>
              if k = n then (k, { g with position := f.position + taken.length }) else (k, g) }
        return .ok taken
      | none => return .ok []
    | .pipeEnd p false =>
      let m ← machine
      let hasWriter := m.openFiles.any fun (_, g) => g.channel = .pipeEnd p true
      match m.pipes.lookup p with
      | none => return .ok []
      | some (content, size) =>
        -- An empty pipe ends only when nobody can write into it any more.
        if content = [] && (hasWriter || m.expected.contains (p, true)) then wait
        else
          match take (!hasWriter) content with
          | none => wait
          | some k =>
            let taken := content.take (min limit k)
            onMachine fun m =>
              { m with pipes := m.pipes.map fun (q, c) =>
                  if q = p then (q, content.drop taken.length, size - taken.length) else (q, c) }
            return .ok taken

def read (descriptor limit : Nat) : Act (Except FileError Raw) :=
  readWith descriptor limit fun _ r => some r.length

/-- Takes a line with its newline, or the rest. -/
def readLine (descriptor : Nat) : Act (Except FileError Raw) :=
  readWith descriptor (Nat.pow 2 40) fun isWhole r =>
    let n := (r.takeWhile (· ≠ '\n')).length
    if n < r.length then some (n + 1) else if isWhole then some n else none

/-- Goes back in an open file, if it is one that is kept in storage. -/
def goBack (descriptor count : Nat) : Act Unit := do
  match ← openFile? descriptor with
  | none => pure ()
  | some (n, f) =>
    match f.channel with
    | .file _ =>
      onMachine fun m => { m with openFiles := m.openFiles.map fun (k, g) =>
        if k = n then (k, { g with position := g.position - count }) else (k, g) }
    | _ => pure ()

/-! ## Further tasks -/

/-- Makes a child that does a job, with what it shares with this task. -/
def fork (job : Job) : Act Nat := do
  let pid ← fresh
  let t ← self
  let child : Task := { t with pid, parent := t.pid, pending := [], job }
  onMachine fun m => { m with tasks := m.tasks ++ [child] }
  return pid

def onChild (pid : Nat) (f : Task → Task) : Act Unit :=
  onMachine fun m => { m with tasks := m.tasks.map fun t => if t.pid = pid then f t else t }

/-- The status of a child that has ended; waits for one that has not. A task that is not
there has no status. -/
def statusOf (pid : Nat) : Act (Option ExitStatus) := do
  match (← machine).tasks.find? (·.pid = pid) with
  | none => return none
  | some t =>
    match t.ended? with
    | none => wait
    | some status =>
      -- A status is given once, and the task is forgotten with it.
      onMachine fun m => { m with tasks := m.tasks.filter (·.pid ≠ pid) }
      return some status

end Act

end Buildwatch.Machine
