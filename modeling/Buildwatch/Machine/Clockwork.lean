import Buildwatch.Machine.Shell.Turn

/-!
# The clockwork

The tasks of a machine take turns. Each turn costs a microsecond; when all tasks wait,
the clock goes on to the moment at which the next one wakes.
-/

namespace Buildwatch.Machine

/-! ## Turns of programs -/

namespace Act

/-- The lowest number that programs give to files that they open for themselves. -/
def privateDescriptor : Nat := 10

/-- Gives an open file a number that is not handed on. -/
def bindPrivately (file : Nat) : Act Nat := do
  let d ← unusedDescriptor privateDescriptor
  bind d file
  return d

/-- The task that a launch makes, as far as it does not depend on the program. -/
def childFor (t : Task) (pid : Nat) (l : Launch) : Task :=
  let replaced := l.descriptors.filterMap fun (d, source) => (t.descriptors.lookup source).map (d, ·)
  -- Numbers are looked up before any of them is replaced.
  let kept := t.descriptors.filter fun (d, _) => replaced.all (·.1 ≠ d)
  { t with
    pid
    parent := t.pid
    pending := []
    descriptors := replaced ++ kept
    group := if l.isLeader then pid else t.group }

def advance (job : Job) : Act Unit := do
  match job with
  | .shell _ => Shell.turn
  | .exit status => exit status
  | .write d r next => become (next (← write d r))
  | .read d limit next => become (next (← read d limit))
  | .unread d count next =>
    goBack d count
    become next
  | .open path direction next =>
    match ← openPath (Raw.toText path) direction with
    | .ok file => become (next (.ok (← bindPrivately file)))
    | .error e => become (next (.error e))
  | .close d next =>
    close d
    become next
  | .pipe next =>
    let (reading, writing) ← newPipe
    let reading ← bindPrivately reading
    let writing ← bindPrivately writing
    become (next (reading, writing))
  | .change f next =>
    let v := (← machine).viewFor (← self)
    onMachine fun m => { m with files := f v }
    become (next v)
  | .adjust f next =>
    onSelf fun t => { t with toTraits := f t.toTraits }
    become next
  | .launch l next =>
    let t ← self
    let pid ← fresh
    let name := l.argv.head?.getD []
    match Loading.load (← machine) (childFor t pid l) true (SearchPath.ofEnvironment t.environment) name l.argv with
    | .ok child =>
      onMachine fun m => { m with tasks := m.tasks ++ [child] }
      become (next (.ok pid))
    | .error e => become (next (.error e))
  -- A task that takes up another program stays the same task.
  | .become argv next =>
    let t ← self
    match Loading.load (← machine) t true (SearchPath.ofEnvironment t.environment) (argv.head?.getD []) argv with
    | .ok loaded =>
      onSelf fun _ => loaded
      forgetUnused
    | .error e => become (next e)
  | .await pid deadline next =>
    let isLate := deadline.any (· ≤ (← machine).clock)
    match (← machine).tasks.find? (·.pid = pid) with
    | some t => if t.ended?.isNone && isLate then become (next none) else become (next (← statusOf pid))
    | none => become (next none)
  | .signal number pid next => become (next (← sendTo number pid))
  | .sleep wake next => if wake ≤ (← machine).clock then become next else wait
  | .ended _ => wait

end Act

/-- The moment at which a waiting program goes on in any case. -/
def Job.wake? : Job → Option Nat
  | .sleep wake _ => some wake
  | .await _ deadline _ => deadline
  | _ => none

/-! ## Turns of the machine -/

namespace State

def step? (m : State) : (waiting rest : List Task) → Option State
  | _, [] => none
  | waiting, t :: rest =>
    match (Act.advance t.job).run { machine := { m with tasks := waiting.reverse ++ rest }, self := t } with
    | some (_, turn) =>
      some { turn.machine with
        -- The task goes to the end of the row, so that all have their turns.
        tasks := turn.machine.tasks ++ [turn.self], clock := turn.machine.clock + 1 }
    | none => step? m (t :: waiting) rest

/-- Forgets tasks that have ended and whose parent has ended too. -/
def reap (m : State) : State :=
  if m.tasks.all (·.ended?.isNone) then m
  else
    let isAlive (pid : Nat) : Bool :=
      pid = launcher || m.tasks.any fun t => t.pid = pid && t.ended?.isNone
    -- The first of all tasks takes over children, and asks for no status.
    let tasks := m.tasks.map fun t => if isAlive t.parent then t else { t with parent := 1 }
    { m with tasks := tasks.filter fun t => t.ended?.isNone || t.parent ≠ 1 }

def nextWake? (m : State) : Option Nat := (m.tasks.filterMap fun t => t.job.wake?).min?

/-- The open file that is the pipe of a launched task is still held. -/
def isReporting (m : State) (launch : Nat) : Bool :=
  m.openFiles.any fun (_, f) =>
    match f.channel with
    | .report l _ => l = launch
    | _ => false

def ending? (m : State) (launch : Nat) : Option ExitStatus :=
  (m.tasks.find? (·.pid = launch)).bind Task.ended?

/-- Whether a launched task has ended and nobody can report for it any more. -/
def isOver (m : State) (launch : Nat) : Bool :=
  (m.ending? launch).isSome && !m.isReporting launch

/-- Ends a launched task and all tasks of its group; a task that has ended by itself ends
nobody. -/
def terminate (m : State) (launch : Nat) : State :=
  if (m.ending? launch).isSome then m
  else
    let change (t : Task) : Task :=
      -- The group may clean up; the task itself may not.
      let t := if t.group = launch then Act.receive 15 t else t
      if t.pid = launch then Act.receive 9 t else t
    let idle : Task :=
      { pid := 0, parent := 0, group := 0, cwd := [], descriptors := [], environment := []
        job := .exit 0 }
    match Act.forgetUnused.run { machine := { m with tasks := m.tasks.map change }, self := idle } with
    | some (_, turn) => turn.machine
    | none => m

/-- How long it takes until a signal from the launcher arrives, in microseconds; tasks that
need not wait get far in this time. -/
def signalDelay : Nat := 2000

/-- Lets the tasks take turns until a launched task is over. At `deadline` it is
terminated, and also when the launcher is interrupted. -/
def run (launch : Nat) : (fuel : Nat) → (deadline : Option Nat) → State → State
  | 0, _, m => m
  | fuel + 1, deadline, m =>
    if m.isOver launch then m
    else
      if deadline.any (· ≤ m.clock) then run launch fuel none (m.terminate launch).reap
      else
        match m.step? [] m.tasks with
        | some next =>
          let deadline :=
            if m.interrupted.isNone then (next.interrupted.map (· + signalDelay)).or deadline
            else deadline
          run launch fuel deadline next.reap
        | none =>
          match m.nextWake?, deadline with
          | some wake, some limit => run launch fuel deadline { m with clock := min wake limit }
          | some wake, none => run launch fuel deadline { m with clock := wake }
          | none, some limit => run launch fuel deadline { m with clock := limit }
          -- Everybody waits for somebody else, and nothing will happen any more.
          | none, none => m

end State

end Buildwatch.Machine
