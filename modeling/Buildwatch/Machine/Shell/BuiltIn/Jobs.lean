import Buildwatch.Machine.Shell.BuiltIn.Basic

/-!
# Built-in commands on jobs and signals

Commands that were not waited for are listed and waited for; signals are sent, and actions
are set for those that arrive.
-/

namespace Buildwatch.Machine.Shell.BuiltIn

open Act

/-! ## Jobs -/

/-- How a job has ended, in words. -/
def endText (status : ExitStatus) : Raw :=
  match status with
  | .code 0 => Raw.ascii "Done"
  | .code n => Raw.ascii "Done(" ++ Raw.ofNat n.toInt.toNat ++ [')']
  | .signal n => Raw.ascii ((Signals.text? n).getD (if n = 2 then "Interrupt" else "Broken pipe"))

/-- The row for a job, and how far it is from the front of the list. -/
def jobRow (showsPid : Bool) (index : Nat) (b : Background) : Raw :=
  let mark : Char := if index = 0 then '+' else if index = 1 then '-' else ' '
  let front := ['['] ++ Raw.ofNat b.number ++ [']', ' ', mark, ' ']
  let pid := if showsPid then Raw.ofNat (b.pids.head?.getD 0) ++ [' '] else []
  let text := match b.status with
    | none => Raw.ascii "Running"
    | some status => endText status
  let row := front ++ pid ++ text
  let padded := row ++ List.replicate (max 1 (33 - row.length)) ' '
  let others := (b.pids.drop 1).flatMap fun pid =>
    Raw.ascii " | " ++ if showsPid then Raw.ofNat pid else []
  padded ++ others ++ ['\n']

/-- The job that a text names, if there is one. -/
def job? (bs : List Background) (name : Raw) : Except Raw Background :=
  let missing : Raw := Raw.ascii "No such job: " ++ name
  let orElse (b : Option Background) (reason : Raw) : Except Raw Background :=
    match b with
    | some b => .ok b
    | none => .error reason
  match name with
  | ['%'] | ['%', '+'] | ['%', '%'] => orElse bs.head? (Raw.ascii "No current job")
  | ['%', '-'] => orElse bs[1]? (Raw.ascii "No previous job")
  | '%' :: r =>
    match Raw.natural? r with
    | some n => orElse (bs.find? (·.number = n)) missing
    | none => .error missing
  | _ => .error missing

/-- Shows a job; one that has ended is forgotten. -/
def showJob (given : List Char) (b : Background) : BuiltIn Unit := do
  let bs := (← get).backgrounds
  let index := (bs.findIdx? (·.number = b.number)).getD 0
  if given.getLast? = some 'p' then sayLine (Raw.ofNat (b.pids.head?.getD 0))
  else say (jobRow (given.getLast? = some 'l') index b)
  if b.status.isSome then
    update fun s => { s with backgrounds := s.backgrounds.filter (·.number ≠ b.number) }

def jobs (args : List Raw) : BuiltIn Nat := do
  let (given, names) ← letters "lp" args
  refreshJobs
  if names.isEmpty then
    for b in (← get).backgrounds do showJob given b
  else
    for name in names do
      match job? (← get).backgrounds name with
      | .ok b => showJob given b
      | .error reason => throw reason
  return 0

/-- Refuses to bring a job to the front or to the back: there is no terminal for it. -/
def resume (args : List Raw) : BuiltIn Nat := do
  let (_, names) ← letters "" args
  match job? (← get).backgrounds (names.head?.getD ['%']) with
  | .error reason => throw reason
  | .ok _ =>
    throw (Raw.ascii "job " ++ names.head?.getD (Raw.ascii "(null)") ++
      Raw.ascii " not created under job control")

/-! ## Signals -/

def signal? (r : Raw) : Option Nat :=
  if Raw.startsWith (Raw.ascii "SIG") (Raw.upper r) then none else Signals.number? r

/-- The number of a task, which may stand for a group. -/
def target (operand : Raw) : BuiltIn Int := do
  match operand with
  | '%' :: _ =>
    refreshJobs
    match job? (← get).backgrounds operand with
    | .ok b => return -(b.pids.head?.getD 0 : Int)
    | .error reason => throw reason
  | '-' :: r => return -(← number r : Int)
  | r => return (← number r)

def sendSignal (signal : Nat) (operands : List Raw) : BuiltIn Nat := do
  let mut status := 0
  for operand in operands do
    if !(← sendTo signal (← target operand)) then
      complainOf "kill" (Raw.ascii "No such process\n")
      status := 1
  return status

def listSignals (operands : List Raw) : BuiltIn Nat := do
  match operands with
  | [] => say (Raw.unlines (['0'] :: (List.range 64).map fun n => Signals.name (n + 1)))
  | a :: _ =>
    let n ← number a
    let n := if 128 < n then n - 128 else n
    if n = 0 || 64 < n then mistake "invalid signal number or exit status: " a
    sayLine (Signals.name n)
  return 0

def kill (args : List Raw) : BuiltIn Nat := do
  let usage : BuiltIn Nat := throw (Raw.ascii
    "Usage: kill [-s sigspec | -signum | -sigspec] [pid | job]... or\nkill -l [exitstatus]")
  let deliver (signal : Nat) (operands : List Raw) : BuiltIn Nat :=
    if operands.isEmpty then usage else sendSignal signal operands
  match args with
  | ('-' :: r) :: rest =>
    match if r = [] then none else signal? r with
    | some signal => deliver signal rest
    | none =>
      let (given, operands) ← options ['l', 's'] ['s'] (Raw.total (args.map (·.length + 1)) + 1) args
      let mut signal : Option Nat := none
      for (c, name) in given do
        if c = 's' then
          match signal? name with
          | some n => signal := some n
          | none => mistake "invalid signal number or name: " name
      if given.any (·.1 = 'l') then
        if signal.isSome then usage else listSignals operands
      else deliver (signal.getD 15) operands
  | args => deliver 15 args

/-- The actions for signals as commands that set them. -/
def listActions : BuiltIn Unit := do
  let traps := (← get).traps.mergeSort fun a b => a.1 ≤ b.1
  for (n, action) in traps do
    sayLine (Raw.ascii "trap -- " ++ quoteValue action ++ ' ' :: Signals.name n)

def setAction (n : Nat) (action : Option Raw) : BuiltIn Unit := do
  update fun s => { s with traps := (action.map (n, ·)).toList ++ s.traps.filter (·.1 ≠ n) }
  if n ≠ 0 && !(← get).ignoredAtStart.contains n then
    onSelf fun t =>
      let others := t.ignored.filter (· ≠ n)
      { t with ignored := if action = some [] then n :: others else others }

/-- Sets or shows actions for signals. -/
def trap (args : List Raw) : BuiltIn Nat := do
  let (_, operands) ← letters "" args
  let setFor (action : Option Raw) (names : List Raw) : BuiltIn Nat := do
    for name in names do
      match signal? name with
      | some n => setAction n action
      | none =>
        discard <| write 2 (Raw.ascii "trap: " ++ name ++ Raw.ascii ": bad trap\n")
        return 1
    return 0
  match operands with
  | [] =>
    listActions
    return 0
  | [name] => setFor none [name]
  | first :: names =>
    if (Raw.natural? first).any (· < 65) then setFor none operands
    else setFor (if first = ['-'] then none else some first) names

end Buildwatch.Machine.Shell.BuiltIn
