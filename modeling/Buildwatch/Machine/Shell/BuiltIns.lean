import Buildwatch.Machine.Shell.BuiltIn.Jobs
import Buildwatch.Machine.Shell.BuiltIn.Names
import Buildwatch.Machine.Shell.BuiltIn.Surroundings
import Buildwatch.Machine.Shell.BuiltIn.Variables

/-!
# The built-in commands

All built-in commands by name, among them those that steer the shell: loops and functions
are left, and scripts within the script are carried out.
-/

namespace Buildwatch.Machine.Shell

open Act

namespace BuiltIn

/-! ## Saying and testing -/

def printf (args : List Raw) : BuiltIn Nat := do
  match ← letters "" args with
  | (_, []) => throw (Raw.ascii "usage: printf format [arg ...]")
  | (_, format :: rest) =>
    let p := Printing.format Printing.shellFormat format rest
    for e in p.complaints ++ p.warnings do complainOf "printf" e
    say p.text
    return p.status

def test (name : String) (args : List Raw) : BuiltIn Nat := do
  match Condition.shell (← view) name args with
  | .ok isMet => return if isMet then 0 else 1
  | .error reason => throw reason

/-! ## Scripts within the script -/

/-- Carries out a script next, under a name for reports. -/
def begin (title : Raw) (script : Raw) (isFile isGuarded : Bool) : BuiltIn Unit := do
  let s ← get
  push (.title s.title isFile isGuarded)
  push (.script { Script.ofRaw script with isFile } false)
  update fun s => { s with title }
  if Grammar.isFinished (.ofRaw script) then setStatus 0

def eval (args : List Raw) (isGuarded : Bool) : BuiltIn Unit :=
  begin (Raw.ascii "eval") (Raw.join [' '] args) false isGuarded

/-- Carries out the script in a file. Without a slash in its name it is looked for along the
search path. -/
def source (args : List Raw) (isGuarded : Bool) : BuiltIn (Option Nat) := do
  match ← letters "" args with
  | (_, []) => return some 0
  | (_, name :: _) =>
    let v ← view
    let candidates := SearchPath.candidates (searchPath (← get).scope) name
    let isFile (path : Raw) : Bool := v.files.isFile v.cwd (Raw.toText path)
    match if name.contains '/' then some name else candidates.find? isFile with
    | none => throw (name ++ Raw.ascii ": not found")
    | some path =>
      match v.files.read v.cwd (Raw.toText path) with
      | .ok script => begin path script true isGuarded
      | .error .isDirectory => begin path [] true isGuarded
      | .error e => throw (openReason .input path e)
      return none

/-! ## Leaving -/

/-- Leaves loops, or begins the last of them again. In a shell that was made within loops this
may mean its end. -/
def leaveLoop (goesOn : Bool) (args : List Raw) : BuiltIn Unit := do
  let n ← firstNumber args 1
  if n = 0 then mistake "Illegal number: " (args.head?.getD [])
  let s ← get
  let loops := min n (loopDepth s)
  setStatus 0
  if ownLoops s < loops then leave 0 else leaveLoops goesOn loops

/-- The status in front of the action for a signal that is being carried out. -/
def statusBeforeAction? (s : Shell) : Option Nat :=
  s.frames.findSome? fun
    | .settle status => some status
    | _ => none

/-- Whether a frame is the end of something that can be returned from. -/
def isReturnable : Frame → Bool
  | .leave .. | .title _ true _ => true
  | _ => false

/-- Returns from a function or from the script of a file. -/
def leaveFunction (args : List Raw) : BuiltIn Unit := do
  let s ← get
  let status ← firstNumber args s.scope.status
  if s.frames.any isReturnable then
    discard <| unwind isReturnable (s.frames.length + 1)
    setStatus status
  else leave (status % 256)

def leaveShell (args : List Raw) : BuiltIn Unit := do
  let s ← get
  leave ((← firstNumber args ((statusBeforeAction? s).getD s.scope.status)) % 256)

def await (args : List Raw) : BuiltIn Unit := do
  let (_, jobs) ← letters "" args
  if jobs.isEmpty then push .waitForAll else push (.wait jobs 127)

/-! ## All of them -/

/-- What a built-in command does. The answer is its status, unless that is still to come. -/
def run (name : String) (args : List Raw) (isFatal : Bool) : BuiltIn (Option Nat) := do
  let now (b : BuiltIn Nat) : BuiltIn (Option Nat) := do return some (← b)
  let later (b : BuiltIn Unit) : BuiltIn (Option Nat) := do
    b
    return none
  match name with
  | ":" | "true" => return some 0
  | "false" => return some 1
  | "echo" =>
    say (Printing.shellEcho args)
    return some 0
  | "printf" => now (printf args)
  | "test" | "[" => now (test name args)
  | "cd" | "chdir" => now (cd args)
  | "pwd" => now (pwd args)
  | "umask" => now (umask args)
  | "ulimit" => now (ulimit args)
  | "times" => now times
  | "export" => now (declare name (fun v => { v with isExported := true }) (·.isExported) args)
  | "readonly" => now (declare name (fun v => { v with isReadonly := true }) (·.isReadonly) args)
  | "local" => now (makeLocal args)
  | "unset" => now (unset args)
  | "set" => now (set args)
  | "shift" => now (shift args)
  | "read" => now (readInto args)
  | "getopts" => now (nextOption args)
  | "alias" => now (aliases args)
  | "unalias" => now (unalias args)
  | "hash" => now (hash args)
  | "type" => now (type args)
  | "command" => now (command args)
  | "jobs" => now (jobs args)
  | "fg" | "bg" => now (resume args)
  | "kill" => now (kill args)
  | "trap" => now (trap args)
  | "eval" => later (eval args !isFatal)
  | "." => source args !isFatal
  | "break" => later (leaveLoop false args)
  | "continue" => later (leaveLoop true args)
  | "return" => later (leaveFunction args)
  | "exit" => later (leaveShell args)
  | "wait" => later (await args)
  | _ => return some 0

end BuiltIn

/-- Carries out a built-in command in the shell. What it says is written when it is done; a
mistake may end the shell. -/
def runBuiltIn (name : String) (args : List Raw) (isFatal : Bool) : Act Unit := do
  let (result, said) ← StateT.run (ExceptT.run (BuiltIn.run name args isFatal)) []
  match result with
  | .error reason => complainOf name reason
  | .ok _ => pure ()
  let text := said.reverse.flatten
  let failure ← if text = [] then pure none else write 1 text
  if failure.isSome then complainOf name (Raw.ascii name ++ Raw.ascii ": I/O error")
  match result with
  | .error _ =>
    if isFatal then giveUp else setStatus 2
  | .ok (some status) => setStatus (if failure.isSome then status ||| 1 else status)
  | .ok none => pure ()

end Buildwatch.Machine.Shell
