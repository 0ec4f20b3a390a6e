import Buildwatch.Machine.Changes
import Buildwatch.Machine.SearchPath
import Buildwatch.Machine.Tool.Basic
import Buildwatch.Machine.Tool.Calendar

/-!
# Telling about the machine

The tools that tell the time, who and where one is, what the machine is like, and where
its programs are.
-/

namespace Buildwatch.Machine.Telling

open Tool

/-! ## Nothing at all -/

/-- The tool that succeeds, and the one that fails. -/
def constant (isGood : Bool) : Tool Nat := return statusOf isGood

def sync : Tool Nat := do
  discard <| call { letters := "df", long := "data=d file-system=f" }
  return 0

/-! ## Time -/

/-- The form of a date after one of the standards, to a part of the day. -/
def standardForm? (isMail : Bool) (part : Raw) : Option String :=
  let names := ["hours", "minutes", "date", "seconds", "ns"]
  let meant := names.filter fun n => part.isPrefixOf n.toList
  match if names.contains (String.ofList part) then [String.ofList part] else meant with
  | [n] =>
    match n, isMail with
    | "date", _ => some "%Y-%m-%d"
    | "hours", false => some "%Y-%m-%dT%H%:z"
    | "minutes", false => some "%Y-%m-%dT%H:%M%:z"
    | "seconds", false => some "%Y-%m-%dT%H:%M:%S%:z"
    | "ns", false => some "%Y-%m-%dT%H:%M:%S,%N%:z"
    | "seconds", true => some "%Y-%m-%d %H:%M:%S%:z"
    | "ns", true => some "%Y-%m-%d %H:%M:%S.%N%:z"
    | _, _ => none
  | _ => none

/-- Reports a part of the day that is none. -/
def badPart {α : Type} (option : String) (names : List String) (part : Raw) : Tool α := do
  warn (Raw.ascii "invalid argument " ++ Quoting.plain part ++ Raw.ascii (" for '" ++ option ++ "'"))
  report (Raw.ascii "Valid arguments are:\n")
  for n in names do report (Raw.ascii ("  - '" ++ n ++ "'\n"))
  tryHelp
  exit 1

/-- The moment that a text names; one that is none ends the tool. -/
def moment (now : Int) (r : Raw) : Tool Int := do
  match Calendar.read? now r with
  | some t => return t
  | none => fail (Raw.ascii "invalid date " ++ Quoting.plain r)

def date : Tool Nat := do
  let c ← call {
    letters := "d:f:hI::r:Rs:u"
    long := "date:=d debug file:=f iso-8601::=I reference:=r resolution rfc-email=R rfc-822=R rfc-2822=R rfc-3339: set:=s uct=u utc=u universal=u" }
  let now := (← view).now
  let mut forms : List Raw := []
  for (key, value) in c.options do
    let part := value.getD []
    if key = "R" then forms := forms ++ [Raw.ascii "%a, %d %b %Y %H:%M:%S %z"]
    else if key = "resolution" then forms := forms ++ [Raw.ascii "%s.%N"]
    else if key = "I" then
      match standardForm? false (if value.isNone then Raw.ascii "date" else part) with
      | some f => forms := forms ++ [Raw.ascii f]
      | none => badPart "--iso-8601" ["hours", "minutes", "date", "seconds", "ns"] part
    else if key = "rfc-3339" then
      match standardForm? true part with
      | some f => forms := forms ++ [Raw.ascii f]
      | none => badPart "--rfc-3339" ["date", "seconds", "ns"] part
  if 1 < forms.length then fail (Raw.ascii "multiple output formats specified")
  let sources := (c.options.map (·.1)).filter fun k => k = "d" || k = "f" || k = "r"
  if 1 < sources.eraseDups.length then
    misuse (Raw.ascii "the options to specify dates for printing are mutually exclusive")
  match c.operands with
  | _ :: extra :: _ => misuse (Raw.ascii "extra operand " ++ Quoting.plain extra)
  | _ => pure ()
  let standard := forms.head?.getD (Raw.ascii "%a %b %e %H:%M:%S %Z %Y")
  let form ← match c.operands.head? with
    | some ('+' :: form) =>
      if !forms.isEmpty then fail (Raw.ascii "multiple output formats specified")
      pure form
    | some a =>
      if !sources.isEmpty then
        misuse (Raw.ascii "the argument " ++ Quoting.plain a ++
          Raw.ascii " lacks a leading '+';\nwhen using an option to specify date(s), any non-option\nargument must be a format string beginning with '+'")
      match Calendar.readDigits? now a with
      | some t =>
        sayLine (Calendar.text standard (.ofMicros t))
        exit 0
      | none => fail (Raw.ascii "invalid date " ++ Quoting.plain a)
    | none => pure standard
  let tell (t : Int) : Tool Unit := sayLine (Calendar.text form (.ofMicros t))
  match sources.head? with
  | some "r" =>
    let name := (c.value? "r").getD []
    match (← view).find true name with
    | .ok (_, node) => tell node.modified
    | .error e => fail (Quoting.ifNeeded name ++ Raw.ascii ": " ++ Raw.ascii e.text)
  | some "f" =>
    let name := (c.value? "f").getD []
    match ← contentOf name with
    | .error e => fail (Quoting.ifNeeded name ++ Raw.ascii ": " ++ Raw.ascii e.text)
    | .ok r =>
      let mut isWhole := true
      for line in Raw.lines r do
        match Calendar.read? now line with
        | some t => tell t
        | none =>
          warn (Raw.ascii "invalid date " ++ Quoting.plain line)
          isWhole := false
      return statusOf isWhole
  | some _ => tell (← moment now ((c.value? "d").getD []))
  | none =>
    match c.value? "s" with
    | some s => tell (← moment now s)
    | none => tell now
  return 0

/-! ## People -/

def id : Tool Nat := do
  let c ← call {
    letters := "agnruzGZ", long := "context=Z group=g groups=G name=n real=r user=u zero=z" }
  let isSingle := c.has "u" || c.has "g" || c.has "G"
  if 1 < (["u", "g", "G"].filter c.has).length then
    fail (Raw.ascii "cannot print \"only\" of more than one choice")
  if (c.has "n" || c.has "r") && !isSingle then
    fail (Raw.ascii "cannot print only names or real IDs in default format")
  if c.has "z" && !isSingle then fail (Raw.ascii "option --zero not permitted in default format")
  if c.has "Z" then fail (Raw.ascii "--context (-Z) works only on an SELinux-enabled kernel")
  let mut isWhole := true
  for name in if c.operands.isEmpty then [Raw.ascii "root"] else c.operands do
    if name = Raw.ascii "root" || name = ['0'] then
      let text := if isSingle then Raw.ascii (if c.has "n" then "root" else "0")
        else Raw.ascii "uid=0(root) gid=0(root) groups=0(root)"
      say (text ++ [if c.has "z" then '\x00' else '\n'])
    else
      warn (Quoting.plain name ++ Raw.ascii ": no such user")
      isWhole := false
  return statusOf isWhole

def groups : Tool Nat := do
  let c ← call { letters := "" }
  if c.operands.isEmpty then
    sayLine (Raw.ascii "root")
    return 0
  let mut isWhole := true
  for name in c.operands do
    if name = Raw.ascii "root" then sayLine (Raw.ascii "root : root")
    else
      warn (Quoting.plain name ++ Raw.ascii ": no such user")
      isWhole := false
  return statusOf isWhole

/-- Refuses operands. -/
def withoutOperands (o : Options) (f : Call → Tool Nat) : Tool Nat := do
  let c ← call o
  match c.operands with
  | [] => f c
  | a :: _ => misuse (Raw.ascii "extra operand " ++ Quoting.plain a)

def whoami : Tool Nat := withoutOperands { letters := "" } fun _ => do
  sayLine (Raw.ascii "root")
  return 0

def logname : Tool Nat := withoutOperands { letters := "" } fun _ => do
  warn (Raw.ascii "no login name")
  return 1

def users : Tool Nat := do
  discard <| call { letters := "" }
  return 0

def tty : Tool Nat := do
  let c ← call { letters := "s", long := "silent=s quiet=s" }
  match c.operands with
  | a :: _ =>
    warn (Raw.ascii "extra operand " ++ Quoting.plain a)
    tryHelp
    return 2
  | [] =>
    if !c.has "s" then sayLine (Raw.ascii "not a tty")
    return 1

/-! ## The machine -/

/-- The name of the machine. -/
def machineName : Raw := Raw.ascii "localhost"

def hostname : Tool Nat := do
  discard <| call { letters := "aAdfisIy" }
  sayLine machineName
  return 0

def arch : Tool Nat := withoutOperands { letters := "" } fun _ => do
  sayLine (Raw.ascii "x86_64")
  return 0

def nproc : Tool Nat := do
  let c ← call { letters := "", long := "all ignore:" }
  match c.operands with
  | a :: _ => misuse (Raw.ascii "extra operand " ++ Quoting.plain a)
  | [] =>
    let ignored ← match c.value? "ignore" with
      | none => pure 0
      | some r =>
        match Raw.natural? r with
        | some n => pure n
        | none => fail (Raw.ascii "invalid number: " ++ Quoting.plain r)
    sayLine (Raw.ofNat (max 1 (4 - ignored)))
    return 0

/-- What is told about the machine, by the letters of the options. -/
def features : List (String × Raw) :=
  [("s", Raw.ascii "Linux"), ("n", machineName), ("r", Raw.ascii "6.1.0"),
    ("v", Raw.ascii "#1 SMP"), ("m", Raw.ascii "x86_64"), ("p", Raw.ascii "x86_64"),
    ("i", Raw.ascii "x86_64"), ("o", Raw.ascii "GNU/Linux")]

def uname : Tool Nat := withoutOperands {
    letters := "asnrvmpio"
    long := "all=a kernel-name=s sysname=s nodename=n kernel-release=r release=r kernel-version=v machine=m processor=p hardware-platform=i operating-system=o" } fun c => do
  let asked := features.filter fun (key, _) => c.has "a" || c.has key || (c.options.isEmpty && key = "s")
  sayLine (Raw.join [' '] (asked.map (·.2)))
  return 0

/-! ## Places -/

def pwd : Tool Nat := do
  let c ← call { letters := "LP", long := "logical=L physical=P" }
  if !c.operands.isEmpty then warn (Raw.ascii "ignoring non-option arguments")
  let v ← view
  let given := Raw.toText ((v.environment.lookup (Raw.ascii "PWD")).getD [])
  let isHere := Path.isAbsolute given && !(Files.namesOf given).any (fun n => n = "." || n = "..") &&
    match v.files.find true [] given with
    | .ok (place, _) => place = v.cwd
    | .error _ => false
  sayLine (Raw.ofString (if c.last? ["L", "P"] = some "L" && isHere then given else v.cwd.path))
  return 0

def which : Tool Nat := do
  let rec letters : (showsAll isSilent : Bool) → List Raw → Except Char (Bool × Bool × List Raw)
    | a, s, ['-', '-'] :: args => .ok (a, s, args)
    | a, s, ('-' :: c :: r) :: args =>
      match (c :: r).find? fun c => c ≠ 'a' && c ≠ 's' with
      | some c => .error c
      | none => letters (a || (c :: r).contains 'a') (s || (c :: r).contains 's') args
    | a, s, args => .ok (a, s, args)
  match letters false false (← read).args with
  | .error c =>
    report (Raw.ascii "Illegal option -" ++ [c] ++ Raw.ascii "\nUsage: " ++ (← read).label ++
      Raw.ascii " [-as] args\n")
    return 2
  | .ok (showsAll, isSilent, names) =>
    let v ← view
    let path := SearchPath.ofEnvironment v.environment
    let mut isWhole := !names.isEmpty
    for name in names do
      let found := (SearchPath.candidates path name).filter (SearchPath.isProgram v.files v.cwd)
      if found.isEmpty then isWhole := false
      if !isSilent then
        for p in if showsAll then found else found.take 1 do sayLine p
    return statusOf isWhole

end Buildwatch.Machine.Telling
