import Buildwatch.Machine.Signals
import Buildwatch.Machine.Tool.Numbers

/-!
# Starting other programs

The tools that run a program under other circumstances: with other variables, with less
precedence, in a group of its own, or for a limited time; and the tool that waits.
-/

namespace Buildwatch.Machine.Starting

open Tool

/-! ## Becoming a program -/

/-- Becomes a program; if that fails, it is reported. -/
def becomeOr (argv : List Raw) (reason : Raw → Raw) : Tool Nat := do
  let e ← become argv
  warn (reason (Quoting.plain (argv.head?.getD [])) ++ Raw.ascii ": " ++ Raw.ascii e.text)
  return startStatus e

/-- What is said of a program that cannot be run. -/
def failedToRun (name : Raw) : Raw := Raw.ascii "failed to run command " ++ name

/-! ## Variables -/

def withVariable (environment : List (Raw × Raw)) (name value : Raw) : List (Raw × Raw) :=
  if environment.any (·.1 = name) then
    environment.map fun (n, v) => if n = name then (n, value) else (n, v)
  else environment ++ [(name, value)]

/-- How far the splitting of a text has come: the words, latest first, and the open one, last
character first. -/
structure Splitting where
  words : List Raw := []
  current : Option Raw := none

namespace Splitting

def add (s : Splitting) (r : Raw) : Splitting := { s with current := some (r.reverse ++ s.current.getD []) }

def close (s : Splitting) : Splitting :=
  match s.current with
  | some w => { words := w.reverse :: s.words, current := none }
  | none => s

end Splitting

def split (environment : List (Raw × Raw)) :
    (fuel : Nat) → (quote : Option Char) → Splitting → Raw → Except Raw (List Raw)
  | 0, _, s, _ => .ok s.close.words.reverse
  | _, some _, _, [] => .error (Raw.ascii "no terminating quote in -S string")
  | _, none, s, [] => .ok s.close.words.reverse
  | fuel + 1, quote, s, c :: r =>
    if quote = some c then split environment fuel none s r
    else if quote.isNone && (c = '\'' || c = '"') then split environment fuel (some c) (s.add []) r
    else if quote.isNone && Raw.isSpace c then split environment fuel none s.close r
    else if quote.isNone && c = '#' && s.current.isNone then .ok s.close.words.reverse
    else if c = '\\' then
      match r with
      | [] => .error (Raw.ascii "invalid backslash at end of string in -S")
      | d :: rest =>
        let goOn (text : Raw) : Except Raw (List Raw) := split environment fuel quote (s.add text) rest
        if quote = some '\'' then
          if d = '\\' || d = '\'' then goOn [d] else split environment fuel quote (s.add ['\\']) r
        else
          match d with
          | 'f' => goOn ['\x0c']
          | 'n' => goOn ['\n']
          | 'r' => goOn ['\r']
          | 't' => goOn ['\t']
          | 'v' => goOn ['\x0b']
          | '_' => if quote.isSome then goOn [' '] else split environment fuel quote s.close rest
          | 'c' =>
            if quote.isSome then .error (Raw.ascii "'\\c' must not appear in double-quoted -S string")
            else .ok s.close.words.reverse
          | d =>
            if "\"#$'\\".toList.contains d then goOn [d]
            else .error (Raw.ascii "invalid sequence '\\" ++ [d] ++ Raw.ascii "' in -S")
    else if c = '$' && quote ≠ some '\'' then
      match r with
      | '\x7b' :: rest =>
        let name := rest.takeWhile (· ≠ '\x7d')
        if name.length < rest.length && name.head?.any Raw.isLetter &&
            name.all (fun c => Raw.isLetter c || Raw.isDigit c) then
          let rest := rest.drop (name.length + 1)
          match environment.lookup name with
          | some value => split environment fuel quote (s.add value) rest
          | none => split environment fuel quote s rest
        else .error (Raw.ascii "only $\x7bVARNAME\x7d expansion is supported, error at: " ++ c :: r)
      | _ => .error (Raw.ascii "only $\x7bVARNAME\x7d expansion is supported, error at: " ++ c :: r)
    else split environment fuel quote (s.add [c]) r

/-- The arguments with a text that is to be split put in their place. -/
def splitOut (environment : List (Raw × Raw)) : (fuel : Nat) → List Raw → Except Raw (List Raw)
  | 0, args => .ok args
  | _, [] => .ok []
  | fuel + 1, a :: args =>
    let put (text : Raw) (rest : List Raw) : Except Raw (List Raw) := do
      splitOut environment fuel ((← split environment (text.length + 2) none {} text) ++ rest)
    match a with
    | '-' :: 'S' :: c :: text => put (c :: text) args
    | '-' :: 'v' :: 'S' :: text => do
      match text, args with
      | [], next :: rest => .ok (['-', 'v'] :: (← put next rest))
      | text, rest => .ok (['-', 'v'] :: (← put text rest))
    | ['-', 'S'] =>
      match args with
      | text :: rest => put text rest
      | [] => .ok [a]
    | '-' :: _ :: _ =>
      let isLong := Raw.startsWith (Raw.ascii "--split-string=") a
      if isLong then put (a.drop 15) args
      else if a = ['-', '-'] then .ok (a :: args)
      else if a = ['-', 'u'] || a = ['-', 'C'] then
        match args with
        | v :: rest => do .ok (a :: v :: (← splitOut environment fuel rest))
        | [] => .ok [a]
      else do .ok (a :: (← splitOut environment fuel args))
    | _ => .ok (a :: args)

/-- The signals that a list names. -/
def signalsOf (r : Raw) : Tool (List Nat) := do
  if r = [] then return (List.range 31).map (· + 1)
  else
    (Text.cutAt ',' r).mapM fun name => do
      match Signals.number? name with
      | some n => return n
      | none =>
        warn (Quoting.plain name ++ Raw.ascii ": invalid signal")
        tryHelp
        exit (← read).trouble

def env : Tool Nat := do
  let given := (← view).environment
  let args := (← read).args
  let args ← match splitOut given (Raw.total (args.map (·.length + 1)) + 10) args with
    | .ok args => pure args
    | .error reason => fail reason
  let c ← callChecking {
    letters := "iu:0C:v"
    long := "ignore-environment=i null=0 unset:=u chdir:=C debug=v ignore-signal:: default-signal:: block-signal:: list-signal-handling"
    permutes := false } args fun _ _ => pure ()
  let (clears, operands) := match c.operands with
    | ['-'] :: rest => (true, rest)
    | operands => (c.has "i", operands)
  let mut environment := if clears then [] else given
  for name in c.values "u" do
    if name = [] || name.contains '=' then
      fail (Raw.ascii "cannot unset " ++ Quoting.plain name ++ Raw.ascii ": Invalid argument")
    environment := environment.filter (·.1 ≠ name)
  let assignments := operands.takeWhile (·.contains '=')
  let command := operands.drop assignments.length
  for a in assignments do
    let name := a.takeWhile (· ≠ '=')
    environment := withVariable environment name (a.drop (name.length + 1))
  if c.has "0" && !command.isEmpty then misuse (Raw.ascii "cannot specify --null (-0) with command")
  if c.has "C" && command.isEmpty then misuse (Raw.ascii "must specify command with --chdir (-C)")
  for (key, value) in c.options do
    if key = "ignore-signal" then
      let signals ← signalsOf (value.getD [])
      adjust fun t => { t with ignored := signals ++ t.ignored }
    else if key = "default-signal" then
      let signals ← signalsOf (value.getD [])
      adjust fun t => { t with ignored := t.ignored.filter fun n => !signals.contains n }
  match c.value? "C" with
  | none => pure ()
  | some directory =>
    if c.has "v" then report (Raw.ascii "chdir:    " ++ Quoting.plain directory ++ ['\n'])
    match (← view).files.find true (← view).cwd (Raw.toText directory) with
    | .ok (place, node) =>
      if node.isDirectory then adjust fun t => { t with cwd := place }
      else fail (Raw.ascii "cannot change directory to " ++ Quoting.plain directory ++ Raw.ascii ": Not a directory")
    | .error e =>
      fail (Raw.ascii "cannot change directory to " ++ Quoting.plain directory ++ Raw.ascii ": " ++ Raw.ascii e.text)
  match command with
  | [] =>
    let ending : Raw := if c.has "0" then ['\x00'] else ['\n']
    for (n, v) in environment do say (n ++ '=' :: v ++ ending)
    return 0
  | name :: _ =>
    if c.has "v" then
      report (Raw.ascii "executing: " ++ name ++ ['\n'])
      for (a, i) in command.zipIdx do
        report (Raw.ascii "   arg[" ++ Raw.ofNat i ++ Raw.ascii "]= " ++ Quoting.plain a ++ ['\n'])
    let final := environment
    adjust fun t => { t with environment := final }
    let e ← become command
    warn (Quoting.plain name ++ Raw.ascii ": " ++ Raw.ascii e.text)
    if e = .notFound && name.any Raw.isSpace then
      warn (Raw.ascii "use -[v]S to pass options in shebang lines")
    return startStatus e

def printenv : Tool Nat := do
  let c ← call { letters := "0", long := "null=0", permutes := false }
  let ending : Raw := if c.has "0" then ['\x00'] else ['\n']
  let environment := (← view).environment
  if c.operands.isEmpty then
    for (n, v) in environment do say (n ++ '=' :: v ++ ending)
    return 0
  let mut isWhole := true
  for name in c.operands do
    match environment.lookup name with
    | some value => say (value ++ ending)
    | none => isWhole := false
  return statusOf isWhole

/-! ## Circumstances -/

/-- Spells out adjustments that are given as a number alone. -/
def spellOutNumber : List Raw → List Raw
  | ('-' :: r) :: args =>
    let digits := match r with
      | '-' :: d | '+' :: d => d
      | d => d
    if digits.head?.any Raw.isDigit then ['-', 'n'] :: r :: spellOutNumber args
    else if r = ['n'] then
      match args with
      | v :: args => ['-', 'n'] :: v :: spellOutNumber args
      | [] => [['-', 'n']]
    else ('-' :: r) :: args
  | args => args

def nice : Tool Nat := do
  let c ← callChecking { letters := "n:", long := "adjustment:=n", permutes := false }
    (spellOutNumber (← read).args) fun _ _ => pure ()
  let adjustment ← match c.value? "n" with
    | none => pure 10
    | some r =>
      match Raw.integer? (Raw.dropSpace r) with
      | some i => pure i
      | none => fail (Raw.ascii "invalid adjustment " ++ Quoting.plain r)
  if c.operands.isEmpty then
    if c.has "n" then misuse (Raw.ascii "a command must be given with an adjustment")
    sayLine (Raw.ofInt (← view).niceness)
    return 0
  adjust fun t => { t with niceness := max (-20) (min 19 (t.niceness + adjustment)) }
  becomeOr c.operands id

def nohup : Tool Nat := do
  let c ← call { letters := "", permutes := false }
  if c.operands.isEmpty then misuse (Raw.ascii "missing operand")
  adjust fun t => { t with ignored := 1 :: t.ignored }
  becomeOr c.operands failedToRun

def setsid : Tool Nat := do
  let c ← call { letters := "cfw", long := "ctty=c fork=f wait=w", permutes := false }
  let name := c.operands.head?.getD []
  if c.operands.isEmpty then misuse (Raw.ascii "no command specified")
  let failed (e : FileError) : Tool Nat := do
    warn (Raw.ascii "failed to execute " ++ name ++ Raw.ascii ": " ++ Raw.ascii e.text)
    return startStatus e
  let v ← view
  if c.has "f" || v.group = v.pid then
    match ← perform fun next => .launch { argv := c.operands, isLeader := true } next with
    | .error e => if c.has "w" then failed e else discard (failed e) *> pure 0
    | .ok pid =>
      if !c.has "w" then return 0
      match ← await pid none with
      | some (.code n) => return n.toInt.toNat
      | _ =>
        warn (Raw.ascii "child " ++ Raw.ofNat pid ++ Raw.ascii " did not exit normally")
        return 1
  else
    adjust fun t => { t with group := v.pid }
    failed (← become c.operands)

def stdbuf : Tool Nat := do
  let c ← call { letters := "i:o:e:", long := "input:=i output:=o error:=e", permutes := false }
  for (key, value) in c.options do
    let mode := value.getD []
    if mode = ['L'] then
      if key = "i" then misuse (Raw.ascii "line buffering stdin is meaningless")
    else
      match Numeral.read "kKMGTPEZYRQ0" mode with
      | .ok _ => pure ()
      | .error e => fail (Raw.ascii "invalid mode " ++ Quoting.plain mode ++ e.tail)
  if c.operands.isEmpty then misuse (Raw.ascii "missing operand")
  if c.options.isEmpty then misuse (Raw.ascii "you must specify a buffering mode option")
  becomeOr c.operands failedToRun

/-! ## Time -/

def sleep : Tool Nat := do
  let c ← call { letters := "" }
  if c.operands.isEmpty then misuse (Raw.ascii "missing operand")
  let durations := c.operands.map fun o => (o, Numeral.duration? o)
  let bad := durations.filter (·.2.isNone)
  for (o, _) in bad do warn (Raw.ascii "invalid time interval " ++ Quoting.plain o)
  if !bad.isEmpty then
    tryHelp
    return 1
  sleepUntil ((← view).clock + Raw.total (durations.filterMap (·.2)))
  return 0

/-- The time that a text is; one that is none ends the tool. -/
def duration (r : Raw) : Tool Nat := do
  match Numeral.duration? r with
  | some n => return n
  | none => misuse (Raw.ascii "invalid time interval " ++ Quoting.plain r)

/-- The number of a signal; one that is none ends the tool. -/
def signalNumber (r : Raw) : Tool Nat := do
  match Signals.number? r with
  | some n => return n
  | none => misuse (Quoting.plain r ++ Raw.ascii ": invalid signal")

/-- Sends a signal to a program whose time is over, and to its group. -/
def endProgram (c : Call) (pid signal : Nat) : Tool Unit := do
  if c.has "v" then
    warn (Raw.ascii "sending signal " ++ Signals.name signal ++ Raw.ascii " to command " ++
      Quoting.plain ((c.operands.drop 1).head?.getD []))
  discard <| Tool.signal signal pid
  if !c.has "foreground" then
    adjust fun t => { t with ignored := signal :: t.ignored }
    discard <| Tool.signal signal 0
  if signal ≠ 9 && signal ≠ 18 then discard <| Tool.signal 18 pid

def timeout : Tool Nat := do
  let c ← callChecking {
    letters := "k:s:v", long := "kill-after:=k signal:=s verbose=v foreground preserve-status"
    permutes := false } (← read).args fun key value => do
      if key = "k" then discard <| duration value
      else if key = "s" then discard <| signalNumber value
  match c.operands with
  | [] | [_] =>
    tryHelp
    return (← read).trouble
  | limit :: command =>
    let limit ← duration limit
    let afterwards ← duration ((c.value? "k").getD ['0'])
    let signal ← match c.value? "s" with
      | some s => signalNumber s
      | none => pure 15
    let v ← view
    if !c.has "foreground" then adjust fun t => { t with group := v.pid }
    match ← launch command [] with
    | .error e =>
      warn (failedToRun (Quoting.plain (command.head?.getD [])) ++ Raw.ascii ": " ++ Raw.ascii e.text)
      return startStatus e
    | .ok pid =>
      let start := (← view).clock
      let inTime ← await pid (if limit = 0 then none else some (start + limit))
      let status ← match inTime with
        | some status => pure (some status)
        | none =>
          endProgram c pid signal
          let later := (← view).clock + afterwards
          match ← await pid (if afterwards = 0 then none else some later) with
          | some status => pure (some status)
          | none =>
            endProgram c pid 9
            await pid none
      let isLate := inTime.isNone
      let number := match status with
        | some (.code n) => n.toInt.toNat
        | some (.signal n) => 128 + n
        | none => 0
      match status with
      | some (.signal n) =>
        if !isLate then
          adjust fun t => { t with ignored := t.ignored.filter (· ≠ n) }
          discard <| Tool.signal n v.pid
      | _ => pure ()
      return if isLate && !c.has "preserve-status" && status ≠ some (.signal 9) then 124 else number

/-! ## Signals -/

/-- What is shown to those who call for no signal. -/
def signalUsage : Raw :=
  Raw.ascii ("\nUsage:\n kill [options] <pid> [...]\n\nOptions:\n" ++
    " <pid> [...]            send signal to every <pid> listed\n" ++
    " -<signal>, -s, --signal <signal>\n" ++
    "                        specify the <signal> to be sent\n" ++
    " -q, --queue <value>    integer value to be sent with the signal\n" ++
    " -l, --list=[<signal>]  list all signal names, or convert one to a name\n" ++
    " -L, --table            list all signal names in a nice table\n\n" ++
    " -h, --help     display this help and exit\n" ++
    " -V, --version  output version information and exit\n\n" ++
    "For more details see kill(1).\n")

def signalAll (signal : Nat) (names : List Raw) : Tool Nat := do
  if names.isEmpty then
    report signalUsage
    return 1
  let mut isWhole := true
  for name in names do
    match Raw.integer? name with
    | none =>
      warn (Raw.ascii "failed to parse argument: " ++ Quoting.plain name)
      isWhole := false
    | some pid =>
      if !(← Tool.signal signal pid) then
        warn ('(' :: name ++ Raw.ascii "): No such process")
        isWhole := false
  return statusOf isWhole

def kill : Tool Nat := do
  let unknown (names : List Raw) : Tool Nat := do
    for name in names do warn ('(' :: name ++ Raw.ascii "): Invalid argument")
    return 1
  match (← read).args with
  | ['-', 'l'] :: name :: _ =>
    match Signals.number? name with
    | some n =>
      sayLine (if (Raw.natural? name).isSome then Signals.name n else Raw.ofNat n)
      return 0
    | none =>
      warn (Raw.ascii "unknown signal name " ++ name)
      return 1
  | ['-', 'l'] :: _ =>
    let row (first count : Nat) : Raw :=
      Raw.join [' '] (((List.range count).map (· + first)).map fun n =>
        if n = 16 then Raw.ascii "STKFLT" else if n = 29 then Raw.ascii "POLL" else Signals.name n)
    sayLine (row 1 16)
    sayLine (row 17 15)
    return 0
  | ['-', 's'] :: name :: names =>
    match Signals.number? name with
    | some n => signalAll n names
    | none => unknown names
  | ['-', '-'] :: names => signalAll 15 names
  | ('-' :: c :: r) :: names =>
    match Signals.number? (c :: r) with
    | some n => signalAll n names
    | none => unknown names
  | names => signalAll 15 names

end Buildwatch.Machine.Starting
