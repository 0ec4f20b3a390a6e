import Buildwatch.Machine.SearchPath
import Buildwatch.Machine.System
import Buildwatch.Machine.Tool.Programs

/-!
# Loading programs

From a name and arguments to a task that runs the program. A name without a slash is
looked for along the search path; a script names the program that reads it.
-/

namespace Buildwatch.Machine.Loading

/-! ## Shells -/

structure ShellCall where
  options : List Char := []
  /-- Whether the first operand is the script itself. -/
  isCommand : Bool := false
  /-- Whether the script is read from the standard input in any case. -/
  isStandard : Bool := false
  operands : List Raw := []
  mistake : Option Raw := none

def shellCall : (fuel : Nat) → List Raw → ShellCall → ShellCall
  | 0, args, c => { c with operands := args }
  | fuel + 1, args, c =>
    match args with
    | ['-', '-'] :: args | ['-'] :: args => { c with operands := args }
    | (sign :: o :: r) :: args =>
      if sign ≠ '-' && sign ≠ '+' then { c with operands := (sign :: o :: r) :: args }
      else
        -- The letters behind this one are options too.
        let rest := if r = [] then args else (sign :: r) :: args
        if o = 'c' then shellCall fuel rest { c with isCommand := true }
        else if o = 'l' then shellCall fuel rest c
        else if o = 's' then shellCall fuel rest { c with isStandard := true }
        else if o = 'o' then
          let name := args.head?.getD []
          match Scope.optionNames.find? fun (n, _) => n.toList = name with
          | some (_, letter) =>
            shellCall fuel (if r = [] then args.drop 1 else (sign :: r) :: args.drop 1)
              { c with options := if sign = '-' then letter :: c.options else c.options.filter (· ≠ letter) }
          | none =>
            { c with mistake := some (Raw.ascii "Illegal option -o " ++ name) }
        else if Scope.optionNames.any (·.2 = o) then
          shellCall fuel rest
            { c with options := if sign = '-' then o :: c.options else c.options.filter (· ≠ o) }
        else { c with mistake := some (Raw.ascii "Illegal option " ++ ['-', o]) }
    | args => { c with operands := args }

/-- The variables that a shell starts with. -/
def initialVariables (m : State) (t : Task) : List (Raw × Variable) :=
  -- The directory keeps the spelling that it was reached by.
  let given := Raw.toText ((t.environment.lookup (Raw.ascii "PWD")).getD [])
  let isHere := match m.files.find true [] given with
    | .ok (place, _) => Path.isAbsolute given && place = t.cwd
    | .error _ => false
  let directory := if isHere then given else t.cwd.path
  let isName (n : Raw) : Bool :=
    n.head?.any Raw.isLetter && n.all fun c => Raw.isLetter c || Raw.isDigit c
  let own : List (Raw × Variable) :=
    [(Raw.ascii "IFS", { value := some [' ', '\t', '\n'] }),
      (Raw.ascii "OPTIND", { value := some ['1'] }),
      (Raw.ascii "PPID", { value := some (Raw.ofNat t.parent) }),
      (Raw.ascii "PS1", { value := some ['#', ' '] }),
      (Raw.ascii "PS2", { value := some ['>', ' '] }),
      (Raw.ascii "PS4", { value := some ['+', ' '] }),
      (Raw.ascii "PWD", { value := some (Raw.ofString directory), isExported := true })]
  let inherited := t.environment.filterMap fun (n, v) =>
    if isName n && own.all (·.1 ≠ n) then some (n, { value := some v, isExported := true }) else none
  let prompts := own.map fun (n, v) =>
    match t.environment.lookup n with
    | some value =>
      -- Of the shell's own variables only the prompts are taken over.
      if [Raw.ascii "PS1", Raw.ascii "PS2", Raw.ascii "PS4"].contains n then
        (n, { value := some value, isExported := true })
      else (n, v)
    | none => (n, v)
  inherited ++ prompts

/-- A shell that carries out a script. -/
def shellFor (m : State) (t : Task) (options : List Char) (name : Raw) (arguments : List Raw) (script : Raw)
    (isLast : Bool) : Shell where
  scope := {
    bindings := initialVariables m t
    arguments
    name
    pid := t.pid
    options }
  frames := [.script (.ofRaw script) isLast]
  ignoredAtStart := t.ignored

/-- A shell that carries out what it reads from its standard input. -/
def readingShell (shell : Raw → Shell) : (turns : Nat) → (pieces : List Raw) → Job
  | 0, pieces => .shell (shell pieces.reverse.flatten)
  | turns + 1, pieces =>
    .read 0 8192 fun
      | .ok (c :: r) => readingShell shell turns ((c :: r) :: pieces)
      | _ => .shell (shell pieces.reverse.flatten)

def startShell (m : State) (t : Task) (argv : List Raw) : Job :=
  let own := argv.head?.getD []
  let c := shellCall (Raw.total (argv.map (·.length + 1)) + 1) (argv.drop 1) {}
  let complain (reason : Raw) : Job := .say [(2, own ++ Raw.ascii ": 0: " ++ reason ++ ['\n'])] 2
  match c.mistake with
  | some reason => complain reason
  | none =>
    if c.isCommand then
      match c.operands with
      | [] => complain (Raw.ascii "-c requires an argument")
      | script :: rest =>
        .shell (shellFor m t c.options (rest.head?.getD own) (rest.drop 1) script false)
    else
      match if c.isStandard then [] else c.operands with
      | [] =>
        readingShell (shellFor m t ('s' :: c.options) own c.operands · false) (Nat.pow 2 60) []
      | path :: rest =>
        match m.files.read t.cwd (Raw.toText path) with
        | .ok script => .shell (shellFor m t c.options path rest script false)
        | .error e =>
          let reason := if e = .notFound || e = .notDirectory then "No such file" else e.text
          complain (Raw.ascii "cannot open " ++ path ++ Raw.ascii ": " ++ Raw.ascii reason)

/-! ## Finding programs -/

/-- The program that a script names in its first line, with an argument for it. -/
def interpreter? (content : Raw) : Option (Raw × List Raw) :=
  match content with
  | '#' :: '!' :: r =>
    let line := (r.takeWhile (· ≠ '\n')).dropWhile Raw.isBlank
    let program := line.takeWhile fun c => !Raw.isBlank c
    let argument := ((line.drop program.length).dropWhile Raw.isBlank).reverse
    let argument := (argument.dropWhile Raw.isBlank).reverse
    if program = [] then none else some (program, if argument = [] then [] else [argument])
  | _ => none

abbrev Loaded := Except FileError Task

/-- Runs the file at a path. A file that is no script is left to the shell, if it may be. -/
def loadPath (m : State) (t : Task) (mayBeShell : Bool) :
    (fuel : Nat) → (path : Raw) → (argv : List Raw) → Loaded
  | 0, _, _ => .error .tooManyLinks
  | fuel + 1, path, argv => do
    let (_, node) ← m.files.find true t.cwd (Raw.toText path)
    let start (job : Job) : Loaded := .ok { t with job }
    if !node.isExecutable then .error .denied
    else
      match node.content with
      | .program name =>
        if name = "sh" then start (startShell m t argv)
        else start (Programs.job name argv)
      | .file content =>
        match interpreter? content with
        | some (program, argument) =>
          -- The path of the script takes the place of its name.
          loadPath m t false fuel program (program :: argument ++ path :: argv.drop 1)
        | none =>
          if mayBeShell then start (startShell m t (Raw.ascii "/bin/sh" :: path :: argv.drop 1))
          else .error .notExecutable
      | _ => .error .denied

/-- How many scripts may name each other. -/
def depth : Nat := 6

def load (m : State) (t : Task) (mayBeShell : Bool) (searchPath name : Raw) (argv : List Raw) : Loaded :=
  let t := { t with descriptors := t.descriptors.filter (·.1 < 10) }
  if name = [] then .error .notFound
  else
    let tried := (SearchPath.candidates searchPath name).map fun path => loadPath m t mayBeShell depth path argv
    let isFinal : Loaded → Bool
      | .ok _ => true
      | .error e => name.contains '/' || (e ≠ .notFound && e ≠ .notDirectory && e ≠ .denied)
    match tried.find? isFinal with
    | some loaded => loaded
    | none => .error (if tried.any fun | .error .denied => true | _ => false then .denied else .notFound)

end Buildwatch.Machine.Loading
