import Buildwatch.Machine.Shell.BuiltIn.Basic

/-!
# Built-in commands on names of commands

Names may stand for other texts; what a name stands for is told, and where programs were
found is remembered.
-/

namespace Buildwatch.Machine.Shell.BuiltIn

open Act

/-! ## Names for texts -/

def aliasRow (a : Raw × Raw) : Raw := a.1 ++ '=' :: quoteValue a.2

/-- Defines or shows aliases. -/
def aliases (args : List Raw) : BuiltIn Nat := do
  let sorted := (← get).aliases.mergeSort fun a b => Scope.chainOf 39 a.1 ≤ Scope.chainOf 39 b.1
  if args.isEmpty then
    for a in sorted do sayLine (aliasRow a)
  let mut status := 0
  for arg in args do
    match splitAssignment arg with
    | (c :: name, some text) =>
      let name := c :: name
      update fun s =>
        { s with aliases :=
            if s.aliases.any (·.1 = name) then
              s.aliases.map fun a => if a.1 = name then (name, text) else a
            else s.aliases ++ [(name, text)] }
    | _ =>
      match (← get).aliases.lookup arg with
      | some text => sayLine (aliasRow (arg, text))
      | none =>
        discard <| write 2 (Raw.ascii "alias: " ++ arg ++ Raw.ascii " not found\n")
        status := 1
  return status

def unalias (args : List Raw) : BuiltIn Nat := do
  let (given, names) ← letters "a" args
  if given.contains 'a' then
    update fun s => { s with aliases := [] }
    return 0
  let mut status := 0
  for name in names do
    if (← get).aliases.any (·.1 = name) then
      update fun s => { s with aliases := s.aliases.filter (·.1 ≠ name) }
    else
      discard <| write 2 (Raw.ascii "unalias: " ++ name ++ Raw.ascii " not found\n")
      status := 1
  return status

/-! ## Programs -/

def searchPath (s : Scope) : Raw := (s.textOf? (Raw.ascii "PATH")).getD []

def find? (v : View) (path name : Raw) : Option Raw :=
  if name.contains '/' then if (v.node? true name).isSome then some name else none
  else SearchPath.find? v.files v.cwd path name

def remember (name path found : Raw) : Act Unit :=
  update fun s =>
    { s with known := s.known.filter (fun (n, p, _) => n ≠ name && p = path) ++ [(name, path, found)] }

/-- The programs whose places are known. -/
def knownPrograms (s : Shell) : List (Raw × Raw) :=
  let path := searchPath s.scope
  let here := s.known.filterMap fun (n, p, found) => if p = path then some (n, found) else none
  here.mergeSort fun a b => Scope.chainOf 31 a.1 ≤ Scope.chainOf 31 b.1

/-- The commands that are built in and have no special rules. -/
def plainBuiltIns : List String :=
  ["[", "alias", "bg", "cd", "chdir", "command", "echo", "false", "fg", "getopts", "hash", "jobs",
    "kill", "printf", "pwd", "read", "test", "true", "type", "ulimit", "umask", "unalias", "wait"]

def isBuiltIn (name : Raw) : Bool := (Grammar.specialBuiltIns ++ plainBuiltIns).contains (String.ofList name)

/-- Finds programs and remembers them, or shows which ones are known. -/
def hash (args : List Raw) : BuiltIn Nat := do
  let (given, names) ← letters "r" args
  let s ← get
  if given.contains 'r' then
    update fun s => { s with known := [] }
    return 0
  if names.isEmpty then
    for (_, found) in knownPrograms s do sayLine found
  let v ← view
  let mut status := 0
  for name in names do
    if !isBuiltIn name && (s.functions.lookup name).isNone && !name.contains '/' then
      match find? v (searchPath s.scope) name with
      | some found => remember name (searchPath s.scope) found
      | none =>
        complainOf "hash" (name ++ Raw.ascii ": not found")
        status := 1
  return status

/-! ## What names stand for -/

/-- What a name stands for, in short and in words. -/
def meaning? (s : Shell) (v : View) (path : Option Raw) (name : Raw) : Option (Raw × Raw) :=
  let same (text : String) : Option (Raw × Raw) := some (name, Raw.ascii text)
  if Grammar.isReserved name then same " is a shell keyword"
  else
    match s.aliases.lookup name with
    | some text => some (Raw.ascii "alias " ++ aliasRow (name, text), Raw.ascii " is an alias for " ++ text)
    | none =>
      if (s.functions.lookup name).isSome then same " is a shell function"
      else if Grammar.specialBuiltIns.contains (String.ofList name) then same " is a special shell builtin"
      else if isBuiltIn name then same " is a shell builtin"
      else
        match if path.isNone then (knownPrograms s).lookup name else none with
        | some found => some (found, Raw.ascii " is a tracked alias for " ++ found)
        | none =>
          (find? v (path.getD (searchPath s.scope)) name).map fun found => (found, Raw.ascii " is " ++ found)

/-- Tells what a name stands for. -/
def describe (isLong : Bool) (path : Option Raw) (name : Raw) : BuiltIn Nat := do
  match meaning? (← get) (← view) path name with
  | some (short, long) =>
    sayLine (if isLong then name ++ long else short)
    return 0
  | none =>
    if isLong then sayLine (name ++ Raw.ascii ": not found")
    return 127

def type (names : List Raw) : BuiltIn Nat := do
  let mut status := 0
  for name in names do
    if (← describe true none name) ≠ 0 then status := 127
  return status

/-- Tells what a name stands for, on the search path that is always there if that is asked for. -/
def command (args : List Raw) : BuiltIn Nat := do
  let (given, operands) ← letters "pvV" args
  let path := if given.contains 'p' then some (Raw.ascii Programs.searchPath) else none
  match operands, given.contains 'v' || given.contains 'V' with
  | name :: _, true => describe (given.contains 'V') path name
  | _, _ => return 0

end Buildwatch.Machine.Shell.BuiltIn
