import Buildwatch.Machine.Shell.BuiltIns

/-!
# Simple commands

A simple command is expanded, its files are opened and its variables set; then a function,
a built-in command or a program does the work.
-/

namespace Buildwatch.Machine.Shell

open Act

/-! ## Expanding -/

/-- The commands that give values to variables; such values are not split into fields. -/
def declaringCommands : List Raw := ["alias", "export", "local", "readonly"].map Raw.ascii

def isDeclaring (isFunction : Raw → Bool) (given : List Raw) : Bool :=
  match given.find? (· ≠ Raw.ascii "command") with
  | some name => declaringCommands.contains name && !isFunction name
  | none => false

def expandWords (v : View) (isFunction : Raw → Bool) : (given : List Raw) → List Word → Expand (List Raw)
  | given, [] => return given
  | given, w :: ws => do
    match if isDeclaring isFunction given then Grammar.assignment? w else none with
    | some (name, value) =>
      let value ← expandValue value
      expandWords v isFunction (given ++ [name ++ '=' :: value]) ws
    | none =>
      let fields ← expandArguments v.files v.cwd [w]
      expandWords v isFunction (given ++ fields) ws

structure Expanded where
  args : List Raw
  openings : List Opening
  assigned : List (Raw × Raw)

/-- Expands a simple command. Each of its assignments can use the ones before it, and without a
command they last. -/
def expandSimple (v : View) (isFunction : Raw → Bool) (assignments : List (Raw × Word)) (words : List Word)
    (redirections : List Redirection) : Expand Expanded := do
  let args ← expandWords v isFunction [] words
  let openings ← redirections.mapM expandRedirection
  let before := (← getThe Expanding).scope.bindings
  let mut assigned : List (Raw × Raw) := []
  for (name, w) in assignments do
    let value ← expandValue w
    assignNamed name value
    assigned := assigned ++ [(name, value)]
  if !args.isEmpty then
    let names := (assigned.map (·.1)).eraseDups
    modify fun x =>
      { x with scope := names.foldl (fun s n => restored s n (before.lookup n)) x.scope }
  return { args, openings, assigned }

/-! ## Tracing -/

/-- What stands in front of commands that are shown. -/
def traceMark (s : Shell) : Raw :=
  let mark := (s.scope.textOf? (Raw.ascii "PS4")).getD []
  match Grammar.textWord mark with
  | .ok w =>
    match (expandText w).run { scope := s.scope, outputs := [] } with
    | .ok (text, _) => text
    | .error _ => mark
  | .error _ => mark

def trace (e : Expanded) (saved : List (Nat × Option Nat)) : Act Unit := do
  let s ← get
  if s.scope.options.contains 'x' then
    let words := (e.assigned.map fun (n, v) => n ++ '=' :: v) ++ e.args
    let descriptor := match saved.lookup 2 with
      -- The command is shown where reports went before its own files were opened.
      | some (some hidden) => hidden
      | _ => 2
    discard <| write descriptor (traceMark s ++ Raw.join [' '] words ++ ['\n'])

/-! ## Variables -/

/-- The name of the variable that tells how far arguments have been read as options. -/
def indexName : Raw := Raw.ascii "OPTIND"

/-- Begins to read options anew if that is asked for by an assignment. -/
def heedIndex (assigned : List (Raw × Raw)) : Act Unit := do
  match assigned.lookup indexName with
  | none => pure ()
  | some value =>
    match Raw.natural? value with
    | some n => update fun s => { s with progress := { index := max 1 n } }
    | none => fail (Raw.ascii "Illegal number: " ++ value)

def assignAll (isExported : Bool) (assigned : List (Raw × Raw)) : Act Unit := do
  for (name, value) in assigned do
    if (← get).scope.isReadonly name then fail (name ++ Raw.ascii ": is read only")
    onScope fun s =>
      (s.assign name value).update name fun v => { v with isExported := v.isExported || isExported }
  heedIndex assigned

/-- Sets variables for the time that a command takes. -/
def assignForNow (assigned : List (Raw × Raw)) : Act Unit := do
  if !assigned.isEmpty then
    let bindings := (← get).scope.bindings
    push (.bindings (assigned.map fun (n, _) => (n, bindings.lookup n)))
    assignAll true assigned

/-! ## Programs -/

/-- What is said of a program that cannot be run. -/
def loadingReason (name : Raw) (e : FileError) : Raw :=
  if name = [] then Raw.ascii ": " ++ Raw.ascii FileError.denied.text
  else if e = .notFound || e = .notDirectory then name ++ Raw.ascii ": not found"
  else name ++ Raw.ascii ": " ++ Raw.ascii e.text

def loadingStatus (isFound : Bool) (e : FileError) : Nat :=
  if !isFound || [.notFound, .notDirectory, .tooManyLinks, .nameTooLong].contains e then 127 else 126

/-- Runs a program in the place of the shell, or in a child. -/
def runProgram (assigned : List (Raw × Raw)) (path : Raw) (args : List Raw) (isExec inPlace : Bool) :
    Act Unit := do
  let s ← get
  let v ← view
  let t ← self
  let name := args.head?.getD []
  let scope := assigned.foldl (fun (scope : Scope) (n, value) =>
    -- The assignments are for the program alone.
    (scope.assign n value).update n fun v => { v with isExported := true }) s.scope
  let found? := BuiltIn.find? v path name
  match found? with
  | some found => if !name.contains '/' then BuiltIn.remember name path found
  | none => pure ()
  let pid ← if inPlace then pure t.pid else fresh
  let task : Task := { t with environment := scope.environment }
  let task := if inPlace then task else { task with pid, parent := t.pid, pending := [] }
  match Loading.load (← machine) task true path name args with
  | .ok loaded =>
    if inPlace then
      onSelf fun _ => loaded
      forgetUnused
      stop
    else
      discard claimNumber
      onMachine fun m => { m with tasks := m.tasks ++ [loaded] }
      push (.await [pid])
  | .error e =>
    let status := loadingStatus (found?.isSome || name.contains '/') e
    if isExec then
      complainOf "exec" (loadingReason name e)
      leave status
    else
      complain (loadingReason name e)
      setStatus status

/-! ## Simple commands -/

/-- What a command is, behind the words that only say how it is looked for. -/
structure Target where
  args : List Raw
  /-- Whether functions are passed over, and mistakes do not end the shell. -/
  isPlain : Bool := false
  /-- Whether the search path that is always there is used. -/
  isStandard : Bool := false

def targetOf : (fuel : Nat) → Target → Target
  | 0, t => t
  | fuel + 1, t =>
    match t.args with
    | first :: rest =>
      if first ≠ Raw.ascii "command" then t
      else
        let (flags, operands) := rest.span fun a => a.head? = some '-' && a ≠ ['-'] && a ≠ ['-', '-']
        let operands := if operands.head? = some ['-', '-'] then operands.drop 1 else operands
        if operands.isEmpty || !flags.all (fun f => (f.drop 1).all (· = 'p')) then { t with isPlain := true }
        else
          targetOf fuel
            { args := operands, isPlain := true, isStandard := t.isStandard || !flags.isEmpty }
    | [] => t

/-- Carries out a simple command. -/
def runSimple (line : Nat) (assignments : List (Raw × Word)) (words : List Word)
    (redirections : List Redirection) (isLast : Bool) (outputs : List (Raw × Nat)) : Act Unit := do
  update fun s => { s with line }
  let functions := (← get).functions
  let isFunction (name : Raw) : Bool := (functions.lookup name).isSome
  let again (outputs : List (Raw × Nat)) : Frame :=
    .run (.simple line assignments words redirections) isLast outputs
  let e ← expand again outputs (expandSimple (← view) isFunction assignments words redirections)
  let target := targetOf e.args.length { args := e.args }
  let args := target.args
  let name := args.head?.getD []
  let word := String.ofList name
  let function := if target.isPlain then none else functions.lookup name
  -- Mistakes of these commands end the shell, and their assignments last.
  let isSpecial := !target.isPlain && function.isNone && Grammar.specialBuiltIns.contains word
  let isExec := function.isNone && word = "exec"
  let (result, saved) ← openAll (!isExec) e.openings []
  match result with
  | .error reason =>
    restoreFiles saved
    if isSpecial then fail reason
    complain reason
    setStatus 2
    stop
  | .ok () => pure ()
  trace e saved
  let keepFiles : Act Unit := do
    if !saved.isEmpty then push (.restore saved)
  let s ← get
  let path := if target.isStandard then Raw.ascii Programs.searchPath else
    ((e.assigned.lookup (Raw.ascii "PATH")).getD (BuiltIn.searchPath s.scope))
  -- Without words there is nothing to carry out, and the last output gives the status.
  if args.isEmpty then
    restoreFiles saved
    heedIndex e.assigned
    setStatus ((outputs.getLast?.map (·.2)).getD 0)
  else if isExec then
    if args.length ≤ 1 then
      assignAll false e.assigned
      setStatus 0
    else runProgram e.assigned path (args.drop 1) true true
  else
    match function with
    | some body =>
      keepFiles
      assignForNow e.assigned
      push (.leave s.scope.arguments s.progress [])
      onScope fun s => { s with arguments := args.drop 1 }
      update fun s => { s with progress := {} }
      push (.run body false [])
    | none =>
      if BuiltIn.isBuiltIn name then
        keepFiles
        if isSpecial then assignAll false e.assigned else assignForNow e.assigned
        runBuiltIn word (args.drop 1) isSpecial
      else
        let hasTraps := s.traps.any fun (_, action) => action ≠ []
        -- A shell with actions for signals has to be there when they arrive.
        let inPlace := isLast && !hasTraps
        if !inPlace then keepFiles
        runProgram e.assigned path args false inPlace

end Buildwatch.Machine.Shell
